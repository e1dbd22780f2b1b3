import Mathlib.Data.Option.Basic
import Provisioning.Proofs.Message.EnvelopeDelivery

/-!
# The first kind of every body

The writers put one body into a message for each kind that is filled, in the order domain, host,
contact. The readers of a create, a delete, an info, an update and a transfer take the first body
and skip the others, and so do the readers of result data, verb by verb; only the reader of a check
takes them all. So a message is read from its document as if it had nothing but the first kind of
every body (`ofElement_first`), and that is a message in which nothing is ambiguous (`plain_first`).
-/

namespace Provisioning

open Markup Markup.Element

/-! ## What stands behind something -/

/-- The value, unless something comes before it. -/
def behind {α : Type} (earlier : Bool) (o : Option α) : Option α := if earlier then none else o

section Behind

variable {α β γ : Type} {a : Option α} {b : Option β} {c : Option γ}

@[simp] theorem behind_true : behind true a = none := rfl

@[simp] theorem behind_false : behind false a = a := rfl

theorem atMostOne_behind_two : AtMostOne [a.isSome, (behind a.isSome b).isSome] := by
  cases a <;> cases b <;> simp [AtMostOne]

theorem atMostOne_behind_three : AtMostOne [a.isSome, (behind a.isSome b).isSome,
    (behind (a.isSome || b.isSome) c).isSome] := by
  cases a <;> cases b <;> cases c <;> simp [AtMostOne]

theorem behind_of_atMostOne_two (h : AtMostOne [a.isSome, b.isSome]) : behind a.isSome b = b := by
  rcases atMostOne_two h with ⟨rfl, rfl⟩ | ⟨x, rfl, rfl⟩ | ⟨y, rfl, rfl⟩ <;> rfl

theorem behind_of_atMostOne_three (h : AtMostOne [a.isSome, b.isSome, c.isSome]) :
    behind a.isSome b = b ∧ behind (a.isSome || b.isSome) c = c := by
  rcases atMostOne_three h with ⟨rfl, rfl, rfl⟩ | ⟨x, rfl, rfl, rfl⟩ | ⟨y, rfl, rfl, rfl⟩ |
    ⟨z, rfl, rfl, rfl⟩ <;> exact ⟨rfl, rfl⟩

variable {f : α → Element} {g : β → Element} {k : γ → Element}

/-- The first element of a row does not tell whether there are more. -/
theorem head?_behind_two :
    ((a.map f).toList ++ ((behind a.isSome b).map g).toList).head? =
      ((a.map f).toList ++ (b.map g).toList).head? := by
  cases a <;> rfl

theorem head?_behind_three :
    ((a.map f).toList ++ ((behind a.isSome b).map g).toList ++
        ((behind (a.isSome || b.isSome) c).map k).toList).head? =
      ((a.map f).toList ++ (b.map g).toList ++ (c.map k).toList).head? := by
  cases a <;> cases b <;> rfl

/-- Trimming leaves the front of a row where it is. -/
theorem head?_children_trimmed {e e' : Element} (h : e.children.head? = e'.children.head?) :
    e.trimmed.children.head? = e'.trimmed.children.head? := by
  rw [children_trimmed, children_trimmed, head?_trimmedAll, head?_trimmedAll, h]

end Behind

/-! ## Commands -/

namespace Create

/-- The create of the first kind only. -/
def first (x : Create) : Create :=
  { x with
    host := behind x.domain.isSome x.host
    contact := behind (x.domain.isSome || x.host.isSome) x.contact }

theorem first_eq {x : Create} (h : AtMostOne [x.domain.isSome, x.host.isSome, x.contact.isSome]) :
    x.first = x := by
  obtain ⟨hhost, hcontact⟩ := behind_of_atMostOne_three h
  rw [first, hhost, hcontact]

theorem ofElement_first (x : Create) :
    ofElement x.first.toElement.trimmed = ofElement x.toElement.trimmed := by
  have hhead : x.first.toElement.children.head? = x.toElement.children.head? := head?_behind_three
  rw [ofElement, ofElement, head?_children_trimmed hhead]

end Create

namespace Delete

/-- The delete of the first kind only. -/
def first (x : Delete) : Delete :=
  { x with
    host := behind x.domain.isSome x.host
    contact := behind (x.domain.isSome || x.host.isSome) x.contact }

theorem first_eq {x : Delete} (h : AtMostOne [x.domain.isSome, x.host.isSome, x.contact.isSome]) :
    x.first = x := by
  obtain ⟨hhost, hcontact⟩ := behind_of_atMostOne_three h
  rw [first, hhost, hcontact]

theorem ofElement_first (x : Delete) :
    ofElement x.first.toElement.trimmed = ofElement x.toElement.trimmed := by
  have hhead : x.first.toElement.children.head? = x.toElement.children.head? := head?_behind_three
  rw [ofElement, ofElement, head?_children_trimmed hhead]

end Delete

namespace Info

/-- The info of the first kind only. -/
def first (x : Info) : Info :=
  { x with
    host := behind x.domain.isSome x.host
    contact := behind (x.domain.isSome || x.host.isSome) x.contact }

theorem first_eq {x : Info} (h : AtMostOne [x.domain.isSome, x.host.isSome, x.contact.isSome]) :
    x.first = x := by
  obtain ⟨hhost, hcontact⟩ := behind_of_atMostOne_three h
  rw [first, hhost, hcontact]

theorem ofElement_first (x : Info) :
    ofElement x.first.toElement.trimmed = ofElement x.toElement.trimmed := by
  have hhead : x.first.toElement.children.head? = x.toElement.children.head? := head?_behind_three
  rw [ofElement, ofElement, head?_children_trimmed hhead]

end Info

namespace Update

/-- The update of the first kind only. -/
def first (x : Update) : Update :=
  { x with
    host := behind x.domain.isSome x.host
    contact := behind (x.domain.isSome || x.host.isSome) x.contact }

theorem first_eq {x : Update} (h : AtMostOne [x.domain.isSome, x.host.isSome, x.contact.isSome]) :
    x.first = x := by
  obtain ⟨hhost, hcontact⟩ := behind_of_atMostOne_three h
  rw [first, hhost, hcontact]

theorem ofElement_first (x : Update) :
    ofElement x.first.toElement.trimmed = ofElement x.toElement.trimmed := by
  have hhead : x.first.toElement.children.head? = x.toElement.children.head? := head?_behind_three
  rw [ofElement, ofElement, head?_children_trimmed hhead]

end Update

namespace Transfer

/-- The transfer of the first kind only. -/
def first (x : Transfer) : Transfer := { x with contact := behind x.domain.isSome x.contact }

theorem first_eq {x : Transfer} (h : AtMostOne [x.domain.isSome, x.contact.isSome]) :
    x.first = x := by
  rw [first, behind_of_atMostOne_two h]

theorem ofElement_first (x : Transfer) :
    ofElement x.first.toElement.trimmed = ofElement x.toElement.trimmed := by
  have hhead : x.first.toElement.children.head? = x.toElement.children.head? := head?_behind_two
  have hop : x.first.toElement.attr? "op" = x.toElement.attr? "op" := rfl
  rw [ofElement, ofElement, attr?_trimmed, attr?_trimmed, hop, head?_children_trimmed hhead]

end Transfer

section Parts

variable {α β : Type} {read : Element → β} {write : α → Element} {first : α → α} {e e' : Element}
  {name : String} {o : Option α}

/-- A part is read as its first kind is, if its own element is. -/
theorem map_child?_first (h : named name e.children = (o.map write).toList)
    (h' : named name e'.children = ((o.map first).map write).toList)
    (hread : ∀ a, read (write (first a)).trimmed = read (write a).trimmed) :
    (e'.trimmed.child? name).map read = (e.trimmed.child? name).map read := by
  rw [child?_written h, child?_written h']
  cases o with
  | none => rfl
  | some a => exact congrArg some (hread a)

/-- Only the first part of a name is looked at. -/
theorem child?_first (h : (named name e'.children).head? = (named name e.children).head?) :
    e'.trimmed.child? name = e.trimmed.child? name := by
  rw [child?_eq, child?_eq, children_trimmed, children_trimmed, named_trimmedAll, named_trimmedAll,
    head?_trimmedAll, head?_trimmedAll, h]

theorem readChild_congr {read : Element → Reading β}
    (h : (e'.child? name).map read = (e.child? name).map read) :
    readChild read e' name = readChild read e name := by
  have hread (e : Element) : readChild read e name =
      match (e.child? name).map read with
      | none => .ok none
      | some r => r.map some := by
    rw [readChild]
    cases e.child? name <;> rfl
  rw [hread, hread, h]

end Parts

namespace Command

/-- The command with the first kind only of every body of which one is read. -/
def first (c : Command) : Command :=
  { c with
    create := c.create.map (·.first)
    info := c.info.map (·.first)
    delete := c.delete.map (·.first)
    update := c.update.map (·.first)
    transfer := c.transfer.map (·.first) }

/-- A command in which nothing is ambiguous has first kinds only. -/
theorem first_eq {c : Command} (h : c.Plain) : c.first = c := by
  rw [first, optionMap_self fun x hx => Create.first_eq (h.create x hx),
    optionMap_self fun x hx => Info.first_eq (h.info x hx),
    optionMap_self fun x hx => Delete.first_eq (h.delete x hx),
    optionMap_self fun x hx => Update.first_eq (h.update x hx),
    optionMap_self fun x hx => Transfer.first_eq (h.transfer x hx)]

theorem plain_first {c : Command} (h : ∀ x ∈ c.extension, x.untyped = []) : c.first.Plain where
  create := Option.forall_mem_map.mpr fun _ _ => atMostOne_behind_three
  info := Option.forall_mem_map.mpr fun _ _ => atMostOne_behind_three
  delete := Option.forall_mem_map.mpr fun _ _ => atMostOne_behind_three
  update := Option.forall_mem_map.mpr fun _ _ => atMostOne_behind_three
  transfer := Option.forall_mem_map.mpr fun _ _ => atMostOne_behind_two
  extension := h

theorem ofElement_first (c : Command) :
    ofElement c.first.toElement.trimmed = ofElement c.toElement.trimmed := by
  -- the parts that are read for one kind
  have hcreate := map_child?_first c.named_create c.first.named_create Create.ofElement_first
  have hinfo := map_child?_first c.named_info c.first.named_info Info.ofElement_first
  have hdelete := map_child?_first c.named_delete c.first.named_delete Delete.ofElement_first
  have hupdate := map_child?_first c.named_update c.first.named_update Update.ofElement_first
  have htransfer := map_child?_first c.named_transfer c.first.named_transfer
    Transfer.ofElement_first
  -- the parts that are the same
  have hlogin : c.first.toElement.trimmed.child? "login" = c.toElement.trimmed.child? "login" :=
    child?_first (by rw [c.first.named_login, c.named_login]; rfl)
  have hcheck : c.first.toElement.trimmed.child? "check" = c.toElement.trimmed.child? "check" :=
    child?_first (by rw [c.first.named_check, c.named_check]; rfl)
  have hrenew : c.first.toElement.trimmed.child? "renew" = c.toElement.trimmed.child? "renew" :=
    child?_first (by rw [c.first.named_renew, c.named_renew]; rfl)
  have hpoll : c.first.toElement.trimmed.child? "poll" = c.toElement.trimmed.child? "poll" :=
    child?_first (by rw [c.first.named_poll, c.named_poll]; rfl)
  have hextension : c.first.toElement.trimmed.child? "extension" =
      c.toElement.trimmed.child? "extension" :=
    child?_first (by rw [c.first.named_extension, c.named_extension]; rfl)
  rw [ofElement, ofElement, readChild_congr hcreate, readChild_congr htransfer,
    readChild_congr (congrArg _ hrenew), readChild_congr (congrArg _ hpoll), hinfo, hdelete,
    hupdate, hlogin, hcheck, hextension, hasChild_logout, hasChild_logout, childText_id,
    childText_id]
  rfl

end Command

/-! ## Responses -/

namespace ResultData

/-- The data of the first kind only, verb by verb. -/
def first (x : ResultData) : ResultData :=
  { x with
    hostCheck := behind x.domainCheck.isSome x.hostCheck
    contactCheck := behind (x.domainCheck.isSome || x.hostCheck.isSome) x.contactCheck
    hostCreate := behind x.domainCreate.isSome x.hostCreate
    contactCreate := behind (x.domainCreate.isSome || x.hostCreate.isSome) x.contactCreate
    hostInfo := behind x.domainInfo.isSome x.hostInfo
    contactInfo := behind (x.domainInfo.isSome || x.hostInfo.isSome) x.contactInfo
    contactTransfer := behind x.domainTransfer.isSome x.contactTransfer }

theorem first_eq {x : ResultData} (h : x.Plain) : x.first = x := by
  obtain ⟨hcheck, hcreate, hinfo, htransfer⟩ := h
  obtain ⟨hhostCheck, hcontactCheck⟩ := behind_of_atMostOne_three hcheck
  obtain ⟨hhostCreate, hcontactCreate⟩ := behind_of_atMostOne_three hcreate
  obtain ⟨hhostInfo, hcontactInfo⟩ := behind_of_atMostOne_three hinfo
  rw [first, hhostCheck, hcontactCheck, hhostCreate, hcontactCreate, hhostInfo, hcontactInfo,
    behind_of_atMostOne_two htransfer]

theorem plain_first (x : ResultData) : x.first.Plain where
  check := atMostOne_behind_three
  create := atMostOne_behind_three
  info := atMostOne_behind_three
  transfer := atMostOne_behind_two

/-! The elements of one verb stand in the row in the order of the kinds. -/

section Row

variable (x : ResultData)

theorem named_checked : named "chkData" x.toElement.children =
    (x.domainCheck.map (checkedElement .domain)).toList ++
      (x.hostCheck.map (checkedElement .host)).toList ++
      (x.contactCheck.map (checkedElement .contact)).toList := by
  simp [toElement]

theorem named_created : named "creData" x.toElement.children =
    (x.domainCreate.map (·.toElement)).toList ++ (x.hostCreate.map (·.toElement)).toList ++
      (x.contactCreate.map (·.toElement)).toList := by
  simp [toElement]

theorem named_known : named "infData" x.toElement.children =
    (x.domainInfo.map (·.toElement)).toList ++ (x.hostInfo.map (·.toElement)).toList ++
      (x.contactInfo.map (·.toElement)).toList := by
  simp [toElement]

theorem named_renewed :
    named "renData" x.toElement.children = (x.domainRenew.map (·.toElement)).toList := by
  simp [toElement]

theorem named_transferred : named "trnData" x.toElement.children =
    (x.domainTransfer.map (·.toElement)).toList ++
      (x.contactTransfer.map (·.toElement)).toList := by
  simp [toElement]

end Row

theorem ofElement_first (x : ResultData) :
    ofElement x.first.toElement.trimmed = ofElement x.toElement.trimmed := by
  have hchecked : x.first.toElement.trimmed.child? "chkData" =
      x.toElement.trimmed.child? "chkData" :=
    child?_first (by rw [named_checked, named_checked]; exact head?_behind_three)
  have hcreated : x.first.toElement.trimmed.child? "creData" =
      x.toElement.trimmed.child? "creData" :=
    child?_first (by rw [named_created, named_created]; exact head?_behind_three)
  have hknown : x.first.toElement.trimmed.child? "infData" =
      x.toElement.trimmed.child? "infData" :=
    child?_first (by rw [named_known, named_known]; exact head?_behind_three)
  have hrenewed : x.first.toElement.trimmed.child? "renData" =
      x.toElement.trimmed.child? "renData" :=
    child?_first (by rw [named_renewed, named_renewed]; rfl)
  have htransferred : x.first.toElement.trimmed.child? "trnData" =
      x.toElement.trimmed.child? "trnData" :=
    child?_first (by rw [named_transferred, named_transferred]; exact head?_behind_two)
  rw [ofElement, ofElement, hchecked, hcreated, hknown, hrenewed, htransferred]

end ResultData

namespace Response

/-- The response with the first kind only of every verb of its data. -/
def first (r : Response) : Response := { r with data := r.data.map (·.first) }

theorem first_eq {r : Response} (h : r.Plain) : r.first = r := by
  rw [first, optionMap_self fun d hd => ResultData.first_eq (h.data d hd)]

theorem plain_first {r : Response} (h : ∀ x ∈ r.extension, x.untyped = []) : r.first.Plain where
  data := Option.forall_mem_map.mpr fun d _ => d.plain_first
  extension := h

theorem ofElement_first (r : Response) :
    ofElement r.first.toElement.trimmed = ofElement r.toElement.trimmed := by
  have hdata := map_child?_first r.named_data r.first.named_data ResultData.ofElement_first
  have hextension : r.first.toElement.trimmed.child? "extension" =
      r.toElement.trimmed.child? "extension" :=
    child?_first (by rw [r.first.named_extension, r.named_extension]; rfl)
  have hqueue : r.first.toElement.trimmed.child? "msgQ" = r.toElement.trimmed.child? "msgQ" := by
    rw [child?_queue, child?_queue, first]
  have hresult : r.first.toElement.trimmed.child? "result" =
      r.toElement.trimmed.child? "result" := by
    rw [child?_result, child?_result]
    rfl
  have hids : r.first.toElement.trimmed.child? "trID" = r.toElement.trimmed.child? "trID" := by
    rw [child?_ids, child?_ids, first]
  rw [ofElement, ofElement, require, require, hresult, hqueue, hdata, hextension, hids]

end Response

/-! ## Messages -/

namespace Envelope

/-- The message with the first kind only of everything that is read for one kind. -/
def first (e : Envelope) : Envelope :=
  { e with command := e.command.map (·.first), response := e.response.map (·.first) }

/-- A message in which nothing is ambiguous has first kinds only. -/
theorem first_eq {e : Envelope} (h : e.Plain) : e.first = e := by
  rw [first, optionMap_self fun c hc => Command.first_eq (h.command c hc),
    optionMap_self fun r hr => Response.first_eq (h.response r hr)]

/-- Nothing is ambiguous in the first kinds, if extensions hold nothing but what has a slot. -/
theorem plain_first {e : Envelope}
    (hcommand : ∀ c ∈ e.command, ∀ x ∈ c.extension, x.untyped = [])
    (hresponse : ∀ r ∈ e.response, ∀ x ∈ r.extension, x.untyped = []) : e.first.Plain where
  command := Option.forall_mem_map.mpr fun c hc => Command.plain_first (hcommand c hc)
  response := Option.forall_mem_map.mpr fun r hr => Response.plain_first (hresponse r hr)

/-- **A document is read for its first kinds only.** -/
theorem ofElement_first (e : Envelope) :
    ofElement e.first.toElement.trimmed = ofElement e.toElement.trimmed := by
  have hcommand := map_child?_first e.named_command e.first.named_command Command.ofElement_first
  have hresponse := map_child?_first e.named_response e.first.named_response
    Response.ofElement_first
  have hgreeting : e.first.toElement.trimmed.child? "greeting" =
      e.toElement.trimmed.child? "greeting" :=
    child?_first (by rw [e.first.named_greeting, e.named_greeting]; rfl)
  have hhello : e.first.toElement.trimmed.child? "hello" = e.toElement.trimmed.child? "hello" :=
    child?_first (by rw [e.first.named_hello, e.named_hello]; rfl)
  rw [ofElement, ofElement, readChild_congr hcommand, readChild_congr hresponse, hgreeting, hhello,
    attr?_xsi, attr?_xsi, attr?_schema, attr?_schema]
  rfl

end Envelope

end Provisioning
