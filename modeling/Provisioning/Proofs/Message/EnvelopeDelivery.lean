import Provisioning.Message.Envelope
import Provisioning.Proofs.Message.ExtensionDelivery
import Provisioning.Proofs.Message.ObjectDelivery
import Provisioning.Proofs.Message.ResultDelivery
import Provisioning.Proofs.Message.SessionDelivery

/-!
# How messages arrive

The parts of a message are found by their names, whatever other parts it has, so a message arrives
when each of its parts does. A message is `Plain` when nothing in it is ambiguous: every body has one
kind at most, and extensions hold nothing but what has a slot. It is `Canonical` when besides it has
no part that waits for typing, its texts are tidy, and none that may be left out is empty.
-/

namespace Provisioning

open Markup Markup.Element

/-! ## Parts that may be missing -/

/-- What is made of a reading tells that something was read. -/
theorem ok_of_map {α β : Type} {r : Reading α} {f : α → β} {b : β} (h : r.map f = .ok b) :
    ∃ a, r = .ok a ∧ f a = b := by
  cases r with
  | error fault => cases h
  | ok a => exact ⟨a, rfl, Except.ok.inj h⟩

section Parts

variable {α : Type} {typed deliver : α → α} {write : α → Element} {e : Element} {name : String}
  {o : Option α}

theorem child?_written (h : named name e.children = (o.map write).toList) :
    e.trimmed.child? name = o.map fun a => (write a).trimmed := by
  rw [child?_eq, children_trimmed, named_trimmedAll, h]
  cases o <;> rfl

/-- A part is read as what its own element is read as. -/
theorem map_child?_written {read : Element → α}
    (h : named name e.children = (o.map write).toList)
    (hread : ∀ a ∈ o, typed (read (write a).trimmed) = deliver a) :
    ((e.trimmed.child? name).map read).map typed = o.map deliver := by
  rw [child?_written h]
  cases o with
  | none => rfl
  | some a => simp [hread a rfl]

/-- The same for a part that cannot always be read. -/
theorem readChild_written {read : Element → Reading α}
    (h : named name e.children = (o.map write).toList)
    (hread : ∀ a ∈ o, (read (write a).trimmed).map typed = .ok (deliver a)) :
    ∃ u, readChild read e.trimmed name = .ok u ∧ u.map typed = o.map deliver := by
  rw [readChild, child?_written h]
  cases o with
  | none => exact ⟨none, rfl, rfl⟩
  | some a =>
      -- what is read is not named by the hypothesis, only what typing makes of it
      obtain ⟨u, hu, htyped⟩ := ok_of_map (hread a rfl)
      refine ⟨some u, ?_, ?_⟩
      · simp [hu, Except.map]
      · rw [Option.map_some, htyped, Option.map_some]

end Parts

/-! ## Commands -/

namespace Command

def delivered (c : Command) : Command :=
  { login := c.login.map (·.delivered)
    logout := c.logout
    check := c.check.map (·.delivered)
    create := c.create.map (·.delivered)
    info := c.info.map (·.delivered)
    delete := c.delete.map (·.delivered)
    update := c.update.map (·.delivered)
    transfer := c.transfer.map (·.delivered)
    renew := c.renew.map (·.delivered)
    poll := c.poll.map (·.delivered)
    extension := c.extension.map (·.delivered)
    transactionId := trimText c.transactionId }

/-- Nothing in the command is ambiguous. -/
structure Plain (c : Command) : Prop where
  create : ∀ x ∈ c.create, AtMostOne [x.domain.isSome, x.host.isSome, x.contact.isSome]
  info : ∀ x ∈ c.info, AtMostOne [x.domain.isSome, x.host.isSome, x.contact.isSome]
  delete : ∀ x ∈ c.delete, AtMostOne [x.domain.isSome, x.host.isSome, x.contact.isSome]
  update : ∀ x ∈ c.update, AtMostOne [x.domain.isSome, x.host.isSome, x.contact.isSome]
  transfer : ∀ x ∈ c.transfer, AtMostOne [x.domain.isSome, x.contact.isSome]
  extension : ∀ x ∈ c.extension, x.untyped = []

structure Canonical (c : Command) : Prop where
  login : ∀ x ∈ c.login, x.Canonical
  check : ∀ x ∈ c.check, x.Canonical
  create : ∀ x ∈ c.create, x.Canonical
  info : ∀ x ∈ c.info, x.Canonical
  delete : ∀ x ∈ c.delete, x.Canonical
  update : ∀ x ∈ c.update, x.Canonical
  transfer : ∀ x ∈ c.transfer, x.Canonical
  renew : ∀ x ∈ c.renew, x.Canonical
  poll : ∀ x ∈ c.poll, x.Canonical
  extension : ∀ x ∈ c.extension, x.Canonical
  transactionId : IsTidy c.transactionId

theorem Canonical.plain {c : Command} (h : c.Canonical) : c.Plain where
  create x hx := (h.create x hx).sole
  info x hx := (h.info x hx).sole
  delete x hx := (h.delete x hx).sole
  update x hx := (h.update x hx).sole
  transfer x hx := (h.transfer x hx).sole
  extension x hx := (h.extension x hx).untyped

theorem Canonical.delivered_eq {c : Command} (h : c.Canonical) : c.delivered = c := by
  rw [delivered, optionMap_self fun x hx => (h.login x hx).delivered_eq,
    optionMap_self fun x hx => (h.check x hx).delivered_eq,
    optionMap_self fun x hx => (h.create x hx).delivered_eq,
    optionMap_self fun x hx => (h.info x hx).delivered_eq,
    optionMap_self fun x hx => (h.delete x hx).delivered_eq,
    optionMap_self fun x hx => (h.update x hx).delivered_eq,
    optionMap_self fun x hx => (h.transfer x hx).delivered_eq,
    optionMap_self fun x hx => (h.renew x hx).delivered_eq,
    optionMap_self fun x hx => (h.poll x hx).delivered_eq,
    optionMap_self fun x hx => (h.extension x hx).delivered_eq, trimText_of_isTidy h.transactionId]

@[simp] theorem localName_toElement (c : Command) : c.toElement.localName = "command" := by
  simp [toElement]

theorem wellNamed_toElement {c : Command} (h : ∀ x ∈ c.extension, x.untyped = []) :
    c.toElement.WellNamed := by
  have hextension : ∀ x ∈ c.extension, x.toElement.WellNamed :=
    fun x hx => CommandExtension.wellNamed_toElement (h x hx)
  refine wellNamed_withAttr ?_ (by decide) (by simp) _
  simpa +decide [or_imp, forall_and] using hextension

/-! No two parts of a command share a name, so each is found alone in the row. -/

section Row

variable (c : Command)

theorem named_login : named "login" c.toElement.children = (c.login.map (·.toElement)).toList := by
  simp [toElement]

theorem named_check : named "check" c.toElement.children = (c.check.map (·.toElement)).toList := by
  simp [toElement]

theorem named_create :
    named "create" c.toElement.children = (c.create.map (·.toElement)).toList := by
  simp [toElement]

theorem named_info : named "info" c.toElement.children = (c.info.map (·.toElement)).toList := by
  simp [toElement]

theorem named_delete :
    named "delete" c.toElement.children = (c.delete.map (·.toElement)).toList := by
  simp [toElement]

theorem named_update :
    named "update" c.toElement.children = (c.update.map (·.toElement)).toList := by
  simp [toElement]

theorem named_transfer :
    named "transfer" c.toElement.children = (c.transfer.map (·.toElement)).toList := by
  simp [toElement]

theorem named_renew : named "renew" c.toElement.children = (c.renew.map (·.toElement)).toList := by
  simp [toElement]

theorem named_poll : named "poll" c.toElement.children = (c.poll.map (·.toElement)).toList := by
  simp [toElement]

theorem named_extension :
    named "extension" c.toElement.children = (c.extension.map (·.toElement)).toList := by
  simp [toElement]

theorem hasChild_logout : c.toElement.trimmed.hasChild "logout" = c.logout := by
  simp [toElement]

theorem childText_id : c.toElement.trimmed.childText "clTRID" = trimText c.transactionId := by
  simp [toElement]

end Row

/-- A command arrives part by part. -/
theorem typed_ofElement {c : Command} (h : c.Plain) :
    (ofElement c.toElement.trimmed).map typed = .ok c.delivered := by
  -- the four parts whose reading can fail, in the order in which they are read
  obtain ⟨create, hcreate, hcreated⟩ := readChild_written c.named_create
    fun x hx => Create.typed_ofElement (h.create x hx)
  obtain ⟨transfer, htransfer, htransferred⟩ := readChild_written c.named_transfer
    fun x hx => Transfer.typed_ofElement (h.transfer x hx)
  obtain ⟨renew, hrenew, hrenewed⟩ := readChild_written c.named_renew
    fun x _ => Renew.typed_ofElement x
  obtain ⟨poll, hpoll, hpolled⟩ := readChild_written c.named_poll
    fun x _ => congrArg (Except.map id) x.ofElement_toElement
  rw [Option.map_id_fun, id] at hpolled
  rw [ofElement, hcreate, htransfer, hrenew, hpoll]
  simp only [bind, Except.bind, pure, Except.pure, Except.map, typed, hasChild_logout, childText_id,
    delivered, hcreated, htransferred, hrenewed, hpolled, child?_written c.named_login,
    map_child?_written c.named_check fun x _ => x.typed_ofElement,
    map_child?_written c.named_info fun x hx => Info.typed_ofElement (h.info x hx),
    map_child?_written c.named_delete fun x hx => Delete.typed_ofElement (h.delete x hx),
    map_child?_written c.named_update fun x hx => Update.typed_ofElement (h.update x hx),
    map_child?_written c.named_extension
      fun x hx => CommandExtension.typed_ofElement (h.extension x hx),
    Option.map_map, Function.comp_def, Login.ofElement_toElement]
  rfl

end Command

/-! ## Responses -/

namespace MessageQueue

def delivered (q : MessageQueue) : MessageQueue :=
  { q with queued := filledText q.queued, message := filledText q.message }

structure Canonical (q : MessageQueue) : Prop where
  queued : IsTidyFilled q.queued
  message : IsTidyFilled q.message

theorem Canonical.delivered_eq {q : MessageQueue} (h : q.Canonical) : q.delivered = q := by
  rw [delivered, filledText_of_isTidyFilled h.queued, filledText_of_isTidyFilled h.message]

@[simp] theorem localName_toElement (q : MessageQueue) : q.toElement.localName = "msgQ" := by
  simp [Element.localName, toElement]

@[simp] theorem wellNamed_toElement (q : MessageQueue) : q.toElement.WellNamed :=
  .intro (by simp +decide [toElement]) (by simp +decide [toElement]) (by simp [toElement])
    (by simp +decide [toElement, or_imp, forall_and])

@[simp] theorem ofElement_toElement (q : MessageQueue) :
    ofElement q.toElement.trimmed = .ok q.delivered := by
  simp [ofElement, toElement, attr?, delivered, filledText, bind, Except.bind, pure, Except.pure,
    Function.comp_def]

end MessageQueue

namespace Response

def delivered (r : Response) : Response :=
  { code := r.code
    message := trimText r.message
    queue := r.queue.map (·.delivered)
    data := r.data.map (·.delivered)
    extension := r.extension.map (·.delivered)
    clientTransactionId := trimText r.clientTransactionId
    serverTransactionId := trimText r.serverTransactionId }

/-- Nothing in the response is ambiguous. -/
structure Plain (r : Response) : Prop where
  data : ∀ d ∈ r.data, d.Plain
  extension : ∀ x ∈ r.extension, x.untyped = []

structure Canonical (r : Response) : Prop where
  message : IsTidy r.message
  queue : ∀ q ∈ r.queue, q.Canonical
  data : ∀ d ∈ r.data, d.Canonical
  extension : ∀ x ∈ r.extension, x.Canonical
  clientTransactionId : IsTidy r.clientTransactionId
  serverTransactionId : IsTidy r.serverTransactionId

theorem Canonical.plain {r : Response} (h : r.Canonical) : r.Plain where
  data d hd := (h.data d hd).plain
  extension x hx := (h.extension x hx).untyped

theorem Canonical.delivered_eq {r : Response} (h : r.Canonical) : r.delivered = r := by
  rw [delivered, trimText_of_isTidy h.message,
    optionMap_self fun q hq => (h.queue q hq).delivered_eq,
    optionMap_self fun d hd => (h.data d hd).delivered_eq,
    optionMap_self fun x hx => (h.extension x hx).delivered_eq,
    trimText_of_isTidy h.clientTransactionId, trimText_of_isTidy h.serverTransactionId]

@[simp] theorem localName_toElement (r : Response) : r.toElement.localName = "response" := by
  simp [toElement]

/-- The element of the result. -/
def result (r : Response) : Element :=
  { name := "result", attrs := [("code", toString r.code.toNat)], children := [.leaf "msg" r.message] }

@[simp] theorem localName_result (r : Response) : r.result.localName = "result" := by
  simp [Element.localName, result]

theorem children_toElement (r : Response) :
    r.toElement.children = [r.result] ++ (r.queue.map (·.toElement)).toList ++
      (r.data.map (·.toElement)).toList ++ (r.extension.map (·.toElement)).toList ++
      [.node "trID" [.leaf "clTRID" r.clientTransactionId, .leaf "svTRID" r.serverTransactionId]] :=
  rfl

theorem wellNamed_toElement {r : Response} (h : ∀ x ∈ r.extension, x.untyped = []) :
    r.toElement.WellNamed := by
  have hresult : r.result.WellNamed :=
    .intro (by simp +decide [result]) (by simp +decide [result]) (by simp [result])
      (by simp +decide [result])
  have hextension : ∀ x ∈ r.extension, x.toElement.WellNamed :=
    fun x hx => ResponseExtension.wellNamed_toElement (h x hx)
  refine wellNamed_node.mpr ⟨by decide, ?_⟩
  change ∀ c ∈ r.toElement.children, c.WellNamed
  rw [children_toElement]
  simpa +decide [or_imp, forall_and, hresult] using hextension

/-! The parts of a response are found alone in their row. -/

theorem named_data (r : Response) :
    named "resData" r.toElement.children = (r.data.map (·.toElement)).toList := by
  simp [children_toElement]

theorem named_extension (r : Response) :
    named "extension" r.toElement.children = (r.extension.map (·.toElement)).toList := by
  simp [children_toElement]

theorem child?_result (r : Response) :
    r.toElement.trimmed.child? "result" = some r.result.trimmed := by
  simp [children_toElement]

theorem child?_queue (r : Response) :
    r.toElement.trimmed.child? "msgQ" = r.queue.map fun q => q.toElement.trimmed :=
  child?_written (by simp [children_toElement])

theorem child?_ids (r : Response) : r.toElement.trimmed.child? "trID" = some (Element.node "trID"
    [.leaf "clTRID" r.clientTransactionId, .leaf "svTRID" r.serverTransactionId]).trimmed := by
  simp [children_toElement]

theorem attr?_code (r : Response) :
    (r.result.trimmed.attr? "code").getD "" = r.code.toNat.repr := by
  simp [result, attr?]

/-- A response arrives part by part. -/
theorem typed_ofElement {r : Response} (h : r.Plain) :
    (ofElement r.toElement.trimmed).map typed = .ok r.delivered := by
  have hmessage : r.result.trimmed.childText "msg" = trimText r.message := by
    simp [result]
  have hdata := map_child?_written r.named_data fun d hd => ResultData.typed_ofElement (h.data d hd)
  have hextension := map_child?_written r.named_extension
    fun x hx => ResponseExtension.typed_ofElement (h.extension x hx)
  rw [ofElement, require, child?_result]
  -- only the result and the queue can fail to be read
  simp only [attr?_code, readNumber_u16, child?_ids, child?_queue, bind, Except.bind, pure,
    Except.pure]
  cases hq : r.queue <;>
    simp only [Option.map_none, Option.map_some, MessageQueue.ofElement_toElement, Except.map, typed,
      delivered, hmessage, hdata, hextension, hq] <;>
    simp

/-- Whatever the data, a response is read, with the client's identifier that was written. -/
theorem ofElement_trimmed (r : Response) : ∃ d, ofElement r.toElement.trimmed = .ok d ∧
    d.clientTransactionId = trimText r.clientTransactionId := by
  rw [ofElement, require, child?_result]
  simp only [attr?_code, readNumber_u16, child?_ids, child?_queue, bind, Except.bind, pure,
    Except.pure]
  cases r.queue with
  | none => exact ⟨_, rfl, by simp⟩
  | some q =>
      rw [Option.map_some]
      simp only [MessageQueue.ofElement_toElement, Except.map]
      exact ⟨_, rfl, by simp⟩

end Response

/-! ## Envelopes -/

namespace Envelope

def delivered (e : Envelope) : Envelope :=
  { e with
    command := e.command.map (·.delivered)
    greeting := e.greeting.map (·.delivered)
    response := e.response.map (·.delivered) }

/-- Nothing in the message is ambiguous. -/
structure Plain (e : Envelope) : Prop where
  command : ∀ c ∈ e.command, c.Plain
  response : ∀ r ∈ e.response, r.Plain

structure Canonical (e : Envelope) : Prop where
  command : ∀ c ∈ e.command, c.Canonical
  greeting : ∀ g ∈ e.greeting, g.Canonical
  response : ∀ r ∈ e.response, r.Canonical

theorem Canonical.plain {e : Envelope} (h : e.Canonical) : e.Plain where
  command c hc := (h.command c hc).plain
  response r hr := (h.response r hr).plain

theorem Canonical.delivered_eq {e : Envelope} (h : e.Canonical) : e.delivered = e := by
  rw [delivered, optionMap_self fun c hc => (h.command c hc).delivered_eq,
    optionMap_self fun g hg => (h.greeting g hg).delivered_eq,
    optionMap_self fun r hr => (h.response r hr).delivered_eq]

/-- The root before it declares anything. -/
def root (e : Envelope) : Element :=
  .node "epp" ((e.greeting.map (·.toElement)).toList ++ (e.hello.map (·.toElement)).toList ++
    (e.command.map (·.toElement)).toList ++ (e.response.map (·.toElement)).toList)

theorem toElement_eq (e : Envelope) :
    e.toElement = (e.root.withAttr? "xmlns:xsi" (if e.xsi = "" then none else some e.xsi)).withAttr?
      "xsi:schemaLocation" (if e.schema = "" then none else some e.schema) := rfl

/-- A message is well named when its parts are. -/
theorem wellNamed_of_parts {e : Envelope} (hcommand : ∀ c ∈ e.command, c.toElement.WellNamed)
    (hresponse : ∀ r ∈ e.response, r.toElement.WellNamed) : e.toElement.WellNamed := by
  have hroot : e.root.WellNamed := by
    simpa +decide [root, or_imp, forall_and] using ⟨hcommand, hresponse⟩
  rw [toElement_eq]
  refine wellNamed_withAttr? (wellNamed_withAttr? hroot (by decide) (by simp [root]) _) (by decide)
    ?_ _
  by_cases hxsi : e.xsi = "" <;> simp [root, hxsi]

theorem wellNamed_toElement {e : Envelope} (h : e.Plain) : e.toElement.WellNamed :=
  wellNamed_of_parts (fun c hc => Command.wellNamed_toElement (h.command c hc).extension)
    fun r hr => Response.wellNamed_toElement (h.response r hr).extension

theorem attr?_root (e : Envelope) (key : String) : e.root.attr? key = none := rfl

/-! The parts of a message are found alone in their row as well. -/

section Row

variable (e : Envelope)

theorem named_greeting :
    named "greeting" e.toElement.children = (e.greeting.map (·.toElement)).toList := by
  simp [toElement_eq, root]

theorem named_hello : named "hello" e.toElement.children = (e.hello.map (·.toElement)).toList := by
  simp [toElement_eq, root]

theorem named_command :
    named "command" e.toElement.children = (e.command.map (·.toElement)).toList := by
  simp [toElement_eq, root]

theorem named_response :
    named "response" e.toElement.children = (e.response.map (·.toElement)).toList := by
  simp [toElement_eq, root]

/-- An empty declaration is left out and read as an empty one. -/
theorem attr?_xsi : (e.toElement.trimmed.attr? "xsi").getD "" = e.xsi := by
  by_cases hempty : e.xsi = "" <;>
    simp [toElement_eq, attr?_root, localName_xsi, localName_schemaLocation, hempty]

theorem attr?_schema : (e.toElement.trimmed.attr? "schemaLocation").getD "" = e.schema := by
  by_cases hempty : e.schema = "" <;>
    simp [toElement_eq, attr?_root, localName_xsi, localName_schemaLocation, hempty]

end Row

/-- A message arrives part by part. -/
theorem typed_ofElement {e : Envelope} (h : e.Plain) :
    (ofElement e.toElement.trimmed).map typed = .ok e.delivered := by
  obtain ⟨command, hcommand, hcommanded⟩ := readChild_written e.named_command
    fun c hc => Command.typed_ofElement (h.command c hc)
  obtain ⟨response, hresponse, hresponded⟩ := readChild_written e.named_response
    fun r hr => Response.typed_ofElement (h.response r hr)
  rw [ofElement, hcommand, hresponse]
  simp only [bind, Except.bind, pure, Except.pure, Except.map, typed, delivered, attr?_xsi,
    attr?_schema, hcommanded, hresponded, child?_written e.named_greeting,
    child?_written e.named_hello, Option.map_map, Function.comp_def,
    Greeting.ofElement_toElement, Hello.ofElement_toElement]
  simp

/-- A message that is a response is read as one. -/
theorem ofElement_response (r : Response) :
    ∃ d q, ofElement (Envelope.ofResponse r).toElement.trimmed = .ok d ∧ d.response = some q ∧
      q.clientTransactionId = trimText r.clientTransactionId := by
  have hcommand : (Envelope.ofResponse r).toElement.trimmed.child? "command" = none :=
    child?_written (Envelope.ofResponse r).named_command
  have hresponse : (Envelope.ofResponse r).toElement.trimmed.child? "response" =
      some r.toElement.trimmed :=
    child?_written (Envelope.ofResponse r).named_response
  obtain ⟨q, hq, hid⟩ := r.ofElement_trimmed
  rw [ofElement, readChild, readChild, hcommand, hresponse]
  simp only [hq, bind, Except.bind, Except.map, pure, Except.pure]
  exact ⟨_, q, rfl, rfl, hid⟩

end Envelope

end Provisioning
