import Provisioning.Proofs.Message.Rewriting

/-!
# Typing is a normal form

Every body of a command, every verb of the data of a response and every extension is typed in its
own way: names are appended to those that are there, an object takes the place of the one that was
there, an element that cannot be read empties a slot. What they have in common is that each takes
its untyped part away and does nothing if there is none. That is `Normalises`, and it passes from
the parts to the whole message.
-/

namespace Provisioning

open Markup

/-- A function that makes every value normal and leaves the normal ones as they are. -/
structure Normalises {α : Type} (f : α → α) (IsNormal : α → Prop) : Prop where
  normal : ∀ a, IsNormal (f a)
  fixed : ∀ {a}, IsNormal a → f a = a

namespace Normalises

variable {α β : Type} {f : α → α} {IsNormal : α → Prop}

theorem idempotent (h : Normalises f IsNormal) (a : α) : f (f a) = f a := h.fixed (h.normal a)

theorem eq_self_iff (h : Normalises f IsNormal) {a : α} : f a = a ↔ IsNormal a := by
  constructor
  · intro hself
    rw [← hself]
    exact h.normal a
  · exact h.fixed

/-- A part that may be missing. -/
theorem option (h : Normalises f IsNormal) :
    Normalises (Option.map f) fun o => ∀ a ∈ o, IsNormal a where
  normal _ := Option.forall_mem_map.mpr fun a _ => h.normal a
  fixed ho := optionMap_self fun a ha => h.fixed (ho a ha)

/-- One untyped value that is taken away. -/
theorem of_option {untyped : α → Option β} (hnone : ∀ a, untyped a = none → f a = a)
    (hsome : ∀ a b, untyped a = some b → untyped (f a) = none) :
    Normalises f fun a => untyped a = none where
  normal a := by
    cases ha : untyped a with
    | none => rw [hnone a ha, ha]
    | some b => exact hsome a b ha
  fixed {a} ha := hnone a ha

/-- A row of untyped values that are taken away, and then put in their places one by one. -/
theorem of_row {untyped : α → List β} {clear : α → α} {step : α → β → α}
    (hstep : ∀ a b, untyped (step a b) = untyped a) (hclear : ∀ a, untyped (clear a) = [])
    (hself : ∀ a, untyped a = [] → clear a = a) :
    Normalises (fun a => (untyped a).foldl step (clear a)) fun a => untyped a = [] where
  normal a := by rw [foldl_keeps hstep, hclear]
  fixed {a} ha := by rw [ha, List.foldl_nil, hself a ha]

end Normalises

/-! ## Bodies of commands -/

theorem Check.normalises : Normalises Check.typed fun x => x.untyped = [] := by
  refine .of_row (fun _ _ => rfl) (fun _ => rfl) fun x hx => ?_
  rw [← hx]

/-- Names that are typed already stay in front of those of a body that declares their kind. -/
example :
    ({ domain := some ["a.com"], untyped := [⟨{ domain := some "d" }, ["b.com"], []⟩] } :
      Check).typed = { domain := some ["a.com", "b.com"] } := rfl

theorem Create.normalises : Normalises Create.typed fun x => x.untyped = none := by
  refine .of_option (fun x hx => ?_) fun x u hx => ?_
  · rw [typed, hx]
  · rw [typed, hx]

theorem Delete.normalises : Normalises Delete.typed fun x => x.untyped = none := by
  refine .of_option (fun x hx => ?_) fun x u hx => ?_
  · rw [typed, hx]
  · rw [typed, hx]

theorem Info.normalises : Normalises Info.typed fun x => x.untyped = none := by
  refine .of_option (fun x hx => ?_) fun x u hx => ?_
  · rw [typed, hx]
  · rw [typed, hx]

theorem Update.normalises : Normalises Update.typed fun x => x.untyped = none := by
  refine .of_option (fun x hx => ?_) fun x u hx => ?_
  · rw [typed, hx]
  · rw [typed, hx]

theorem Transfer.normalises : Normalises Transfer.typed fun x => x.untyped = none := by
  refine .of_option (fun x hx => ?_) fun x u hx => ?_
  · rw [typed, hx]
  · rw [typed, hx]

theorem Renew.normalises : Normalises Renew.typed fun x => x.untyped = none := by
  refine .of_option (fun x hx => ?_) fun x u hx => ?_
  · rw [typed, hx]
  · rw [typed, hx]

/-! ## Extensions -/

theorem CommandExtension.normalises :
    Normalises CommandExtension.typed fun x => x.untyped = [] := by
  refine .of_row untyped_put (fun _ => rfl) fun x hx => ?_
  rw [← hx]

theorem ResponseExtension.normalises :
    Normalises ResponseExtension.typed fun x => x.untyped = [] := by
  refine .of_row untyped_put (fun _ => rfl) fun x hx => ?_
  rw [← hx]

/-! ## Data of responses -/

namespace ResultData

/-- Nothing in the data is untyped, for none of the verbs. -/
structure IsTyped (d : ResultData) : Prop where
  check : d.untypedCheck = none
  create : d.untypedCreate = none
  info : d.untypedInfo = none
  renew : d.untypedRenew = none
  transfer : d.untypedTransfer = none

theorem IsTyped.addIf {α : Type} {d : ResultData} (h : d.IsTyped)
    (add : ResultData → α → ResultData) (hadd : ∀ x, (add d x).IsTyped) (value : Option α) :
    (addIf add value d).IsTyped := by
  cases value with
  | none => exact h
  | some x => exact hadd x

theorem isTyped_withoutUntyped (d : ResultData) : d.withoutUntyped.IsTyped :=
  ⟨rfl, rfl, rfl, rfl, rfl⟩

theorem isTyped_typed (d : ResultData) : d.typed.IsTyped := by
  have hchecked := d.isTyped_withoutUntyped.addIf addChecked
    (fun _ => ⟨rfl, rfl, rfl, rfl, rfl⟩) d.untypedCheck
  -- no step touches what is untyped
  have hcreated := hchecked.addIf addCreated (fun _ => { hchecked with }) d.untypedCreate
  have hinfo := hcreated.addIf addInfo (fun _ => { hcreated with }) d.untypedInfo
  have hrenewed := hinfo.addIf addRenewed (fun _ => { hinfo with }) d.untypedRenew
  exact hrenewed.addIf addTransferred (fun _ => { hrenewed with }) d.untypedTransfer

theorem normalises : Normalises typed IsTyped where
  normal := isTyped_typed
  fixed {d} h := by
    obtain ⟨hcheck, hcreate, hinfo, hrenew, htransfer⟩ := h
    have hwithout : d.withoutUntyped = d := by
      rw [withoutUntyped, ← hcheck, ← hcreate, ← hinfo, ← hrenew, ← htransfer]
    rw [typed, hcheck, hcreate, hinfo, hrenew, htransfer]
    exact hwithout

end ResultData

/-! ## Whole messages -/

namespace Command

/-- Nothing in the command is untyped, in no body and not in the extension. -/
structure IsTyped (c : Command) : Prop where
  check : ∀ x ∈ c.check, x.untyped = []
  create : ∀ x ∈ c.create, x.untyped = none
  info : ∀ x ∈ c.info, x.untyped = none
  delete : ∀ x ∈ c.delete, x.untyped = none
  update : ∀ x ∈ c.update, x.untyped = none
  transfer : ∀ x ∈ c.transfer, x.untyped = none
  renew : ∀ x ∈ c.renew, x.untyped = none
  extension : ∀ x ∈ c.extension, x.untyped = []

/-- What no kind of object is declared in. -/
def frame (c : Command) : Option Login × Bool × Option Poll × String :=
  (c.login, c.logout, c.poll, c.transactionId)

theorem normalises : Normalises typed IsTyped where
  normal c :=
    { check := Check.normalises.option.normal c.check
      create := Create.normalises.option.normal c.create
      info := Info.normalises.option.normal c.info
      delete := Delete.normalises.option.normal c.delete
      update := Update.normalises.option.normal c.update
      transfer := Transfer.normalises.option.normal c.transfer
      renew := Renew.normalises.option.normal c.renew
      extension := CommandExtension.normalises.option.normal c.extension }
  fixed {c} h := by
    rw [typed, Check.normalises.option.fixed h.check, Create.normalises.option.fixed h.create,
      Info.normalises.option.fixed h.info, Delete.normalises.option.fixed h.delete,
      Update.normalises.option.fixed h.update, Transfer.normalises.option.fixed h.transfer,
      Renew.normalises.option.fixed h.renew, CommandExtension.normalises.option.fixed h.extension]

end Command

namespace Response

/-- Nothing in the response is untyped, neither in its data nor in its extension. -/
structure IsTyped (r : Response) : Prop where
  data : ∀ d ∈ r.data, d.IsTyped
  extension : ∀ x ∈ r.extension, x.untyped = []

/-- What no kind of object is declared in. -/
def frame (r : Response) : UInt16 × String × Option MessageQueue × String × String :=
  (r.code, r.message, r.queue, r.clientTransactionId, r.serverTransactionId)

theorem normalises : Normalises typed IsTyped where
  normal r :=
    { data := ResultData.normalises.option.normal r.data
      extension := ResponseExtension.normalises.option.normal r.extension }
  fixed {r} h := by
    rw [typed, ResultData.normalises.option.fixed h.data,
      ResponseExtension.normalises.option.fixed h.extension]

end Response

namespace Envelope

/-- Nothing in the message is untyped. -/
structure IsTyped (e : Envelope) : Prop where
  command : ∀ c ∈ e.command, c.IsTyped
  response : ∀ r ∈ e.response, r.IsTyped

theorem normalises : Normalises typed IsTyped where
  normal e :=
    { command := Command.normalises.option.normal e.command
      response := Response.normalises.option.normal e.response }
  fixed {e} h := by
    rw [typed, Command.normalises.option.fixed h.command,
      Response.normalises.option.fixed h.response]

theorem frame_command_typed (e : Envelope) :
    e.typed.command.map (·.frame) = e.command.map (·.frame) := by
  rw [typed, Option.map_map]
  rfl

theorem frame_response_typed (e : Envelope) :
    e.typed.response.map (·.frame) = e.response.map (·.frame) := by
  rw [typed, Option.map_map]
  rfl

/--
**Typing is a normal form.** Whatever a message consists of, typed and untyped parts in any mixture:
typing it twice is typing it once, nothing in it is untyped afterwards, and it stays as it is
exactly if nothing in it was untyped. The attributes, the greeting and the hello are never touched,
and neither are the login, the logout, the poll and the identifier of a command, nor the result, the
queue and the two identifiers of a response.
-/
theorem typing_is_a_normal_form (e : Envelope) :
    e.typed.typed = e.typed ∧ e.typed.IsTyped ∧ (e.typed = e ↔ e.IsTyped) ∧
    e.typed.xsi = e.xsi ∧ e.typed.schema = e.schema ∧
    e.typed.greeting = e.greeting ∧ e.typed.hello = e.hello ∧
    e.typed.command.map (·.frame) = e.command.map (·.frame) ∧
    e.typed.response.map (·.frame) = e.response.map (·.frame) :=
  ⟨normalises.idempotent e, normalises.normal e, normalises.eq_self_iff, rfl, rfl, rfl, rfl,
    e.frame_command_typed, e.frame_response_typed⟩

end Envelope

end Provisioning
