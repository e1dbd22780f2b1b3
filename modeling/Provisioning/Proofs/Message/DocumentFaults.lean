import Provisioning.Message.Envelope

/-!
# Faults of documents

Three faults are about frames: a length below that of the header, a length beyond the limit, and bytes
that are missing. A reader of documents has none of them, whatever bytes it is given
(`Envelope.ofBytes_faults`), so that where a whole frame is decoded these faults tell what is wrong
with the frame and never with the document inside.
-/

namespace Provisioning

open Markup

/-- The fault is about a frame and not about what the frame holds. -/
def Fault.isOfFrame : Fault → Bool
  | .invalidFrameLength _ => true
  | .frameTooLarge _ _ => true
  | .incompleteFrame _ => true
  | _ => false

/-- Whatever is read, no fault of it is about a frame. -/
def OnlyDocumentFaults {α : Type} (r : Reading α) : Prop :=
  ∀ fault, r = .error fault → fault.isOfFrame = false

namespace OnlyDocumentFaults

variable {α β : Type}

theorem of_ok (a : α) : OnlyDocumentFaults (.ok a) := fun _ h => absurd h (by simp)

theorem of_error {fault : Fault} (h : fault.isOfFrame = false) :
    OnlyDocumentFaults (.error fault : Reading α) := by
  intro fault' hfault
  rwa [← Except.error.inj hfault]

theorem map {r : Reading α} (h : OnlyDocumentFaults r) (f : α → β) :
    OnlyDocumentFaults (r.map f) := by
  cases r with
  | ok a => exact of_ok (f a)
  | error fault => exact of_error (h fault rfl)

theorem bind {r : Reading α} (h : OnlyDocumentFaults r) {f : α → Reading β}
    (hf : ∀ a, OnlyDocumentFaults (f a)) : OnlyDocumentFaults (r >>= f) := by
  cases r with
  | ok a => exact hf a
  | error fault => exact of_error (h fault rfl)

end OnlyDocumentFaults

/-! ## Parts of messages -/

theorem Markup.Element.require_faults (e : Element) (name : String) :
    OnlyDocumentFaults (e.require name) := by
  unfold Element.require
  split
  · exact .of_ok _
  · exact .of_error rfl

theorem Markup.readNumber_faults (b : Text.Bounds) (field text : String) :
    OnlyDocumentFaults (readNumber b field text) := by
  unfold readNumber
  split
  · exact .of_ok _
  · exact .of_error rfl

theorem readChild_faults {α : Type} {read : Element → Reading α}
    (h : ∀ e, OnlyDocumentFaults (read e)) (e : Element) (name : String) :
    OnlyDocumentFaults (readChild read e name) := by
  unfold readChild
  split
  · exact .of_ok _
  · exact (h _).map some

theorem Period.ofElement_faults (e : Element) : OnlyDocumentFaults (ofElement e) := by
  unfold ofElement
  dsimp only
  split
  · exact .of_error rfl
  · exact (readNumber_faults _ _ _).bind fun _ => .of_ok _

theorem Period.childOf_faults (e : Element) : OnlyDocumentFaults (childOf e) := by
  unfold childOf
  split
  · exact .of_ok _
  · exact (ofElement_faults _).map some

theorem Create.ofElement_faults (e : Element) : OnlyDocumentFaults (ofElement e) := by
  unfold ofElement
  split
  · exact .of_ok _
  · exact ((Period.childOf_faults _).bind fun _ => .of_ok _).map _

theorem Transfer.ofElement_faults (e : Element) : OnlyDocumentFaults (ofElement e) := by
  unfold ofElement
  dsimp only
  split
  · exact .of_error rfl
  · split
    · exact .of_ok _
    · exact ((Period.childOf_faults _).bind fun _ => .of_ok _).map _

theorem Renew.ofElement_faults (e : Element) : OnlyDocumentFaults (ofElement e) := by
  unfold ofElement
  split
  · exact .of_ok _
  · exact ((Period.childOf_faults _).bind fun _ => .of_ok _).map _

theorem Poll.ofElement_faults (e : Element) : OnlyDocumentFaults (ofElement e) := by
  unfold ofElement
  dsimp only
  split
  · exact .of_error rfl
  · exact .of_ok _

theorem MessageQueue.ofElement_faults (e : Element) : OnlyDocumentFaults (ofElement e) :=
  (readNumber_faults _ _ _).bind fun _ => .of_ok _

/-! ## Messages -/

theorem Command.ofElement_faults (e : Element) : OnlyDocumentFaults (ofElement e) :=
  (readChild_faults Create.ofElement_faults e _).bind fun _ =>
  (readChild_faults Transfer.ofElement_faults e _).bind fun _ =>
  (readChild_faults Renew.ofElement_faults e _).bind fun _ =>
  (readChild_faults Poll.ofElement_faults e _).bind fun _ => .of_ok _

theorem Response.ofElement_faults (e : Element) : OnlyDocumentFaults (ofElement e) := by
  refine (e.require_faults _).bind fun result => (readNumber_faults _ _ _).bind fun code => ?_
  dsimp only
  split
  · exact .of_ok _
  · exact ((MessageQueue.ofElement_faults _).map some).bind fun _ => .of_ok _

theorem Envelope.ofElement_faults (e : Element) : OnlyDocumentFaults (ofElement e) :=
  (readChild_faults Command.ofElement_faults e _).bind fun _ =>
  (readChild_faults Response.ofElement_faults e _).bind fun _ => .of_ok _

/-! ## Documents -/

theorem Markup.growTree_faults (stack : List OpenElement) (cs : List Char) :
    OnlyDocumentFaults (growTree stack cs) := by
  fun_induction growTree stack cs with
  | case1 stack cs hnext =>
      refine .of_error ?_
      split <;> rfl
  | case2 => exact .of_error rfl
  | case3 stack cs p rest hnext _ stack' hgrow ih => exact ih
  | case4 => exact .of_ok _
  | case5 => exact .of_error rfl

theorem Envelope.ofText_faults (s : String) : OnlyDocumentFaults (ofText s) := by
  refine (growTree_faults _ _).bind fun root => ?_
  split
  · exact ofElement_faults root
  · exact .of_error rfl

/-- **No fault of a document is about a frame**, whatever bytes are read as a document. -/
theorem Envelope.ofBytes_faults (bytes : List UInt8) : OnlyDocumentFaults (ofBytes bytes) := by
  unfold ofBytes
  split
  · exact ofText_faults _
  · exact .of_error rfl

end Provisioning
