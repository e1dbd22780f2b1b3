import Provisioning.Proofs.Markup.ReadSize
import Provisioning.Proofs.Message.WrittenSize

/-!
# How much a document can ask for

Everything that a message holds stands in the tree that it was read from, so it is bounded by the
bytes of the document. A check is what asks for most: an element of seven bytes may name a domain and
a host at once, and one of five bytes a contact. Their answers take at most twenty-five times the
bytes of the question (`answerSize_le`).
-/

namespace Provisioning

open Markup Markup.Element Text
open String (utf8Len utf8Len_reverse utf8Len_le_of_sublist utf8Len_toList utf8ByteSize_ofList)

/-! ## Children by name -/

namespace Markup

theorem utf8ByteSize_localName_le (qualified : String) :
    (localName qualified).utf8ByteSize ≤ qualified.utf8ByteSize := by
  have hpart : utf8Len (qualified.toList.reverse.takeWhile (· != ':')) ≤
      utf8Len qualified.toList.reverse := utf8Len_le_of_sublist (List.takeWhile_sublist _)
  rw [utf8Len_reverse, utf8Len_toList] at hpart
  rw [localName, utf8ByteSize_ofList, utf8Len_reverse]
  exact hpart

namespace Element

theorem weight_of_localName {e : Element} {key : String} (h : e.localName = key) :
    3 + key.utf8ByteSize + e.text.utf8ByteSize ≤ e.weight := by
  have hname := utf8ByteSize_localName_le e.name
  rw [← h, weight_eq, localName]
  omega

theorem localName_of_mem_named {e : Element} {key : String} {es : List Element}
    (h : e ∈ named key es) : e.localName = key :=
  eq_of_beq (List.mem_filter.mp h).2

/-- Children of two names are different children. -/
theorem weights_named_add {a b : String} (h : a ≠ b) (es : List Element) :
    weights (named a es) + weights (named b es) ≤ weights es := by
  induction es with
  | nil => exact Nat.le_refl _
  | cons e es ih =>
      rw [named_cons, named_cons, weights_cons]
      by_cases ha : e.localName = a
      · have hb : e.localName ≠ b := ha ▸ h
        rw [if_pos ha, if_neg hb, weights_cons]
        omega
      · rw [if_neg ha]
        split
        · rw [weights_cons]
          omega
        · omega

end Element

end Markup

/-! ## Checks -/

namespace ObjectKind

theorem answerSize_append (k : ObjectKind) (names more : List String) :
    k.answerSize (names ++ more) = k.answerSize names + k.answerSize more := by
  simp [answerSize]

/-- The answers about the texts of some elements, when the answer about each is bounded. -/
theorem answerSize_texts_le (k : ObjectKind) {n : Nat} {es : List Element}
    (h : ∀ e ∈ es, k.itemSize + 6 * e.text.utf8ByteSize ≤ n * e.weight) :
    k.answerSize (es.map (·.text)) ≤ n * weights es := by
  induction es with
  | nil => exact Nat.zero_le _
  | cons e es ih =>
      have he := h e List.mem_cons_self
      have hes := ih fun x hx => h x (List.mem_cons_of_mem e hx)
      have hwritten := writtenSize_le e.text
      rw [List.map_cons, answerSize, List.map_cons, List.sum_cons, ← answerSize, weights_cons,
        Nat.mul_add]
      omega

end ObjectKind

namespace UntypedCheck

/-- The bytes of the answers about one body of a check, if it declares all kinds. -/
def answerSize (u : UntypedCheck) : Nat :=
  ObjectKind.domain.answerSize u.names + ObjectKind.host.answerSize u.names +
    ObjectKind.contact.answerSize u.ids

/-- The body of a check that an element is read as. -/
def ofBody (b : Element) : UntypedCheck := ⟨.ofElement b, b.childTexts "name", b.childTexts "id"⟩

/-- **One body of a check** asks for no more than twenty-five times its bytes: an element under
`name` has at least seven bytes, one under `id` at least five. -/
theorem answerSize_ofBody_le (b : Element) : (ofBody b).answerSize ≤ 25 * b.weight := by
  have hkeys : "name".utf8ByteSize = 4 ∧ "id".utf8ByteSize = 2 := ⟨rfl, rfl⟩
  have hitems : ObjectKind.domain.itemSize = 89 ∧ ObjectKind.host.itemSize = 81 ∧
      ObjectKind.contact.itemSize = 89 := ⟨rfl, rfl, rfl⟩
  have hdomain : ObjectKind.domain.answerSize (b.childTexts "name") ≤
      13 * weights (named "name" b.children) :=
    ObjectKind.domain.answerSize_texts_le fun e he => by
      have hweight := weight_of_localName (localName_of_mem_named he)
      omega
  have hhost : ObjectKind.host.answerSize (b.childTexts "name") ≤
      12 * weights (named "name" b.children) :=
    ObjectKind.host.answerSize_texts_le fun e he => by
      have hweight := weight_of_localName (localName_of_mem_named he)
      omega
  have hcontact : ObjectKind.contact.answerSize (b.childTexts "id") ≤
      25 * weights (named "id" b.children) :=
    ObjectKind.contact.answerSize_texts_le fun e he => by
      have hweight := weight_of_localName (localName_of_mem_named he)
      omega
  -- a name is asked for twice, as a domain and as a host, but it is no identifier
  have hnames : "name" ≠ "id" := by decide
  have hchildren := weights_named_add hnames b.children
  have hbody := weights_children_le b
  simp only [answerSize, ofBody]
  omega

theorem answerSize_map_ofBody_le (bs : List Element) :
    ((bs.map ofBody).map (·.answerSize)).sum ≤ 25 * weights bs := by
  induction bs with
  | nil => exact Nat.le_refl _
  | cons b bs ih =>
      have hbody := answerSize_ofBody_le b
      rw [List.map_cons, List.map_cons, List.sum_cons, weights_cons]
      omega

end UntypedCheck

namespace Check

theorem answerSize_extend (u : UntypedCheck) (k : ObjectKind) (names : List String)
    (previous : Option (List String)) :
    k.answerSize ((u.extend k names previous).getD []) ≤
      k.answerSize (previous.getD []) + k.answerSize names := by
  unfold UntypedCheck.extend Namespaces.fill
  split
  · rw [Option.getD_some, ObjectKind.answerSize_append]
  · exact Nat.le_add_right _ _

theorem answerSize_add (c : Check) (u : UntypedCheck) :
    (c.add u).answerSize ≤ c.answerSize + u.answerSize := by
  have hdomain := answerSize_extend u .domain u.names c.domain
  have hhost := answerSize_extend u .host u.names c.host
  have hcontact := answerSize_extend u .contact u.ids c.contact
  simp only [answerSize, add, UntypedCheck.answerSize]
  omega

theorem answerSize_foldl_add (us : List UntypedCheck) (c : Check) :
    (us.foldl add c).answerSize ≤ c.answerSize + (us.map (·.answerSize)).sum := by
  induction us generalizing c with
  | nil => exact Nat.le_add_right _ _
  | cons u us ih =>
      have hadd := answerSize_add c u
      have hrest := ih (c.add u)
      rw [List.foldl_cons, List.map_cons, List.sum_cons]
      omega

/-- **A check that is read** asks for no more than twenty-five times its bytes. -/
theorem answerSize_typed_le (e : Element) : (ofElement e).typed.answerSize ≤ 25 * e.weight := by
  have htyped : (ofElement e).typed =
      ((e.childrenNamed "check").map UntypedCheck.ofBody).foldl add {} := rfl
  have hfold := answerSize_foldl_add ((e.childrenNamed "check").map UntypedCheck.ofBody) {}
  have hbodies := UntypedCheck.answerSize_map_ofBody_le (e.childrenNamed "check")
  have hsome : weights (e.childrenNamed "check") ≤ weights e.children :=
    weights_le_of_sublist List.filter_sublist
  have hchildren := weights_children_le e
  have hnone : ({} : Check).answerSize = 0 := rfl
  rw [htyped]
  omega

end Check

/-! ## Messages -/

theorem ok_of_bind {ε α β : Type} {x : Except ε α} {f : α → Except ε β} {b : β}
    (h : x >>= f = .ok b) : ∃ a, x = .ok a ∧ f a = .ok b := by
  cases x with
  | error fault => cases h
  | ok a => exact ⟨a, rfl, h⟩

theorem readChild_eq_some {α : Type} {read : Element → Reading α} {e : Element} {name : String}
    {a : α} (h : readChild read e name = .ok (some a)) :
    ∃ x, e.child? name = some x ∧ read x = .ok a := by
  unfold readChild at h
  split at h
  · cases h
  · rename_i x hx
    refine ⟨x, hx, ?_⟩
    cases hread : read x with
    | error fault => rw [hread] at h; cases h
    | ok b =>
        rw [hread] at h
        cases h
        rfl

theorem Command.ofElement_parts {e : Element} {c : Command} (h : ofElement e = .ok c) :
    c.check = (e.child? "check").map Check.ofElement ∧ c.transactionId = e.childText "clTRID" := by
  obtain ⟨create, -, h⟩ := ok_of_bind h
  obtain ⟨transfer, -, h⟩ := ok_of_bind h
  obtain ⟨renew, -, h⟩ := ok_of_bind h
  obtain ⟨poll, -, h⟩ := ok_of_bind h
  obtain rfl := Except.ok.inj h
  exact ⟨rfl, rfl⟩

theorem Response.ofElement_client {e : Element} {r : Response} (h : ofElement e = .ok r) :
    r.clientTransactionId = ((e.child? "trID").map (·.childText "clTRID")).getD "" := by
  obtain ⟨result, -, h⟩ := ok_of_bind h
  obtain ⟨code, -, h⟩ := ok_of_bind h
  dsimp only at h
  split at h
  · obtain ⟨queue, -, h⟩ := ok_of_bind h
    obtain rfl := Except.ok.inj h
    rfl
  · obtain ⟨queue, -, h⟩ := ok_of_bind h
    obtain rfl := Except.ok.inj h
    rfl

namespace Envelope

variable {root : Element} {e : Envelope}

theorem ofElement_parts (h : ofElement root = .ok e) :
    (∀ c ∈ e.command, ∃ x, root.child? "command" = some x ∧ Command.ofElement x = .ok c) ∧
      ∀ r ∈ e.response, ∃ x, root.child? "response" = some x ∧ Response.ofElement x = .ok r := by
  obtain ⟨command, hcommand, h⟩ := ok_of_bind h
  obtain ⟨response, hresponse, h⟩ := ok_of_bind h
  obtain rfl := Except.ok.inj h
  constructor
  · rintro c rfl
    exact readChild_eq_some hcommand
  · rintro r rfl
    exact readChild_eq_some hresponse

/-- The client's identifier stands in the document. -/
theorem utf8ByteSize_clientId_le (h : ofElement root = .ok e) :
    (Service.clientId e).utf8ByteSize ≤ root.weight := by
  obtain ⟨hcommand, hresponse⟩ := ofElement_parts h
  unfold Service.clientId transactionId
  cases hc : e.command with
  | some c =>
      obtain ⟨x, hx, hread⟩ := hcommand c hc
      obtain ⟨-, hid⟩ := Command.ofElement_parts hread
      have htext := utf8ByteSize_childText_le x "clTRID"
      have hle := weight_child? hx
      simp only [Except.toOption, Option.getD_some, hid]
      omega
  | none =>
      cases hr : e.response with
      | none => exact Nat.zero_le _
      | some r =>
          obtain ⟨x, hx, hread⟩ := hresponse r hr
          have hle := weight_child? hx
          simp only [Except.toOption, Option.getD_some, Response.ofElement_client hread]
          cases ht : x.child? "trID" with
          | none => exact Nat.zero_le _
          | some t =>
              have htext := utf8ByteSize_childText_le t "clTRID"
              have hle' := weight_child? ht
              simp only [Option.map_some, Option.getD_some]
              omega

/-- **A message asks for no more** than twenty-five times the bytes of its document. -/
theorem answerSize_le (h : ofElement root = .ok e) {c : Command} {k : Check}
    (hc : c ∈ e.typed.command) (hk : k ∈ c.check) : k.answerSize ≤ 25 * root.weight := by
  obtain ⟨hcommand, -⟩ := ofElement_parts h
  obtain ⟨d, hd, rfl⟩ := Option.map_eq_some_iff.mp hc
  obtain ⟨x, hx, hread⟩ := hcommand d hd
  obtain ⟨u, hu, rfl⟩ := Option.map_eq_some_iff.mp hk
  rw [(Command.ofElement_parts hread).1] at hu
  obtain ⟨y, hy, rfl⟩ := Option.map_eq_some_iff.mp hu
  have hle := Check.answerSize_typed_le y
  have hcheck := weight_child? hy
  have hpart := weight_child? hx
  omega

/-- A message is read from a tree that is no larger than its bytes. -/
theorem ofBytes_tree {bytes : List UInt8} (h : ofBytes bytes = .ok e) :
    ∃ root, ofElement root = .ok e ∧ root.weight ≤ bytes.length := by
  unfold ofBytes at h
  cases hs : Text.Utf8.decode bytes with
  | error fault => rw [hs] at h; cases h
  | ok s =>
      rw [hs] at h
      obtain ⟨root, hroot, h⟩ := ok_of_bind h
      have hweight := weight_ofText hroot
      have hsize := Text.Utf8.utf8ByteSize_of_decode hs
      refine ⟨root, ?_, by omega⟩
      split at h
      · exact h
      · cases h

end Envelope

end Provisioning
