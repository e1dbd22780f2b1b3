import Mathlib.Algebra.Group.Nat.Defs
import Mathlib.Data.List.Induction
import Provisioning.Client.TransactionIds
import Provisioning.Proofs.Text.Numeral

/-!
# No transaction identifier is given twice

Callers share a source of identifiers. A call is not one step: it takes the number of the source,
which moves on in the same step, and forms its identifier afterwards, and steps of other calls may
come between. What a call has found when it took its number decides what it returns, whenever that is
(`SharedIds.Counted`). The numbers are the first one and those after it modulo 2⁶⁴, so the numbers of
as many calls as there are words differ, wherever they begin. Identifiers of one source are told by
their numbers, whatever digits and hyphens its stem has.
-/

namespace Provisioning

namespace TransactionIds

/-- The source after so many numbers have been taken. -/
def after (t : TransactionIds) (k : Nat) : TransactionIds :=
  { t with number := t.number + UInt64.ofNat k }

theorem after_zero (t : TransactionIds) : t.after 0 = t := by
  simp [after]

theorem advance_after (t : TransactionIds) (k : Nat) : (t.after k).advance = t.after (k + 1) := by
  simp [after, advance, UInt64.ofNat_add, UInt64.add_assoc]

theorem current_after (t : TransactionIds) (k : Nat) :
    (t.after k).current = t.stem ++ "-" ++ toString ((t.number.toNat + k) % 2 ^ 64) := by
  have hnumber : (t.after k).number.toNat = (t.number.toNat + k) % 2 ^ 64 := by simp [after]
  rw [current, hnumber]
  rfl

/-- Identifiers of one source are told by how many were taken before them. -/
theorem current_after_inj {t : TransactionIds} {j k : Nat} (hj : j < 2 ^ 64) (hk : k < 2 ^ 64)
    (h : (t.after j).current = (t.after k).current) : j = k := by
  rw [current_after, current_after] at h
  have hnumber := Text.toString_inj (congrArg String.toList ((String.append_right_inj _).mp h))
  omega

end TransactionIds

/-- A call for an identifier. -/
structure IdCall where
  /-- The source as the call has found it. -/
  found : TransactionIds
  /-- What the call has returned. -/
  returned : Option String := none

/-- A source of identifiers and all calls of it, in the order in which they have taken their
numbers. -/
structure SharedIds where
  source : TransactionIds
  calls : List IdCall := []

/-- What happens to a source that is shared. -/
inductive IdStep where
  /-- A call takes the number of the source. -/
  | takes
  /-- The call that took its number after `k` others forms its identifier and returns it. -/
  | returns (k : Nat)
  deriving DecidableEq

namespace SharedIds

/-- The source and its calls after a step. A call that has not taken a number cannot return. -/
def step (s : SharedIds) : IdStep → SharedIds
  | .takes => { source := s.source.advance, calls := s.calls ++ [{ found := s.source }] }
  | .returns k =>
    { s with calls := s.calls.modify k fun c => { c with returned := some c.found.current } }

/-- The source and its calls after some steps. -/
def run (first : TransactionIds) (steps : List IdStep) : SharedIds :=
  steps.foldl step { source := first }

/-- What the call that took its number after `k` others has returned. -/
def answer (s : SharedIds) (k : Nat) : Option String := s.calls[k]?.bind IdCall.returned

/-- The identifiers that have been returned. -/
def identifiers (s : SharedIds) : List String := s.calls.filterMap IdCall.returned

/-! ## One step -/

/-- Every call has found the source as the calls before it have left it, and has returned nothing but
what it found. -/
structure Counted (first : TransactionIds) (s : SharedIds) : Prop where
  source : s.source = first.after s.calls.length
  found : ∀ (k : Nat) (c : IdCall), s.calls[k]? = some c → c.found = first.after k
  returned : ∀ c ∈ s.calls, ∀ id, c.returned = some id → id = c.found.current

variable {first : TransactionIds} {s : SharedIds}

theorem counted_init (first : TransactionIds) : Counted first { source := first } where
  source := first.after_zero.symm
  found := by intro k c hc; simp at hc
  returned := by intro c hc; simp at hc

theorem Counted.takes (h : Counted first s) : Counted first (s.step .takes) := by
  constructor
  · simp only [step, h.source, first.advance_after, List.length_append, List.length_singleton]
  · intro k c hc
    simp only [step, List.getElem?_append] at hc
    split at hc
    · exact h.found k c hc
    · -- the call that has just taken its number
      rename_i hge
      obtain ⟨hk, rfl⟩ := List.getElem?_eq_some_iff.mp hc
      rw [List.length_singleton] at hk
      have hlast : k = s.calls.length := by omega
      rw [List.getElem_singleton, hlast]
      exact h.source
  · intro c hc id hid
    rcases List.mem_append.mp hc with hc | hc
    · exact h.returned c hc id hid
    · rw [List.mem_singleton.mp hc] at hid
      exact absurd hid (by simp)

theorem Counted.returns (h : Counted first s) (j : Nat) : Counted first (s.step (.returns j)) := by
  constructor
  · simp only [step, h.source, List.length_modify]
  · intro k c hc
    simp only [step, List.getElem?_modify] at hc
    obtain ⟨d, hd, rfl⟩ := Option.map_eq_some_iff.mp hc
    have hfound := h.found k d hd
    split <;> exact hfound
  · intro c hc id hid
    obtain ⟨k, hk⟩ := List.mem_iff_getElem?.mp hc
    simp only [step, List.getElem?_modify] at hk
    obtain ⟨d, hd, rfl⟩ := Option.map_eq_some_iff.mp hk
    -- only the call whose turn it is has a new answer
    by_cases hturn : j = k
    · rw [if_pos hturn] at hid ⊢
      exact (Option.some.inj hid).symm
    · rw [if_neg hturn] at hid ⊢
      exact h.returned d (List.mem_of_getElem? hd) id hid

/-- **Whatever happens, calls stay counted.** -/
theorem counted_step (h : Counted first s) (x : IdStep) : Counted first (s.step x) := by
  cases x with
  | takes => exact h.takes
  | returns j => exact h.returns j

theorem length_step (s : SharedIds) (x : IdStep) :
    (s.step x).calls.length = s.calls.length + if x = .takes then 1 else 0 := by
  cases x with
  | takes => simp [step]
  | returns j => simp [step]

/-! ## Runs -/

theorem run_append (first : TransactionIds) (steps : List IdStep) (x : IdStep) :
    run first (steps ++ [x]) = (run first steps).step x := by
  simp [run]

theorem counted_run (first : TransactionIds) (steps : List IdStep) :
    Counted first (run first steps) := by
  induction steps using List.reverseRecOn with
  | nil => exact counted_init first
  | append_singleton steps x ih =>
      rw [run_append]
      exact counted_step ih x

theorem length_run (first : TransactionIds) (steps : List IdStep) :
    (run first steps).calls.length = steps.count .takes := by
  induction steps using List.reverseRecOn with
  | nil => rfl
  | append_singleton steps x ih =>
      rw [run_append, length_step, ih, List.count_append, List.count_singleton]
      simp

/-- What a call returns is the identifier of its number. -/
theorem Counted.answer_eq (h : Counted first s) {k : Nat} {id : String} (hid : s.answer k = some id) :
    id = (first.after k).current := by
  obtain ⟨c, hc, hreturned⟩ := Option.bind_eq_some_iff.mp hid
  rw [← h.found k c hc]
  exact h.returned c (List.mem_of_getElem? hc) id hreturned

theorem mem_identifiers_iff {id : String} :
    id ∈ s.identifiers ↔ ∃ k < s.calls.length, s.answer k = some id := by
  rw [identifiers, List.mem_filterMap]
  constructor
  · rintro ⟨c, hc, hreturned⟩
    obtain ⟨k, hk, rfl⟩ := List.mem_iff_getElem.mp hc
    refine ⟨k, hk, ?_⟩
    rw [answer, List.getElem?_eq_getElem hk]
    exact hreturned
  · rintro ⟨k, hk, hanswer⟩
    rw [answer, List.getElem?_eq_getElem hk] at hanswer
    exact ⟨_, List.getElem_mem hk, hanswer⟩

/-- A call that has taken a number returns an identifier when it is its turn. -/
theorem answer_returns (s : SharedIds) {k : Nat} (hk : k < s.calls.length) :
    ∃ id, (s.step (.returns k)).answer k = some id := by
  simp only [answer, step, List.getElem?_modify_eq, List.getElem?_eq_getElem hk]
  exact ⟨_, rfl⟩

/-- The identifiers of no more calls than there are words differ. -/
theorem Counted.nodup (h : Counted first s) (hfew : s.calls.length ≤ 2 ^ 64) :
    s.identifiers.Nodup := by
  refine List.pairwise_filterMap.mpr (List.pairwise_iff_getElem.mpr ?_)
  intro j k hj hk hlt id hid id' hid' heq
  have hfirst : s.answer j = some id := by
    rw [answer, List.getElem?_eq_getElem hj]
    exact hid
  have hsecond : s.answer k = some id' := by
    rw [answer, List.getElem?_eq_getElem hk]
    exact hid'
  rw [h.answer_eq hfirst, h.answer_eq hsecond] at heq
  -- fewer than 2⁶⁴ numbers lie between the two, so the count has not come round
  have hsame := TransactionIds.current_after_inj (by omega) (by omega) heq
  omega

/--
**No transaction identifier is given twice.** Wherever a source begins, and however the steps of no
more than 2⁶⁴ calls of it come between one another: all identifiers that are returned differ; the
call that took its number after k others returns nothing but the stem of the source, a hyphen and the
first number plus k, modulo 2⁶⁴, in decimal; there are as many calls as have taken a number, and each
of them returns this when it is its turn.
-/
theorem identifiers_do_not_repeat (first : TransactionIds) {steps : List IdStep}
    (hfew : steps.count .takes ≤ 2 ^ 64) :
    (run first steps).identifiers.Nodup ∧
    (∀ id ∈ (run first steps).identifiers, ∃ k < steps.count .takes,
      id = first.stem ++ "-" ++ toString ((first.number.toNat + k) % 2 ^ 64)) ∧
    ∀ k < steps.count .takes, (run first (steps ++ [.returns k])).answer k =
      some (first.stem ++ "-" ++ toString ((first.number.toNat + k) % 2 ^ 64)) := by
  have hcounted := counted_run first steps
  have hlength := length_run first steps
  refine ⟨hcounted.nodup (by omega), ?_, ?_⟩
  · intro id hid
    obtain ⟨k, hk, hanswer⟩ := mem_identifiers_iff.mp hid
    refine ⟨k, by omega, ?_⟩
    rw [hcounted.answer_eq hanswer, TransactionIds.current_after]
  · intro k hk
    rw [run_append]
    obtain ⟨id, hid⟩ := answer_returns (run first steps) (by omega : k < _)
    rw [hid, (counted_step hcounted _).answer_eq hid, TransactionIds.current_after]

/-- Two calls take the last number of all words and zero, and the second one returns first; a third
one returns the number after it. -/
theorem identifiers_do_not_repeat_around_zero :
    let first : TransactionIds := ⟨"T-1", 18446744073709551615⟩
    let steps : List IdStep := [.takes, .takes, .returns 1, .takes, .returns 0, .returns 2]
    steps.count .takes ≤ 2 ^ 64 ∧
      (run first steps).identifiers = ["T-1-18446744073709551615", "T-1-0", "T-1-1"] ∧
      (run first steps).identifiers.Nodup := by
  intro first steps
  have hfew : steps.count .takes ≤ 2 ^ 64 := by decide
  exact ⟨hfew, by decide, (identifiers_do_not_repeat first hfew).1⟩

end SharedIds

end Provisioning
