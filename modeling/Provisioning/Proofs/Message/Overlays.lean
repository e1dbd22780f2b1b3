import Provisioning.Proofs.Message.Rewriting

/-!
# Overlays and the slots they take

The elements of an extension are sorted one after another. Each selects one slot at most, and this
slot then holds what the element is read as, or nothing if it cannot be read. So what a slot holds
in the end is up to the last element that selects it (`Sorts.slot_foldl`). Two things follow. The
order of the row does not matter as long as no two elements select one slot; and where two do, a
later one that cannot be read takes away what an earlier one had brought.
-/

namespace Provisioning

open Markup

/-! ## Rows that are sorted into slots -/

/--
Typing `x` sorts the elements of its row, one after another, with `put`. An element changes the slot
that it selects and no other: that slot holds what the element is read as. The row is empty then,
and beside the row and the slots there is nothing.
-/
structure Sorts {σ ε ι : Type} [DecidableEq ι] {Value : ι → Type} (typed : σ → σ)
    (row : σ → List ε) (withRow : σ → List ε → σ) (put : σ → ε → σ) (slot? : ε → Option ι)
    (read : (i : ι) → ε → Option (Value i)) (slot : σ → (i : ι) → Option (Value i)) : Prop where
  typed_withRow : ∀ x r, typed (withRow x r) = r.foldl put (withRow x [])
  withRow_row : ∀ x, withRow x (row x) = x
  row_withRow : ∀ x r, row (withRow x r) = r
  row_put : ∀ x e, row (put x e) = row x
  slot_withRow : ∀ x r, slot (withRow x r) = slot x
  slot_put : ∀ x e i, slot (put x e) i = if slot? e = some i then read i e else slot x i
  ext : ∀ {x y}, row x = row y → (∀ i, slot x i = slot y i) → x = y

/-- No two elements of the row select one slot. -/
def SelectOnce {ε ι : Type} (Selects : ε → ι → Prop) (row : List ε) : Prop :=
  row.Pairwise fun a b => ∀ i, Selects a i → ¬ Selects b i

/-- The second row has the elements of the first in any order. Elements that select nothing come and
go as they please. -/
inductive Rearranged {ε ι : Type} (Selects : ε → ι → Prop) : List ε → List ε → Prop where
  | perm {row row' : List ε} : row.Perm row' → Rearranged Selects row row'
  | insert {e : ε} (before after : List ε) :
      (∀ i, ¬ Selects e i) → Rearranged Selects (before ++ after) (before ++ e :: after)
  | remove {e : ε} (before after : List ε) :
      (∀ i, ¬ Selects e i) → Rearranged Selects (before ++ e :: after) (before ++ after)
  | trans {row mid row' : List ε} :
      Rearranged Selects row mid → Rearranged Selects mid row' → Rearranged Selects row row'

namespace Sorts

variable {σ ε ι : Type} [DecidableEq ι] {Value : ι → Type} {typed : σ → σ} {row : σ → List ε}
  {withRow : σ → List ε → σ} {put : σ → ε → σ} {slot? : ε → Option ι}
  {read : (i : ι) → ε → Option (Value i)} {slot : σ → (i : ι) → Option (Value i)}

/-- The elements of a row that select a slot. -/
def selecting (slot? : ε → Option ι) (i : ι) (es : List ε) : List ε :=
  es.filter fun e => slot? e = some i

section Selecting

variable {e : ε} {i : ι} {es es' : List ε}

theorem selecting_eq_nil : selecting slot? i es = [] ↔ ∀ e ∈ es, slot? e ≠ some i := by
  simp [selecting, List.filter_eq_nil_iff]

theorem selecting_append (before after : List ε) :
    selecting slot? i (before ++ after) = selecting slot? i before ++ selecting slot? i after :=
  List.filter_append ..

theorem selecting_cons_of_ne (h : slot? e ≠ some i) (es : List ε) :
    selecting slot? i (e :: es) = selecting slot? i es :=
  List.filter_cons_of_neg (by simpa using h)

theorem selecting_cons_self (h : slot? e = some i) (es : List ε) :
    selecting slot? i (e :: es) = e :: selecting slot? i es :=
  List.filter_cons_of_pos (by simpa using h)

omit [DecidableEq ι] in
/-- Two elements select one slot if they select any and select the same. -/
theorem selectOnce_iff : SelectOnce (fun e i => slot? e = some i) es ↔
    es.Pairwise fun a b => slot? a = none ∨ slot? a ≠ slot? b := by
  refine List.Pairwise.iff fun a b => ?_
  cases ha : slot? a with
  | none => simp [ha]
  | some i => simp [ha, eq_comm]

/-- If no two elements select one slot, an element that selects a slot is the only one. -/
theorem selecting_eq_singleton (h : SelectOnce (fun e i => slot? e = some i) es) (he : e ∈ es)
    (hselect : slot? e = some i) : selecting slot? i es = [e] := by
  have hmem : e ∈ selecting slot? i es := List.mem_filter.mpr ⟨he, by simpa using hselect⟩
  have hpair : SelectOnce (fun e i => slot? e = some i) (selecting slot? i es) := h.filter _
  have hall : ∀ a ∈ selecting slot? i es, slot? a = some i := fun a ha => by
    simpa using (List.mem_filter.mp ha).2
  -- Two elements in this row would select one slot.
  rcases hlist : selecting slot? i es with _ | ⟨a, _ | ⟨b, rest⟩⟩
  · rw [hlist] at hmem
    exact absurd hmem List.not_mem_nil
  · rw [hlist] at hmem
    rw [List.mem_singleton.mp hmem]
  · rw [hlist] at hpair hall
    have hb := List.rel_of_pairwise_cons hpair List.mem_cons_self i (hall a List.mem_cons_self)
    exact absurd (hall b (List.mem_cons_of_mem a List.mem_cons_self)) hb

theorem perm_selecting (h : Rearranged (fun e i => slot? e = some i) es es') (i : ι) :
    (selecting slot? i es).Perm (selecting slot? i es') := by
  induction h with
  | perm hperm => exact hperm.filter _
  | insert before after he =>
      rw [selecting_append, selecting_append, selecting_cons_of_ne (he i)]
  | remove before after he =>
      rw [selecting_append, selecting_append, selecting_cons_of_ne (he i)]
  | trans _ _ ih ih' => exact ih.trans ih'

/-- Where each slot is selected once, the same elements select it in any order of the row. -/
theorem selecting_rearranged (h : SelectOnce (fun e i => slot? e = some i) es)
    (h' : Rearranged (fun e i => slot? e = some i) es es') (i : ι) :
    selecting slot? i es' = selecting slot? i es := by
  have hperm := perm_selecting h' i
  -- The row has one element or none, and so has only one order.
  by_cases hselected : ∃ e ∈ es, slot? e = some i
  · obtain ⟨e, he, hselect⟩ := hselected
    rw [selecting_eq_singleton h he hselect] at hperm ⊢
    exact List.perm_singleton.mp hperm.symm
  · have hnil : selecting slot? i es = [] :=
      selecting_eq_nil.mpr fun e he hselect => hselected ⟨e, he, hselect⟩
    rw [hnil] at hperm ⊢
    exact List.nil_perm.mp hperm

end Selecting

variable (h : Sorts typed row withRow put slot? read slot)
include h

/-! ### What a slot holds in the end -/

/-- **The last element that selects a slot decides what it holds.** -/
theorem slot_foldl (x : σ) (es : List ε) (i : ι) :
    slot (es.foldl put x) i = ((selecting slot? i es).getLast?).elim (slot x i) (read i) := by
  induction es generalizing x with
  | nil => rfl
  | cons e es ih =>
      rw [List.foldl_cons, ih, h.slot_put]
      -- The element counts only if none of the later ones selects the slot.
      by_cases he : slot? e = some i
      · rw [if_pos he, selecting_cons_self he, List.getLast?_cons]
        cases (selecting slot? i es).getLast? <;> rfl
      · rw [if_neg he, selecting_cons_of_ne he]

theorem slot_typed (x : σ) (es : List ε) (i : ι) :
    slot (typed (withRow x es)) i = ((selecting slot? i es).getLast?).elim (slot x i) (read i) := by
  rw [h.typed_withRow, h.slot_foldl, h.slot_withRow]

theorem row_typed (x : σ) : row (typed x) = [] := by
  rw [← h.withRow_row x, h.typed_withRow, foldl_keeps h.row_put, h.row_withRow]

/-- What typing makes of a value shows in its slots. -/
theorem typed_eq_iff {x y : σ} : typed x = typed y ↔ ∀ i, slot (typed x) i = slot (typed y) i := by
  constructor
  · rintro hxy i
    rw [hxy]
  · intro hslots
    exact h.ext (by rw [h.row_typed, h.row_typed]) hslots

/-! ### Rows in which each slot is selected once -/

theorem slot_typed_of_mem {x : σ} (hrow : SelectOnce (fun e i => slot? e = some i) (row x)) {e : ε}
    {i : ι} (he : e ∈ row x) (hselect : slot? e = some i) : slot (typed x) i = read i e := by
  have hslot := h.slot_typed x (row x) i
  rwa [h.withRow_row, selecting_eq_singleton hrow he hselect] at hslot

theorem slot_typed_of_unselected {x : σ} {i : ι} (hrow : ∀ e ∈ row x, slot? e ≠ some i) :
    slot (typed x) i = slot x i := by
  have hslot := h.slot_typed x (row x) i
  rwa [h.withRow_row, selecting_eq_nil.mpr hrow] at hslot

/-- **The order of the row does not matter as long as no two elements select one slot.** -/
theorem typed_rearranged {x : σ} (hrow : SelectOnce (fun e i => slot? e = some i) (row x))
    {es : List ε} (hes : Rearranged (fun e i => slot? e = some i) (row x) es) :
    typed (withRow x es) = typed x := by
  have hself : typed x = typed (withRow x (row x)) := by rw [h.withRow_row]
  rw [hself, h.typed_eq_iff]
  intro i
  rw [h.slot_typed, h.slot_typed, selecting_rearranged hrow hes]

/-! ### Elements that cannot be read -/

variable {e : ε} {i j : ι} (x : σ) (before : List ε) {after : List ε}

/-- In the other slots an element is not seen. -/
theorem slot_insert_of_ne (he : slot? e = some i) (hj : j ≠ i) :
    slot (typed (withRow x (before ++ e :: after))) j =
      slot (typed (withRow x (before ++ after))) j := by
  have hne : slot? e ≠ some j := fun hselect => hj (Option.some.inj (hselect.symm.trans he))
  rw [h.slot_typed, h.slot_typed, selecting_append, selecting_append, selecting_cons_of_ne hne]

/-- In its own slot it is not seen if a later element selects that one too. -/
theorem slot_insert_of_selected (hafter : ∃ a ∈ after, slot? a = some i) :
    slot (typed (withRow x (before ++ e :: after))) i =
      slot (typed (withRow x (before ++ after))) i := by
  have hne : selecting slot? i after ≠ [] := by
    obtain ⟨a, ha, hselect⟩ := hafter
    exact fun hnil => selecting_eq_nil.mp hnil a ha hselect
  rw [h.slot_typed, h.slot_typed, List.append_cons, selecting_append, selecting_append before after,
    List.getLast?_append_of_ne_nil _ hne, List.getLast?_append_of_ne_nil _ hne]

/-- Otherwise the slot is left empty, whatever it held before. -/
theorem slot_insert_of_last (he : slot? e = some i) (hread : read i e = none)
    (hafter : ∀ a ∈ after, slot? a ≠ some i) :
    slot (typed (withRow x (before ++ e :: after))) i = none := by
  rw [h.slot_typed, selecting_append, selecting_cons_self he, selecting_eq_nil.mpr hafter,
    List.getLast?_concat, Option.elim_some, hread]

/-- **An element that cannot be read is dropped without a trace** exactly if a later one selects its
slot, or the slot is empty without it. -/
theorem typed_insert_eq_iff (he : slot? e = some i) (hread : read i e = none) :
    typed (withRow x (before ++ e :: after)) = typed (withRow x (before ++ after)) ↔
      (∃ a ∈ after, slot? a = some i) ∨ slot (typed (withRow x (before ++ after))) i = none := by
  by_cases hafter : ∃ a ∈ after, slot? a = some i
  · have hsame : typed (withRow x (before ++ e :: after)) = typed (withRow x (before ++ after)) := by
      refine h.typed_eq_iff.mpr fun j => ?_
      by_cases hj : j = i
      · rw [hj, h.slot_insert_of_selected x before hafter]
      · exact h.slot_insert_of_ne x before he hj
    exact ⟨fun _ => .inl hafter, fun _ => hsame⟩
  · have hempty := h.slot_insert_of_last x before he hread fun a ha hselect =>
      hafter ⟨a, ha, hselect⟩
    constructor
    · intro hsame
      rw [← hsame]
      exact .inr hempty
    · rintro (hselected | hnone)
      · exact absurd hselected hafter
      · refine h.typed_eq_iff.mpr fun j => ?_
        by_cases hj : j = i
        · rw [hj, hempty, hnone]
        · exact h.slot_insert_of_ne x before he hj

end Sorts

/-! ## Commands -/

namespace CommandExtension

/-- What a slot holds. -/
def Slot.Value : Slot → Type
  | .namestore => Namestore
  | .sync => Sync
  | .restore => Restore
  | .secDns => SecDnsUpdate

/-- What an element is read as for a slot, if it can be read. -/
def Slot.read : (s : Slot) → Element → Option s.Value
  | .namestore, e => some (Namestore.ofElement e)
  | .sync, e => (Sync.ofElement e).toOption
  | .restore, e => (Restore.ofElement e).toOption
  | .secDns, e => (SecDnsUpdate.ofElement e).toOption

/-- What a slot of the extension holds. -/
def slot (x : CommandExtension) : (s : Slot) → Option s.Value
  | .namestore => x.namestore
  | .sync => x.sync
  | .restore => x.restore
  | .secDns => x.secDns

/-- An element selects a slot by its local name and, for an update, by the namespace it declares. Of
several namespaces that of the sync comes first, then that of the grace period. -/
inductive Selects (e : Element) : Slot → Prop where
  | namestore : e.localName = "namestoreExt" → Selects e .namestore
  | sync : e.localName = "update" → e.declares "sync" → Selects e .sync
  | restore : e.localName = "update" → ¬ e.declares "sync" → e.declares "rgp" → Selects e .restore
  | secDns : e.localName = "update" → ¬ e.declares "sync" → ¬ e.declares "rgp" →
      e.declares "secDNS" → Selects e .secDns

theorem selects_iff {e : Element} {s : Slot} : Selects e s ↔ Slot.of? e = some s := by
  constructor
  · rintro (hname | ⟨hname, hsync⟩ | ⟨hname, hsync, hgrace⟩ | ⟨hname, hsync, hgrace, hdns⟩)
    all_goals simp_all [Slot.of?]
  · intro h
    unfold Slot.of? at h
    split at h
    · obtain rfl := Option.some.inj h
      exact .namestore ‹_›
    · rename_i hname
      split at h
      · obtain rfl := Option.some.inj h
        exact .sync hname ‹_›
      · split at h
        · obtain rfl := Option.some.inj h
          exact .restore hname ‹_› ‹_›
        · split at h
          · obtain rfl := Option.some.inj h
            exact .secDns hname ‹_› ‹_› ‹_›
          · exact absurd h (by simp)
    · exact absurd h (by simp)

theorem slot_put (x : CommandExtension) (e : Element) (s : Slot) :
    (x.put e).slot s = if Slot.of? e = some s then s.read e else x.slot s := by
  unfold put
  split
  all_goals rename_i hslot; rw [hslot]; cases s <;> rfl

theorem ext_slot {x y : CommandExtension} (hrow : x.untyped = y.untyped)
    (hslots : ∀ s, x.slot s = y.slot s) : x = y := by
  have hnamestore : x.namestore = y.namestore := hslots .namestore
  have hsync : x.sync = y.sync := hslots .sync
  have hrestore : x.restore = y.restore := hslots .restore
  have hdns : x.secDns = y.secDns := hslots .secDns
  cases x
  simp_all

theorem sorts : Sorts typed untyped (fun x es => { x with untyped := es }) put Slot.of? Slot.read
    slot where
  typed_withRow _ _ := rfl
  withRow_row _ := rfl
  row_withRow _ _ := rfl
  row_put := untyped_put
  slot_withRow _ _ := by funext s; cases s <;> rfl
  slot_put := slot_put
  ext := ext_slot

theorem selects_eq : Selects = fun e s => Slot.of? e = some s := by
  funext e s
  exact propext selects_iff

end CommandExtension

/-! ## Responses -/

namespace ResponseExtension

/-- What a slot holds. -/
def Slot.Value : Slot → Type
  | .launch => LaunchCheck
  | .namestore => Namestore
  | .secDns => SecDnsInfo
  | .grace => GraceStatus
  | .jobs => JobsContact

/-- What an element is read as for a slot, if it can be read. -/
def Slot.read : (s : Slot) → Element → Option s.Value
  | .launch, e => some (LaunchCheck.ofElement e)
  | .namestore, e => some (Namestore.ofElement e)
  | .secDns, e => (SecDnsInfo.ofElement e).toOption
  | .grace, e => some (GraceStatus.ofElement e)
  | .jobs, e => some (JobsContact.ofElement e)

/-- What a slot of the extension holds. -/
def slot (x : ResponseExtension) : (s : Slot) → Option s.Value
  | .launch => x.launch
  | .namestore => x.namestore
  | .secDns => x.secDns
  | .grace => x.grace
  | .jobs => x.jobs

/-- An element selects a slot by its local name and the namespace it declares. Signed delegations
come before contacts of the jobs domain. -/
inductive Selects (e : Element) : Slot → Prop where
  | launch : e.localName = "chkData" → e.declares "launch" → Selects e .launch
  | namestore : e.localName = "namestoreExt" → Selects e .namestore
  | secDns : e.localName = "infData" → e.declares "secDNS" → Selects e .secDns
  | jobs : e.localName = "infData" → ¬ e.declares "secDNS" → e.declares "jobsContact" →
      Selects e .jobs
  | grace : e.localName = "upData" → e.declares "rgp" → Selects e .grace

theorem selects_iff {e : Element} {s : Slot} : Selects e s ↔ Slot.of? e = some s := by
  constructor
  · rintro (⟨hname, hlaunch⟩ | hname | ⟨hname, hdns⟩ | ⟨hname, hdns, hjobs⟩ | ⟨hname, hgrace⟩)
    all_goals simp_all [Slot.of?]
  · intro h
    unfold Slot.of? at h
    split at h
    · rename_i hname
      obtain ⟨hlaunch, rfl⟩ : e.declares "launch" = true ∧ .launch = s := by simpa using h
      exact .launch hname hlaunch
    · obtain rfl := Option.some.inj h
      exact .namestore ‹_›
    · rename_i hname
      split at h
      · obtain rfl := Option.some.inj h
        exact .secDns hname ‹_›
      · rename_i hdns
        obtain ⟨hjobs, rfl⟩ : e.declares "jobsContact" = true ∧ .jobs = s := by simpa using h
        exact .jobs hname hdns hjobs
    · rename_i hname
      obtain ⟨hgrace, rfl⟩ : e.declares "rgp" = true ∧ .grace = s := by simpa using h
      exact .grace hname hgrace
    · exact absurd h (by simp)

theorem slot_put (x : ResponseExtension) (e : Element) (s : Slot) :
    (x.put e).slot s = if Slot.of? e = some s then s.read e else x.slot s := by
  unfold put
  split
  all_goals rename_i hslot; rw [hslot]; cases s <;> rfl

theorem ext_slot {x y : ResponseExtension} (hrow : x.untyped = y.untyped)
    (hslots : ∀ s, x.slot s = y.slot s) : x = y := by
  have hlaunch : x.launch = y.launch := hslots .launch
  have hnamestore : x.namestore = y.namestore := hslots .namestore
  have hdns : x.secDns = y.secDns := hslots .secDns
  have hgrace : x.grace = y.grace := hslots .grace
  have hjobs : x.jobs = y.jobs := hslots .jobs
  cases x
  simp_all

theorem sorts : Sorts typed untyped (fun x es => { x with untyped := es }) put Slot.of? Slot.read
    slot where
  typed_withRow _ _ := rfl
  withRow_row _ := rfl
  row_withRow _ _ := rfl
  row_put := untyped_put
  slot_withRow _ _ := by funext s; cases s <;> rfl
  slot_put := slot_put
  ext := ext_slot

theorem selects_eq : Selects = fun e s => Slot.of? e = some s := by
  funext e s
  exact propext selects_iff

end ResponseExtension

/-! ## Both -/

/--
**Overlays are sorted in any order.** For an extension of a command or of a response with anything
in its slots, and a row in which no two elements select one slot: typing comes to the same whatever
the order of the row, and whether elements that select nothing stand in it or not. A slot that is
selected holds what its element is read as, and nothing if that cannot be read; every other slot
keeps what it had, and nothing untyped is left.
-/
theorem overlays_in_any_order :
    (∀ x : CommandExtension, SelectOnce CommandExtension.Selects x.untyped →
      (∀ es, Rearranged CommandExtension.Selects x.untyped es →
        { x with untyped := es }.typed = x.typed) ∧
      (∀ e ∈ x.untyped, ∀ s, CommandExtension.Selects e s → x.typed.slot s = s.read e) ∧
      (∀ s, (∀ e ∈ x.untyped, ¬ CommandExtension.Selects e s) → x.typed.slot s = x.slot s) ∧
      x.typed.untyped = []) ∧
    (∀ x : ResponseExtension, SelectOnce ResponseExtension.Selects x.untyped →
      (∀ es, Rearranged ResponseExtension.Selects x.untyped es →
        { x with untyped := es }.typed = x.typed) ∧
      (∀ e ∈ x.untyped, ∀ s, ResponseExtension.Selects e s → x.typed.slot s = s.read e) ∧
      (∀ s, (∀ e ∈ x.untyped, ¬ ResponseExtension.Selects e s) → x.typed.slot s = x.slot s) ∧
      x.typed.untyped = []) := by
  rw [CommandExtension.selects_eq, ResponseExtension.selects_eq]
  constructor
  · intro x hrow
    have h := CommandExtension.sorts
    exact ⟨fun es hes => h.typed_rearranged hrow hes,
      fun e he s hs => h.slot_typed_of_mem hrow he hs,
      fun s hs => h.slot_typed_of_unselected hs, h.row_typed x⟩
  · intro x hrow
    have h := ResponseExtension.sorts
    exact ⟨fun es hes => h.typed_rearranged hrow hes,
      fun e he s hs => h.slot_typed_of_mem hrow he hs,
      fun s hs => h.slot_typed_of_unselected hs, h.row_typed x⟩

/-- An update that declares two namespaces is a sync, and a signature that cannot be read leaves its
slot empty. The data of a domain declares two namespaces as well. -/
theorem overlays_in_any_order_mixed :
    let note : Element := { name := "x:note" }
    let update : Element := { name := "update", attrs := [("xmlns:rgp", "r"), ("xmlns:sync", "s")],
                              children := [.leaf "expMonthDay" "--04-03"] }
    let keys : Element := { name := "update", attrs := [("xmlns:secDNS", "d")],
                            children := [.node "add" [.node "dsData" []]] }
    let info : Element := { name := "infData",
                            attrs := [("xmlns:jobsContact", "j"), ("xmlns:secDNS", "d")] }
    let x : CommandExtension := { restore := some ⟨.request, none⟩, secDns := some ⟨[], []⟩,
                                  untyped := [note, update, keys] }
    let y : ResponseExtension := { untyped := [info] }
    SelectOnce CommandExtension.Selects x.untyped ∧
      Rearranged CommandExtension.Selects x.untyped [keys, update] ∧
      { x with untyped := [keys, update] }.typed = x.typed ∧
      x.typed.sync = some ⟨"--04-03"⟩ ∧ x.typed.secDns = none ∧
      x.typed.restore = some ⟨.request, none⟩ ∧
      SelectOnce ResponseExtension.Selects y.untyped ∧ y.typed.secDns = some ⟨[]⟩ := by
  intro note update keys info x y
  have hrow : SelectOnce CommandExtension.Selects x.untyped := by
    rw [CommandExtension.selects_eq, Sorts.selectOnce_iff]
    decide
  have hnote : ∀ s, ¬ CommandExtension.Selects note s := by
    intro s
    rw [CommandExtension.selects_iff]
    cases s <;> decide
  have hes : Rearranged CommandExtension.Selects x.untyped [keys, update] :=
    .trans (.remove [] [update, keys] hnote) (.perm (.swap keys update []))
  have hinfo : SelectOnce ResponseExtension.Selects y.untyped := List.pairwise_singleton ..
  obtain ⟨horder, hread, hkept, -⟩ := overlays_in_any_order.1 x hrow
  obtain ⟨-, hread', -, -⟩ := overlays_in_any_order.2 y hinfo
  refine ⟨hrow, hes, horder _ hes, ?_, ?_, ?_, hinfo, ?_⟩
  · exact hread update (by simp [x]) .sync (CommandExtension.selects_iff.mpr (by decide))
  · exact hread keys (by simp [x]) .secDns (CommandExtension.selects_iff.mpr (by decide))
  · refine hkept .restore ?_
    simp only [CommandExtension.selects_iff]
    decide
  · exact hread' info (by simp [y]) .secDns (ResponseExtension.selects_iff.mpr (by decide))

/--
**An overlay that cannot be read empties its slot.** Wherever it stands in the row of an extension,
the other slots are as they would be without it. If no later element selects its slot, the slot is
empty, whatever it held before and whatever an earlier element had brought. So the extension is what
it would be without the element exactly if a later one selects the slot or the slot would be empty.
-/
theorem malformed_overlay_empties_slot (before after : List Element) (e : Element) :
    (∀ (x : CommandExtension) (s : CommandExtension.Slot),
      CommandExtension.Selects e s → s.read e = none →
      let kept := { x with untyped := before ++ after }.typed
      let sorted := { x with untyped := before ++ e :: after }.typed
      (∀ t ≠ s, sorted.slot t = kept.slot t) ∧
      ((∀ a ∈ after, ¬ CommandExtension.Selects a s) → sorted.slot s = none) ∧
      (sorted = kept ↔ (∃ a ∈ after, CommandExtension.Selects a s) ∨ kept.slot s = none)) ∧
    (∀ (x : ResponseExtension) (s : ResponseExtension.Slot),
      ResponseExtension.Selects e s → s.read e = none →
      let kept := { x with untyped := before ++ after }.typed
      let sorted := { x with untyped := before ++ e :: after }.typed
      (∀ t ≠ s, sorted.slot t = kept.slot t) ∧
      ((∀ a ∈ after, ¬ ResponseExtension.Selects a s) → sorted.slot s = none) ∧
      (sorted = kept ↔ (∃ a ∈ after, ResponseExtension.Selects a s) ∨ kept.slot s = none)) := by
  rw [CommandExtension.selects_eq, ResponseExtension.selects_eq]
  constructor
  · intro x s he hread
    have h := CommandExtension.sorts
    exact ⟨fun t ht => h.slot_insert_of_ne x before he ht,
      fun hafter => h.slot_insert_of_last x before he hread hafter,
      h.typed_insert_eq_iff x before he hread⟩
  · intro x s he hread
    have h := ResponseExtension.sorts
    exact ⟨fun t ht => h.slot_insert_of_ne x before he ht,
      fun hafter => h.slot_insert_of_last x before he hread hafter,
      h.typed_insert_eq_iff x before he hread⟩

/-- A step of a restoration that nobody knows empties the slot, whatever was in it. Signatures that
cannot be read are not seen when others follow. -/
theorem malformed_overlay_empties_slot_twice :
    let revoke : Element := { name := "update", attrs := [("xmlns:rgp", "r")],
                              children := [{ name := "restore", attrs := [("op", "revoke")] }] }
    let many : Element := { name := "infData", attrs := [("xmlns:secDNS", "d")],
                            children := [.node "dsData" [.leaf "keyTag" "many"]] }
    let blank : Element := { name := "infData", attrs := [("xmlns:secDNS", "d")] }
    let x : CommandExtension := { sync := some ⟨"--04-03"⟩, restore := some ⟨.request, none⟩ }
    CommandExtension.Selects revoke .restore ∧
      CommandExtension.Slot.restore.read revoke = none ∧
      { x with untyped := [revoke] }.typed.restore = none ∧
      { x with untyped := [revoke] }.typed.sync = some ⟨"--04-03"⟩ ∧
      ResponseExtension.Selects many .secDns ∧ ResponseExtension.Slot.secDns.read many = none ∧
      ({ untyped := [many, blank] } : ResponseExtension).typed =
        ({ untyped := [blank] } : ResponseExtension).typed := by
  intro revoke many blank x
  have hrevoke : CommandExtension.Selects revoke .restore :=
    CommandExtension.selects_iff.mpr (by decide)
  have hmany : ResponseExtension.Selects many .secDns :=
    ResponseExtension.selects_iff.mpr (by decide)
  have hnone : ResponseExtension.Selects blank .secDns :=
    ResponseExtension.selects_iff.mpr (by decide)
  have hunread : (SecDnsInfo.ofElement many).toOption = none := by decide
  obtain ⟨hother, hempty, -⟩ := (malformed_overlay_empties_slot [] [] revoke).1 x .restore hrevoke rfl
  obtain ⟨-, -, hsame⟩ := (malformed_overlay_empties_slot [] [blank] many).2 {} .secDns hmany hunread
  exact ⟨hrevoke, rfl, hempty (by simp), hother .sync (by decide), hmany, hunread,
    hsame.mpr (.inl ⟨blank, List.mem_singleton_self _, hnone⟩)⟩

/-- A request to restore a domain is gone when a step that nobody knows comes after it. -/
theorem unknown_step_erases_request :
    let restore (step : String) : Element :=
      { name := "update", attrs := [("xmlns:rgp", "r")],
        children := [{ name := "restore", attrs := [("op", step)] }] }
    CommandExtension.Selects (restore "revoke") .restore ∧
      CommandExtension.Slot.restore.read (restore "revoke") = none ∧
      ({ untyped := [restore "request"] } : CommandExtension).typed.restore =
        some ⟨.request, none⟩ ∧
      ({ untyped := [restore "request", restore "revoke"] } : CommandExtension).typed.restore =
        none := by
  intro restore
  refine ⟨CommandExtension.selects_iff.mpr (by decide), rfl, ?_, ?_⟩ <;> decide

end Provisioning
