import Provisioning.Message.Check

/-!
# What a check asks for after typing

The bodies of a check are typed one after another, and each appends its names to all kinds that it
declares. So every kind has, after the names it had before, those of the bodies that declare it, in
the order of the document (`names_foldl_add`), and a kind is there if it was there or if some body
declares it (`isSome_foldl_add`), with or without names. Nothing is asked for under another kind,
and nothing is left out.
-/

namespace Provisioning

open Markup

/-- The local name of the elements that name the objects of a kind. -/
def ObjectKind.nameLabel : ObjectKind → String
  | .domain => "name"
  | .host => "name"
  | .contact => "id"

/-- What a body names, if it is about objects of a kind. -/
def UntypedCheck.namesOf (u : UntypedCheck) : ObjectKind → List String
  | .domain => u.names
  | .host => u.names
  | .contact => u.ids

namespace Check

/-- The names of a kind that a check asks for. -/
def names? (x : Check) : ObjectKind → Option (List String)
  | .domain => x.domain
  | .host => x.host
  | .contact => x.contact

/-- The bodies in a check element that declare a kind, in the order of the document. -/
def bodiesOf (e : Element) (k : ObjectKind) : List Element :=
  (e.childrenNamed "check").filter fun b => (Namespaces.ofElement b).has k

theorem mem_bodiesOf {e b : Element} {k : ObjectKind} : b ∈ bodiesOf e k ↔
    b ∈ e.children ∧ b.localName = "check" ∧ (Namespaces.ofElement b).has k := by
  rw [bodiesOf, Element.childrenNamed, List.mem_filter, List.mem_filter, beq_iff_eq, and_assoc]

/-! ## One body -/

theorem names?_add (x : Check) (u : UntypedCheck) (k : ObjectKind) :
    (x.add u).names? k = u.extend k (u.namesOf k) (x.names? k) := by
  cases k <;> rfl

theorem names_add (x : Check) (u : UntypedCheck) (k : ObjectKind) :
    ((x.add u).names? k).getD [] =
      (x.names? k).getD [] ++ if u.namespaces.has k then u.namesOf k else [] := by
  rw [names?_add, UntypedCheck.extend, Namespaces.fill]
  split
  · rfl
  · rw [List.append_nil]

theorem isSome_add (x : Check) (u : UntypedCheck) (k : ObjectKind) :
    ((x.add u).names? k).isSome ↔ (x.names? k).isSome ∨ u.namespaces.has k := by
  rw [names?_add, UntypedCheck.extend, Namespaces.fill]
  split <;> simp_all

/-! ## A row of bodies -/

/-- **Names are appended in the order of the bodies that declare their kind.** -/
theorem names_foldl_add (us : List UntypedCheck) (x : Check) (k : ObjectKind) :
    ((us.foldl add x).names? k).getD [] =
      (x.names? k).getD [] ++ (us.filter (·.namespaces.has k)).flatMap (·.namesOf k) := by
  induction us generalizing x with
  | nil => rw [List.foldl_nil, List.filter_nil, List.flatMap_nil, List.append_nil]
  | cons u us ih =>
      rw [List.foldl_cons, ih, names_add, List.filter_cons, List.append_assoc]
      split
      · rw [List.flatMap_cons]
      · rw [List.nil_append]

/-- A kind is there in the end if it was there, or if some body declares it. -/
theorem isSome_foldl_add (us : List UntypedCheck) (x : Check) (k : ObjectKind) :
    ((us.foldl add x).names? k).isSome ↔
      (x.names? k).isSome ∨ ∃ u ∈ us, u.namespaces.has k := by
  induction us generalizing x with
  | nil => simp
  | cons u us ih =>
      simp only [List.foldl_cons, ih, isSome_add, or_assoc, List.mem_cons, exists_eq_or_imp]

/-! ## Elements -/

/-- The bodies that declare a kind, as they are read. -/
theorem filter_untyped_ofElement (e : Element) (k : ObjectKind) :
    (ofElement e).untyped.filter (·.namespaces.has k) =
      (bodiesOf e k).map fun b => ⟨.ofElement b, b.childTexts "name", b.childTexts "id"⟩ :=
  List.filter_map ..

/-- The names in a body stand in the elements that name objects of the kind. -/
theorem flatMap_untyped_ofElement (e : Element) (k : ObjectKind) :
    ((ofElement e).untyped.filter (·.namespaces.has k)).flatMap (·.namesOf k) =
      (bodiesOf e k).flatMap (·.childTexts k.nameLabel) := by
  rw [filter_untyped_ofElement, List.flatMap_map]
  cases k <;> rfl

theorem exists_untyped_ofElement {e : Element} {k : ObjectKind} :
    (∃ u ∈ (ofElement e).untyped, u.namespaces.has k) ↔ ∃ b, b ∈ bodiesOf e k := by
  constructor
  · rintro ⟨u, hu, hk⟩
    obtain ⟨b, hb, rfl⟩ := List.mem_map.mp hu
    exact ⟨b, List.mem_filter.mpr ⟨hb, hk⟩⟩
  · rintro ⟨b, hb⟩
    obtain ⟨hb, hk⟩ := List.mem_filter.mp hb
    exact ⟨_, List.mem_map_of_mem hb, hk⟩

theorem length_targets (x : Check) :
    x.targets.length = ((x.names? .domain).getD []).length + ((x.names? .host).getD []).length +
      ((x.names? .contact).getD []).length := by
  simp [targets, names?, Nat.add_assoc]

/--
**No name is lost, doubled or moved to another kind.** For any check element and any check whose
kinds may have names already: after the element is read into the check and typed, every kind has
the names it had before, and after them, in the order of the document, the texts under `name`, for
contacts under `id`, of exactly those children with the local name `check` that declare the kind. A
kind is there exactly if it was there before or some such child declares it, and the names that are
asked for are as many as all kinds have together.
-/
theorem check_names_are_kept (e : Element) (x : Check) :
    let y := { ofElement e with domain := x.domain, host := x.host, contact := x.contact }.typed
    (∀ k, (y.names? k).getD [] =
      (x.names? k).getD [] ++ (bodiesOf e k).flatMap (·.childTexts k.nameLabel)) ∧
    (∀ k, (y.names? k).isSome ↔ (x.names? k).isSome ∨ ∃ b ∈ e.children,
      b.localName = "check" ∧ (Namespaces.ofElement b).has k) ∧
    y.targets.length = ((y.names? .domain).getD []).length + ((y.names? .host).getD []).length +
      ((y.names? .contact).getD []).length := by
  intro y
  -- What is read into the check stands before the bodies, as if typed by an earlier pass.
  let start : Check := { domain := x.domain, host := x.host, contact := x.contact }
  have hy : y = (ofElement e).untyped.foldl add start := rfl
  have hstart (k : ObjectKind) : start.names? k = x.names? k := by cases k <;> rfl
  refine ⟨fun k => ?_, fun k => ?_, ?_⟩
  · rw [hy, names_foldl_add, hstart, flatMap_untyped_ofElement]
  · simp only [hy, isSome_foldl_add, hstart, exists_untyped_ofElement, mem_bodiesOf]
  · rw [length_targets]

/-- A body that declares two kinds names objects of both, one that declares none is about nothing,
and a kind may be there without a name. -/
example :
    let both : Element := { name := "check", attrs := [("xmlns:domain", "d"), ("xmlns:host", "h")],
                            children := [.leaf "name" "a", .leaf "id" "b", .leaf "name" "c"] }
    let neither : Element := { name := "check", children := [.leaf "name" "e"] }
    let contact : Element := { name := "check", attrs := [("xmlns:contact", "c")] }
    (ofElement (.node "check" [both, neither, contact])).typed =
      { domain := some ["a", "c"], host := some ["a", "c"], contact := some [] } := by
  decide

end Check

end Provisioning
