import Mathlib.Data.List.Forall2
import Mathlib.Data.List.Nodup
import Provisioning.Markup.Element
import Provisioning.Proofs.Related

/-!
# Trees that differ in prefixes

Two documents may say the same and yet not be the same tree: the prefixes of elements are chosen
freely, and attributes may stand in any order. Such trees are variants of each other. A reader
looks elements and attributes up by local name, and no two attributes of one element share one, so
no lookup tells variants apart: it finds the same texts, and children that are variants again.
-/

namespace Provisioning.Markup

/-- One of a row is found by what only it has, wherever it stands. -/
theorem find?_perm {α : Type} {as bs : List α} {p : α → Bool} (h : as.Perm bs)
    (hp : ∀ x ∈ as, ∀ y ∈ as, p x = true → p y = true → x = y) : as.find? p = bs.find? p := by
  cases hx : as.find? p with
  | none =>
      refine (List.find?_eq_none.mpr fun y hy => ?_).symm
      exact List.find?_eq_none.mp hx y (h.mem_iff.mpr hy)
  | some x =>
      have hmem := List.mem_of_find?_eq_some hx
      have hpx := List.find?_some hx
      cases hy : bs.find? p with
      | none => exact absurd hpx (List.find?_eq_none.mp hy x (h.mem_iff.mp hmem))
      | some y =>
          have hmem' := h.mem_iff.mpr (List.mem_of_find?_eq_some hy)
          rw [hp x hmem y hmem' hpx (List.find?_some hy)]

namespace Element

/-- The trees differ in the prefixes of elements and in the order of attributes, no two of which
have one local name in an element. -/
inductive Variant : Element → Element → Prop where
  | intro {a b : Element} :
      a.localName = b.localName → a.attrs.Perm b.attrs →
      (a.attrs.map fun x => Markup.localName x.1).Nodup → a.text = b.text →
      List.Forall₂ Variant a.children b.children → Variant a b

namespace Variant

variable {a b : Element} {α : Type}

theorem localName_eq (h : a.Variant b) : a.localName = b.localName := by
  cases h with
  | intro hname => exact hname

theorem text_eq (h : a.Variant b) : a.text = b.text := by
  cases h with
  | intro _ _ _ htext => exact htext

theorem children (h : a.Variant b) : List.Forall₂ Variant a.children b.children := by
  cases h with
  | intro _ _ _ _ hchildren => exact hchildren

/-! ## Attributes -/

/-- An attribute that is found by its local name is found in any order. -/
theorem find?_attrs (h : a.Variant b) {p : String × String → Bool}
    (hp : ∀ x y, p x = true → p y = true → Markup.localName x.1 = Markup.localName y.1) :
    a.attrs.find? p = b.attrs.find? p := by
  cases h with
  | intro _ hperm hdistinct =>
      refine find?_perm hperm fun x hx y hy hpx hpy => ?_
      exact List.inj_on_of_nodup_map hdistinct hx hy (hp x y hpx hpy)

theorem attr? (h : a.Variant b) (key : String) : a.attr? key = b.attr? key := by
  have hfound : a.attrs.find? (fun x => Markup.localName x.1 == key) =
      b.attrs.find? fun x => Markup.localName x.1 == key := by
    refine h.find?_attrs fun x y hx hy => ?_
    rw [beq_iff_eq] at hx hy
    rw [hx, hy]
  rw [Element.attr?, Element.attr?, hfound]

theorem exactAttr? (h : a.Variant b) (key : String) : a.exactAttr? key = b.exactAttr? key := by
  have hfound : a.attrs.find? (fun x => x.1 == key) = b.attrs.find? fun x => x.1 == key := by
    refine h.find?_attrs fun x y hx hy => ?_
    rw [beq_iff_eq] at hx hy
    rw [hx, hy]
  rw [Element.exactAttr?, Element.exactAttr?, hfound]

theorem filledAttr? (h : a.Variant b) (key : String) : a.filledAttr? key = b.filledAttr? key := by
  rw [Element.filledAttr?, Element.filledAttr?, h.attr?]

/-! ## Children -/

theorem childrenNamed (h : a.Variant b) (name : String) :
    List.Forall₂ Variant (a.childrenNamed name) (b.childrenNamed name) := by
  unfold Element.childrenNamed
  refine List.rel_filter (fun x y hxy => ?_) h.children
  dsimp only
  rw [hxy.localName_eq]

theorem child? (h : a.Variant b) (name : String) :
    Option.Rel Variant (a.child? name) (b.child? name) := by
  unfold Element.child?
  rw [← List.head?_filter, ← List.head?_filter]
  exact rel_head? (h.childrenNamed name)

/-- A child of a child, and so on down a path of names. -/
theorem foldlM_child? (h : a.Variant b) (path : List String) :
    Option.Rel Variant (path.foldlM Element.child? a) (path.foldlM Element.child? b) := by
  induction path generalizing a b with
  | nil => exact .some h
  | cons name path ih =>
      rw [List.foldlM_cons, List.foldlM_cons]
      rcases rel_cases (h.child? name) with ⟨ha, hb⟩ | ⟨x, y, ha, hb, hxy⟩
      · rw [ha, hb]
        exact .none
      · rw [ha, hb]
        exact ih hxy

/-- What is read from a child by a function that does not tell variants apart. -/
theorem map_child? (h : a.Variant b) {f : Element → α}
    (hf : ∀ {x y : Element}, x.Variant y → f x = f y) (name : String) :
    (a.child? name).map f = (b.child? name).map f :=
  map_congr_of_rel hf (h.child? name)

theorem bind_child? (h : a.Variant b) {f : Element → Option α}
    (hf : ∀ {x y : Element}, x.Variant y → f x = f y) (name : String) :
    (a.child? name).bind f = (b.child? name).bind f :=
  bind_congr_of_rel hf (h.child? name)

theorem map_head? (h : a.Variant b) {f : Element → α}
    (hf : ∀ {x y : Element}, x.Variant y → f x = f y) :
    a.children.head?.map f = b.children.head?.map f :=
  map_congr_of_rel hf (rel_head? h.children)

theorem map_childrenNamed (h : a.Variant b) {f : Element → α}
    (hf : ∀ {x y : Element}, x.Variant y → f x = f y) (name : String) :
    (a.childrenNamed name).map f = (b.childrenNamed name).map f :=
  map_congr_of_forall₂ hf (h.childrenNamed name)

theorem filterMap_childrenNamed (h : a.Variant b) {f : Element → Option α}
    (hf : ∀ {x y : Element}, x.Variant y → f x = f y) (name : String) :
    (a.childrenNamed name).filterMap f = (b.childrenNamed name).filterMap f :=
  filterMap_congr_of_forall₂ hf (h.childrenNamed name)

theorem hasChild (h : a.Variant b) (name : String) : a.hasChild name = b.hasChild name := by
  have hpresent := h.map_child? (f := fun _ => ()) (fun _ => rfl) name
  rw [Element.hasChild, Element.hasChild, ← Option.isSome_map (f := fun _ => ()), hpresent,
    Option.isSome_map]

theorem childText (h : a.Variant b) (name : String) : a.childText name = b.childText name := by
  rw [Element.childText, Element.childText, h.map_child? text_eq]

theorem filledChildText? (h : a.Variant b) (name : String) :
    a.filledChildText? name = b.filledChildText? name := by
  rw [Element.filledChildText?, Element.filledChildText?, h.map_child? text_eq]

theorem childTexts (h : a.Variant b) (name : String) : a.childTexts name = b.childTexts name :=
  h.map_childrenNamed text_eq name

/-- A child that has to be there is missing in both, or it is there in both. -/
theorem require_cases (h : a.Variant b) (name : String) :
    (∃ fault, a.require name = .error fault ∧ b.require name = .error fault) ∨
      ∃ x y, a.require name = .ok x ∧ b.require name = .ok y ∧ x.Variant y := by
  unfold require
  rcases rel_cases (h.child? name) with ⟨ha, hb⟩ | ⟨x, y, ha, hb, hxy⟩
  · rw [ha, hb]
    exact .inl ⟨_, rfl, rfl⟩
  · rw [ha, hb]
    exact .inr ⟨x, y, rfl, rfl, hxy⟩

theorem map_bind_require {γ : Type} (h : a.Variant b) {f g : Element → Reading α} {t : α → γ}
    (hf : ∀ {x y : Element}, x.Variant y → (f x).map t = (g y).map t) (name : String) :
    (a.require name >>= f).map t = (b.require name >>= g).map t := by
  rcases h.require_cases name with ⟨fault, ha, hb⟩ | ⟨x, y, ha, hb, hxy⟩
  · rw [ha, hb]
    rfl
  · rw [ha, hb]
    exact hf hxy

theorem bind_require (h : a.Variant b) {f : Element → Reading α}
    (hf : ∀ {x y : Element}, x.Variant y → f x = f y) (name : String) :
    (a.require name >>= f) = (b.require name >>= f) := by
  rcases h.require_cases name with ⟨fault, ha, hb⟩ | ⟨x, y, ha, hb, hxy⟩
  · rw [ha, hb]
  · rw [ha, hb]
    exact hf hxy

theorem map_require (h : a.Variant b) {f : Element → α}
    (hf : ∀ {x y : Element}, x.Variant y → f x = f y) (name : String) :
    (a.require name).map f = (b.require name).map f := by
  rcases h.require_cases name with ⟨fault, ha, hb⟩ | ⟨x, y, ha, hb, hxy⟩
  · rw [ha, hb]
  · rw [ha, hb]
    exact congrArg Except.ok (hf hxy)

end Variant

end Element

end Provisioning.Markup
