import Provisioning.Proofs.Markup.Texts

/-!
# Finding what was written

Every reader looks its children up by local name, and every writer puts them into a row. What a
lookup finds in a row is what it finds in its parts, one after the other (`named_append`,
`named_map`), so a reader can be followed through a writer without knowing where in the row a child
stands. Trimming the texts of a tree does not change what is found, only the texts of it.
-/

namespace Provisioning.Markup

/-! ## Local names -/

theorem takeWhile_colonless {s : String} (h : ':' ∉ s.toList) (rest : List Char) :
    (s.toList.reverse ++ rest).takeWhile (· != ':') =
      s.toList.reverse ++ rest.takeWhile (· != ':') := by
  refine List.takeWhile_append_of_pos fun c hc => ?_
  rw [bne_iff_ne]
  rintro rfl
  exact h (List.mem_reverse.mp hc)

/-- A name without a prefix is its local name. -/
@[simp] theorem localName_plain {s : String} (h : ':' ∉ s.toList) : localName s = s := by
  have htake := takeWhile_colonless h []
  rw [List.append_nil, List.takeWhile_nil, List.append_nil] at htake
  rw [localName, htake]
  simp

/-- What stands after a prefix is the local name. -/
theorem localName_prefixed (p : String) {s : String} (h : ':' ∉ s.toList) :
    localName (p ++ ":" ++ s) = s := by
  rw [localName, String.toList_append, String.toList_append, List.reverse_append,
    List.reverse_append, takeWhile_colonless h]
  simp

theorem isName_prefixed {p s : String} (hp : isName p = true) (hs : isName s = true) :
    isName (p ++ ":" ++ s) = true := by
  have hall := isName_chars hs
  unfold isName at hp ⊢
  cases hlist : p.toList with
  | nil => simp [hlist] at hp
  | cons c cs =>
      rw [hlist] at hp
      rw [Bool.and_eq_true] at hp
      have hrest : (c :: (cs ++ ':' :: s.toList)).all isNameChar = true := by
        rw [← List.cons_append, List.all_append, hp.2, List.all_cons, List.all_eq_true.mpr hall]
        decide
      have hsplit : (p ++ ":" ++ s).toList = c :: (cs ++ ':' :: s.toList) := by simp [hlist]
      rw [hsplit]
      simp only [hp.1, hrest, Bool.and_self]

namespace Element

/-! ## Rows of children -/

/-- The elements of a row with a local name. -/
def named (key : String) (es : List Element) : List Element := es.filter (·.localName == key)

variable (key : String)

@[simp] theorem named_nil : named key [] = [] := rfl

@[simp] theorem named_cons (e : Element) (es : List Element) :
    named key (e :: es) = if e.localName = key then e :: named key es else named key es := by
  simp [named, List.filter_cons]

@[simp] theorem named_append (es fs : List Element) :
    named key (es ++ fs) = named key es ++ named key fs := by
  simp [named]

@[simp] theorem named_map {α : Type} (f : α → Element) (l : List α) :
    named key (l.map f) = (l.filter fun a => (f a).localName == key).map f := by
  simp [named, List.filter_map, Function.comp_def]

@[simp] theorem named_ite {p : Prop} [Decidable p] (es fs : List Element) :
    named key (if p then es else fs) = if p then named key es else named key fs := by
  split <;> rfl

/-- A child that stands for a truth value is there when it is true. -/
@[simp] theorem isSome_head?_flagged (b : Bool) (e : Element) :
    (if b = true then [e] else []).head?.isSome = b := by
  cases b <;> rfl

@[simp] theorem filter_true {α : Type} (o : Option α) : o.filter (fun _ => true) = o := by
  cases o <;> rfl

@[simp] theorem filter_false {α : Type} (o : Option α) : o.filter (fun _ => false) = none := by
  cases o <;> rfl

/-- A child that may be missing is a row of at most one. -/
@[simp] theorem named_toList {α : Type} (f : α → Element) (o : Option α) :
    named key (o.map f).toList = ((o.filter fun a => (f a).localName == key).map f).toList := by
  cases o with
  | none => rfl
  | some a =>
      by_cases h : (f a).localName = key <;> simp [h, Option.filter]

/-! ## Lookups as rows -/

@[simp] theorem childrenNamed_eq (e : Element) : e.childrenNamed key = named key e.children := rfl

@[simp] theorem child?_eq (e : Element) : e.child? key = (named key e.children).head? := by
  simp [child?, named]

@[simp] theorem hasChild_eq (e : Element) :
    e.hasChild key = (named key e.children).head?.isSome := by
  rw [hasChild, child?_eq]

@[simp] theorem childText_eq (e : Element) :
    e.childText key = ((named key e.children).head?.map (·.text)).getD "" := by
  rw [childText, child?_eq]

@[simp] theorem filledChildText?_eq (e : Element) :
    e.filledChildText? key = filled ((named key e.children).head?.map (·.text)) := by
  rw [filledChildText?, child?_eq, filled]

@[simp] theorem childTexts_eq (e : Element) :
    e.childTexts key = (named key e.children).map (·.text) := rfl

@[simp] theorem filledAttr?_eq (e : Element) : e.filledAttr? key = filled (e.attr? key) := rfl

/-! ## Trimmed rows -/

@[simp] theorem name_trimmed (e : Element) : e.trimmed.name = e.name := by cases e; rfl

@[simp] theorem attrs_trimmed (e : Element) : e.trimmed.attrs = e.attrs := by cases e; rfl

@[simp] theorem text_trimmed (e : Element) : e.trimmed.text = trimText e.text := by cases e; rfl

@[simp] theorem children_trimmed (e : Element) : e.trimmed.children = trimmedAll e.children := by
  cases e; rfl

@[simp] theorem localName_trimmed (e : Element) : e.trimmed.localName = e.localName := by
  simp [localName]

@[simp] theorem attr?_trimmed (e : Element) : e.trimmed.attr? key = e.attr? key := by
  simp [attr?]

@[simp] theorem exactAttr?_trimmed (e : Element) : e.trimmed.exactAttr? key = e.exactAttr? key := by
  simp [exactAttr?]

@[simp] theorem trimmedAll_nil : trimmedAll [] = [] := rfl

@[simp] theorem trimmedAll_cons (e : Element) (es : List Element) :
    trimmedAll (e :: es) = e.trimmed :: trimmedAll es := rfl

@[simp] theorem named_trimmedAll (es : List Element) :
    named key (trimmedAll es) = trimmedAll (named key es) := by
  simp [named, trimmedAll_eq, List.filter_map, Function.comp_def]

@[simp] theorem head?_trimmedAll (es : List Element) :
    (trimmedAll es).head? = es.head?.map trimmed := by
  simp [trimmedAll_eq]

@[simp] theorem map_trimmedAll {α : Type} (f : Element → α) (es : List Element) :
    (trimmedAll es).map f = es.map fun e => f e.trimmed := by
  simp [trimmedAll_eq, Function.comp_def]

@[simp] theorem filterMap_trimmedAll {α : Type} (f : Element → Option α) (es : List Element) :
    (trimmedAll es).filterMap f = es.filterMap fun e => f e.trimmed := by
  simp [trimmedAll_eq, List.filterMap_map]

/-- The texts of a section that is left out when it would be empty. -/
theorem texts_section {s : Element} {texts : List String}
    (h : (named key s.children).map (fun c => trimText c.text) = texts.map trimText) :
    ((if texts = [] then [] else [s]).head?.map fun e =>
      (named key e.children).map fun c => trimText c.text).getD [] = texts.map trimText := by
  by_cases hempty : texts = []
  · rw [hempty]; rfl
  · rw [if_neg hempty, List.head?_cons, Option.map_some, Option.getD_some, h]

/-! ## What the builders hold -/

@[simp] theorem localName_leaf (name text : String) :
    (leaf name text).localName = Markup.localName name := rfl

@[simp] theorem text_leaf (name text : String) : (leaf name text).text = text := rfl

@[simp] theorem attrs_leaf (name text : String) : (leaf name text).attrs = [] := rfl

@[simp] theorem localName_node (name : String) (children : List Element) :
    (node name children).localName = Markup.localName name := rfl

@[simp] theorem children_node (name : String) (children : List Element) :
    (node name children).children = children := rfl

@[simp] theorem attrs_node (name : String) (children : List Element) :
    (node name children).attrs = [] := rfl

@[simp] theorem localName_withAttr (e : Element) (value : String) :
    (e.withAttr key value).localName = e.localName := rfl

@[simp] theorem text_withAttr (e : Element) (value : String) :
    (e.withAttr key value).text = e.text := rfl

@[simp] theorem children_withAttr (e : Element) (value : String) :
    (e.withAttr key value).children = e.children := rfl

@[simp] theorem attrs_withAttr (e : Element) (value : String) :
    (e.withAttr key value).attrs = e.attrs ++ [(key, value)] := rfl

@[simp] theorem localName_withAttr? (e : Element) (value : Option String) :
    (e.withAttr? key value).localName = e.localName := by cases value <;> rfl

@[simp] theorem text_withAttr? (e : Element) (value : Option String) :
    (e.withAttr? key value).text = e.text := by cases value <;> rfl

@[simp] theorem children_withAttr? (e : Element) (value : Option String) :
    (e.withAttr? key value).children = e.children := by cases value <;> rfl

@[simp] theorem attrs_withAttr? (e : Element) (value : Option String) :
    (e.withAttr? key value).attrs = e.attrs ++ (value.map fun v => (key, v)).toList := by
  cases value <;> simp [withAttr?]

/-! ## Attributes of what the builders make -/

@[simp] theorem attr?_leaf (name text : String) : (leaf name text).attr? key = none := rfl

@[simp] theorem attr?_node (name : String) (children : List Element) :
    (node name children).attr? key = none := rfl

/-- The first attribute of a name counts. -/
@[simp] theorem attr?_withAttr (e : Element) (name value : String) :
    (e.withAttr name value).attr? key =
      (e.attr? key).or (if Markup.localName name = key then some value else none) := by
  rw [attr?, attrs_withAttr, List.find?_append, Option.map_or, ← attr?]
  by_cases h : Markup.localName name = key <;> simp [h]

@[simp] theorem attr?_withAttr? (e : Element) (name : String) (value : Option String) :
    (e.withAttr? name value).attr? key =
      (e.attr? key).or (if Markup.localName name = key then value else none) := by
  cases value with
  | none => simp [withAttr?]
  | some v => rw [withAttr?, attr?_withAttr]

/-! ## Names of what the builders make -/

@[simp] theorem wellNamed_leaf {name text : String} :
    (leaf name text).WellNamed ↔ isName name = true := by
  constructor
  · rintro ⟨hname, -, -, -⟩
    exact hname
  · exact fun h => .intro h (by simp [leaf]) (by simp [leaf]) (by simp [leaf])

@[simp] theorem wellNamed_node {name : String} {children : List Element} :
    (node name children).WellNamed ↔ isName name = true ∧ ∀ c ∈ children, c.WellNamed := by
  constructor
  · rintro ⟨hname, -, -, hchildren⟩
    exact ⟨hname, hchildren⟩
  · exact fun h => .intro h.1 (by simp [node]) (by simp [node]) h.2

/-- An attribute is added under a name that the element does not have yet. -/
theorem wellNamed_withAttr {e : Element} (h : e.WellNamed) {key : String} (hkey : isName key = true)
    (hnew : key ∉ e.attrs.map Prod.fst) (value : String) : (e.withAttr key value).WellNamed := by
  obtain ⟨hname, hattrs, hnodup, hchildren⟩ := h
  refine .intro hname ?_ ?_ hchildren
  · intro a ha
    rcases List.mem_append.mp ha with ha | ha
    · exact hattrs a ha
    · rw [List.mem_singleton.mp ha]
      exact hkey
  · rw [attrs_withAttr, List.map_append]
    refine List.nodup_append.mpr ⟨hnodup, by simp, fun a ha b hb hab => ?_⟩
    rw [List.map_cons, List.map_nil, List.mem_singleton] at hb
    rw [hab, hb] at ha
    exact hnew ha

theorem wellNamed_withAttr? {e : Element} (h : e.WellNamed) {key : String}
    (hkey : isName key = true) (hnew : key ∉ e.attrs.map Prod.fst) (value : Option String) :
    (e.withAttr? key value).WellNamed := by
  cases value with
  | none => exact h
  | some v => exact wellNamed_withAttr h hkey hnew v

end Element

end Provisioning.Markup
