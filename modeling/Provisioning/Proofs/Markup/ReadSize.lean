import Provisioning.Markup.Tree
import Provisioning.Proofs.Text.Size

/-!
# A tree is no larger than the document it is read from

Whatever stands in a tree has been read from somewhere: a name from the tag that opened its element,
a text from the characters between tags, each element from the brackets of its tag. Asides, blanks
and attributes are read and not counted, and resolving an entity never makes a text longer. So a
tree weighs at most the bytes of its document, and that holds after every piece: what is open, and
the bytes that are left, never grow together (`growTree_weight`).
-/

namespace Provisioning.Markup

open Text
open String (utf8Len utf8Len_nil utf8Len_cons utf8Len_append utf8Len_reverse
  utf8Len_le_of_sublist utf8Len_toList utf8ByteSize_append utf8ByteSize_ofList)

/-! ## What a tree weighs -/

namespace Element

mutual

/-- The bytes that an element takes at least in a document: its name and its text, what it holds, and
the brackets and the slash of a tag. -/
def weight : Element → Nat
  | ⟨name, _, children, text⟩ => 3 + name.utf8ByteSize + text.utf8ByteSize + weights children

/-- The bytes that a row of elements takes at least. -/
def weights : List Element → Nat
  | [] => 0
  | e :: es => e.weight + weights es

end

theorem weight_eq (e : Element) :
    e.weight = 3 + e.name.utf8ByteSize + e.text.utf8ByteSize + weights e.children := by
  cases e
  rw [weight]

@[simp] theorem weights_nil : weights [] = 0 := by rw [weights]

@[simp] theorem weights_cons (e : Element) (es : List Element) :
    weights (e :: es) = e.weight + weights es := by rw [weights]

@[simp] theorem weights_append (es fs : List Element) :
    weights (es ++ fs) = weights es + weights fs := by
  induction es with
  | nil => simp
  | cons e es ih => rw [List.cons_append, weights_cons, weights_cons, ih, Nat.add_assoc]

@[simp] theorem weights_reverse (es : List Element) : weights es.reverse = weights es := by
  induction es with
  | nil => rfl
  | cons e es ih =>
      rw [List.reverse_cons, weights_append, weights_cons, weights_cons, weights_nil, ih]
      omega

theorem weights_le_of_sublist {es fs : List Element} (h : List.Sublist es fs) :
    weights es ≤ weights fs := by
  induction h with
  | slnil => exact Nat.le_refl _
  | cons e _ ih => rw [weights_cons]; omega
  | cons_cons e _ ih => rw [weights_cons, weights_cons]; omega

theorem weight_le_of_mem {e : Element} {es : List Element} (h : e ∈ es) :
    e.weight ≤ weights es := by
  have hle := weights_le_of_sublist (List.singleton_sublist.mpr h)
  rwa [weights_cons, weights_nil, Nat.add_zero] at hle

theorem weights_children_le (e : Element) : weights e.children ≤ e.weight := by
  rw [weight_eq]
  omega

theorem weight_child? {e c : Element} {key : String} (h : e.child? key = some c) :
    c.weight ≤ e.weight :=
  Nat.le_trans (weight_le_of_mem (List.mem_of_find?_eq_some h)) (weights_children_le e)

theorem utf8ByteSize_text_le (e : Element) : e.text.utf8ByteSize ≤ e.weight := by
  rw [weight_eq]
  omega

theorem utf8ByteSize_childText_le (e : Element) (key : String) :
    (e.childText key).utf8ByteSize ≤ e.weight := by
  unfold childText
  cases h : e.child? key with
  | none => exact Nat.zero_le _
  | some c => exact Nat.le_trans (utf8ByteSize_text_le c) (weight_child? h)

end Element

/-! ## Resolving entities -/

/-- An entity has at least two characters between its marks. -/
theorem two_le_of_entity? {body : List Char} {c : Char} (h : entity? body = some c) :
    2 ≤ body.length := by
  unfold entity? at h
  split at h
  case h_7 cs _ =>
    -- a number sign alone stands for no code point
    cases cs with
    | nil => simp [codePoint?, charOfCodePoint?] at h
    | cons d ds => simp
  all_goals simp at h ⊢

theorem utf8Len_of_unescapeOnto {done cs ds : List Char} (h : unescapeOnto done cs = some ds) :
    utf8Len ds ≤ utf8Len done + utf8Len cs := by
  fun_induction unescapeOnto done cs with
  | case1 done =>
      obtain rfl := Option.some.inj h
      rw [utf8Len_reverse]
      omega
  | case2 done cs rest hrest hlen c hc ih =>
      have hle := ih h
      have htwo := two_le_of_entity? hc
      have hbody := length_le_utf8Len (cs.takeWhile isEntityBody)
      have hsplit := utf8Len_takeWhile_add_dropWhile isEntityBody cs
      have hfour := c.utf8Size_le_four
      have hmarks : '&'.utf8Size = 1 ∧ ';'.utf8Size = 1 := ⟨rfl, rfl⟩
      rw [hrest, utf8Len_cons] at hsplit
      rw [utf8Len_cons] at hle ⊢
      omega
  | case3 => cases h
  | case4 => cases h
  | case5 done c cs _ ih =>
      have hle := ih h
      rw [utf8Len_cons] at hle ⊢
      omega

/-- Resolving entities never makes a text longer: no character takes more than four bytes, and no
entity less. -/
theorem utf8Len_of_unescape {cs ds : List Char} (h : unescape cs = some ds) : utf8Len ds ≤ utf8Len cs := by
  have hle := utf8Len_of_unescapeOnto h
  rwa [utf8Len_nil, Nat.zero_add] at hle

/-! ## Where a piece ends -/

theorem utf8Len_splitAtMark (mark : Char) (cs : List Char) :
    utf8Len (splitAtMark mark cs).2 ≤ utf8Len cs :=
  utf8Len_le_of_sublist ((List.drop_sublist 1 _).trans (List.dropWhile_sublist _))

theorem utf8Len_splitTag {done cs content rest : List Char} {quote : Option Char}
    (h : splitTag done quote cs = some (content, rest)) :
    utf8Len content + 1 + utf8Len rest = utf8Len done + utf8Len cs := by
  fun_induction splitTag done quote cs with
  | case1 => cases h
  | case2 done c cs q ih =>
      have hle := ih h
      rw [utf8Len_cons] at hle ⊢
      omega
  | case3 done c cs hc =>
      obtain ⟨rfl, rfl⟩ := Prod.mk.inj (Option.some.inj h)
      obtain rfl := eq_of_beq hc
      have hmark : '>'.utf8Size = 1 := rfl
      rw [utf8Len_reverse, utf8Len_cons]
      omega
  | case4 done c cs hc ih =>
      have hle := ih h
      rw [utf8Len_cons] at hle ⊢
      omega

theorem utf8Len_afterComment {seen dashes : Nat} {cs rest : List Char}
    (h : afterComment seen dashes cs = some rest) : utf8Len rest ≤ utf8Len cs := by
  fun_induction afterComment seen dashes cs with
  | case1 => cases h
  | case2 seen dashes c cs =>
      obtain rfl := Option.some.inj h
      rw [utf8Len_cons]
      omega
  | case3 seen dashes c cs _ ih =>
      have hle := ih h
      rw [utf8Len_cons]
      omega

theorem utf8Len_splitDoctype {depth : Nat} {done cs content rest : List Char}
    (h : splitDoctype done depth cs = some (content, rest)) : utf8Len rest ≤ utf8Len cs := by
  fun_induction splitDoctype done depth cs with
  | case1 => cases h
  | case2 done depth c cs =>
      obtain ⟨-, rfl⟩ := Prod.mk.inj (Option.some.inj h)
      rw [utf8Len_cons]
      omega
  | case3 done depth c cs _ depth' ih =>
      have hle := ih h
      rw [utf8Len_cons]
      omega

theorem utf8Len_splitVerbatim {done cs content rest : List Char}
    (h : splitVerbatim done cs = some (content, rest)) :
    utf8Len content + utf8Len rest ≤ utf8Len done + utf8Len cs := by
  induction cs generalizing done with
  | nil => cases h
  | cons c cs ih =>
      simp only [splitVerbatim] at h
      split at h
      · obtain ⟨rfl, rfl⟩ := Prod.mk.inj (Option.some.inj h)
        rw [utf8Len_reverse, utf8Len_cons, utf8Len_cons, utf8Len_cons]
        omega
      · have hle := ih h
        rw [utf8Len_cons] at hle ⊢
        omega

/-! ## One piece -/

/-- What a piece adds to the open elements, an element that it opens counted by its name and one pair
of brackets. -/
def Piece.weight : Piece → Nat
  | .text raw => utf8Len raw
  | .verbatim data => utf8Len data
  | .opening name _ => 2 + utf8Len name
  | .empty name _ => 3 + utf8Len name
  | .closing _ => 1
  | .aside => 0

theorem weight_startTag {cs rest : List Char} {p : Piece} (h : startTag cs = .piece p rest) :
    p.weight + utf8Len rest ≤ utf8Len cs + 1 := by
  unfold startTag at h
  split at h
  · cases h
  · rename_i content after hsplit
    have hsize := utf8Len_splitTag hsplit
    rw [utf8Len_nil, Nat.zero_add] at hsize
    dsimp only at h
    split at h
    · cases h
    · obtain ⟨rfl, rfl⟩ := Front.piece.inj h
      by_cases hclosed : content.getLast? = some '/'
      · -- the slash that ends the tag is no part of the name
        obtain ⟨front, rfl⟩ := List.getLast?_eq_some_iff.mp hclosed
        have hname : utf8Len (front.takeWhile fun c => !isMarkupBlank c) ≤ utf8Len front :=
          utf8Len_le_of_sublist (List.takeWhile_sublist _)
        have hslash : utf8Len ['/'] = 1 := rfl
        rw [utf8Len_append] at hsize
        simp only [List.getLast?_concat, beq_self_eq_true, if_true, List.dropLast_concat,
          Piece.weight]
        omega
      · have hname : utf8Len (content.takeWhile fun c => !isMarkupBlank c) ≤ utf8Len content :=
          utf8Len_le_of_sublist (List.takeWhile_sublist _)
        have hopen : (content.getLast? == some '/') = false := beq_eq_false_iff_ne.mpr hclosed
        simp only [hopen, Bool.false_eq_true, if_false, Piece.weight]
        omega

theorem weight_endTag {cs rest : List Char} {p : Piece} (h : endTag cs = .piece p rest) :
    p.weight + utf8Len rest ≤ utf8Len cs + 1 := by
  have hsize := utf8Len_splitAtMark '>' cs
  simp only [endTag, Front.piece.injEq] at h
  rw [← h.1, ← h.2, Piece.weight]
  omega

theorem weight_instruction {cs rest : List Char} {p : Piece} (h : instruction cs = .piece p rest) :
    p.weight + utf8Len rest ≤ utf8Len cs := by
  have hsize := utf8Len_splitAtMark '>' cs
  unfold instruction at h
  dsimp only at h
  split at h
  · obtain ⟨rfl, rfl⟩ := Front.piece.inj h
    rw [Piece.weight]
    omega
  · cases h

theorem weight_declaration {cs rest : List Char} {p : Piece} (h : declaration cs = .piece p rest) :
    p.weight + utf8Len rest ≤ utf8Len cs := by
  unfold declaration at h
  split at h
  · rename_i cs
    split at h
    · rename_i after hafter
      have hsize := utf8Len_afterComment hafter
      split at h
      · obtain ⟨rfl, rfl⟩ := Front.piece.inj h
        rw [Piece.weight, utf8Len_cons]
        omega
      · cases h
    · cases h
  · rename_i cs
    split at h
    · rename_i content after hsplit
      have hsize := utf8Len_splitVerbatim hsplit
      split at h
      · obtain ⟨rfl, rfl⟩ := Front.piece.inj h
        have hdata : utf8Len (content.drop 6) ≤ utf8Len content :=
          utf8Len_le_of_sublist (List.drop_sublist 6 content)
        rw [utf8Len_nil] at hsize
        rw [Piece.weight, utf8Len_cons]
        omega
      · cases h
    · cases h
  · split at h
    · split at h
      · rename_i content after hsplit
        have hsize := utf8Len_splitDoctype hsplit
        split at h
        · obtain ⟨rfl, rfl⟩ := Front.piece.inj h
          rw [Piece.weight]
          omega
        · cases h
      · cases h
    · cases h
  · cases h

theorem weight_tag {cs rest : List Char} {p : Piece} (h : tag cs = .piece p rest) :
    p.weight + utf8Len rest ≤ utf8Len cs + 1 := by
  unfold tag at h
  split at h
  · cases h
  · have := weight_endTag h
    rw [utf8Len_cons]
    omega
  · have := weight_instruction h
    rw [utf8Len_cons]
    omega
  · have := weight_declaration h
    rw [utf8Len_cons]
    omega
  · exact weight_startTag h

/-- **A piece and what it leaves** take no more bytes than what they were taken from. -/
theorem Piece.next_weight {cs rest : List Char} {p : Piece} (h : Piece.next cs = .piece p rest) :
    p.weight + utf8Len rest ≤ utf8Len cs := by
  have hleft : utf8Len (trimLeft isMarkupBlank cs) ≤ utf8Len cs :=
    utf8Len_le_of_sublist (List.dropWhile_sublist _)
  unfold Piece.next at h
  split at h
  · cases h
  · rename_i inside hbracket
    have htag := weight_tag h
    have hmark : '<'.utf8Size = 1 := rfl
    rw [hbracket, utf8Len_cons] at hleft
    omega
  · obtain ⟨rfl, rfl⟩ := Front.piece.inj h
    have hsplit := utf8Len_takeWhile_add_dropWhile (· != '<') (trimLeft isMarkupBlank cs)
    have htrim : utf8Len (trimRight isMarkupBlank
        ((trimLeft isMarkupBlank cs).takeWhile (· != '<'))) ≤
        utf8Len ((trimLeft isMarkupBlank cs).takeWhile (· != '<')) := by
      rw [trimRight, utf8Len_reverse, ← utf8Len_reverse (List.takeWhile _ _)]
      exact utf8Len_le_of_sublist (List.dropWhile_sublist _)
    rw [Piece.weight]
    omega

/-! ## The open elements -/

namespace OpenElement

/-- What an open element weighs so far. -/
def weight (o : OpenElement) : Nat :=
  2 + utf8Len o.name + o.text.utf8ByteSize + Element.weights o.childrenRev

/-- What a row of open elements weighs. -/
def weights (stack : List OpenElement) : Nat := (stack.map weight).sum

@[simp] theorem weights_cons (o : OpenElement) (stack : List OpenElement) :
    weights (o :: stack) = o.weight + weights stack := by
  simp [weights]

theorem weight_addChild (o : OpenElement) (e : Element) :
    (o.addChild e).weight = o.weight + e.weight := by
  simp only [weight, addChild, Element.weights_cons]
  omega

theorem weight_addText (o : OpenElement) (cs : List Char) :
    (o.addText cs).weight = o.weight + utf8Len cs := by
  simp only [weight, addText, utf8ByteSize_append, utf8ByteSize_ofList]
  omega

theorem weight_close (o : OpenElement) : o.close.weight = o.weight + 1 := by
  rw [Element.weight_eq]
  simp only [weight, close, utf8ByteSize_ofList, Element.weights_reverse]
  omega

theorem weight_start (name : List Char) (attrs : List (List Char × List Char)) :
    (start name attrs).weight = 2 + utf8Len name := by
  simp [weight, start]

end OpenElement

/-- What has grown weighs no more than this. -/
def Growth.Within (n : Nat) : Growth → Prop
  | .grown stack => OpenElement.weights stack ≤ n
  | .finished root => root.weight ≤ n
  | .broken => True

open OpenElement

theorem complete_within {e : Element} {stack : List OpenElement} :
    (complete e stack).Within (e.weight + weights stack) := by
  cases stack with
  | nil => exact Nat.le_add_right _ _
  | cons o os =>
      simp only [complete, Growth.Within, weights_cons, weight_addChild]
      omega

theorem Growth.Within.mono {n m : Nat} {g : Growth} (h : g.Within n) (hle : n ≤ m) :
    g.Within m := by
  cases g with
  | grown stack => exact Nat.le_trans h hle
  | finished root => exact Nat.le_trans h hle
  | broken => trivial

/-- **One piece adds no more than it weighs.** -/
theorem grow_within (stack : List OpenElement) (p : Piece) :
    (grow stack p).Within (weights stack + p.weight) := by
  cases p with
  | aside => exact Nat.le_add_right _ _
  | text raw =>
      cases stack with
      | nil => exact Nat.zero_le _
      | cons o os =>
          rw [grow]
          split
          · rename_i cs hcs
            have hle := utf8Len_of_unescape hcs
            simp only [Growth.Within, weights_cons, weight_addText, Piece.weight]
            omega
          · trivial
  | verbatim data =>
      cases stack with
      | nil => exact Nat.zero_le _
      | cons o os =>
          simp only [grow, Growth.Within, weights_cons, weight_addText, Piece.weight]
          omega
  | opening name attrs =>
      simp only [grow, Growth.Within, weights_cons, weight_start, Piece.weight]
      omega
  | empty name attrs =>
      rw [grow]
      refine complete_within.mono ?_
      rw [weight_close, weight_start, Piece.weight]
      omega
  | closing name =>
      cases stack with
      | nil => trivial
      | cons o os =>
          rw [grow]
          split
          · refine complete_within.mono ?_
            rw [weight_close, weights_cons, Piece.weight]
            omega
          · trivial

/-- **A tree weighs no more** than what was open and the bytes it was read from. -/
theorem growTree_weight {stack : List OpenElement} {cs : List Char} {root : Element}
    (h : growTree stack cs = .ok root) : root.weight ≤ weights stack + utf8Len cs := by
  fun_induction growTree stack cs with
  | case1 => cases h
  | case2 => cases h
  | case3 stack cs p rest hnext hlength stack' hgrow ih =>
      have hpiece := Piece.next_weight hnext
      have hgrown := grow_within stack p
      rw [hgrow] at hgrown
      have hle := ih h
      have hgrown : weights stack' ≤ weights stack + p.weight := hgrown
      omega
  | case4 stack cs p rest hnext hlength root' hgrow =>
      obtain rfl := Except.ok.inj h
      have hpiece := Piece.next_weight hnext
      have hgrown := grow_within stack p
      rw [hgrow] at hgrown
      have hgrown : root'.weight ≤ weights stack + p.weight := hgrown
      omega
  | case5 => cases h

theorem utf8Len_dropByteOrderMark (cs : List Char) : utf8Len (dropByteOrderMark cs) ≤ utf8Len cs := by
  cases cs with
  | nil => exact Nat.le_refl _
  | cons c cs =>
      rw [dropByteOrderMark]
      split
      · rw [utf8Len_cons]
        omega
      · exact Nat.le_refl _

/-- **A tree weighs no more than the document it is read from.** -/
theorem Element.weight_ofText {s : String} {root : Element} (h : Element.ofText s = .ok root) :
    root.weight ≤ s.utf8ByteSize := by
  have hmark := utf8Len_dropByteOrderMark s.toList
  have hle := growTree_weight h
  have hnone : OpenElement.weights [] = 0 := rfl
  rw [utf8Len_toList] at hmark
  omega

end Provisioning.Markup
