import Provisioning.Markup.Tree
import Provisioning.Proofs.Markup.RoundTrip

/-!
# What follows a document

A reader that has found the end of a piece has not looked beyond it. Each scanner below therefore
*takes* some characters of the input and leaves the rest, and takes the same characters whatever the
rest is. Two kinds of pieces have no end of their own: text, which ends where the next bracket opens,
and a closing tag at the end of the input, whose bracket may be missing. Neither can be the last piece
of a document that ends in a bracket, so what follows such a document changes nothing
(`growTree_append`).
-/

namespace Provisioning.Markup

open Text

/-! ## Scanners -/

/-- The first part of a row up to a mark is the same whatever follows the mark. -/
theorem splitAtMark_of_notMem {mark : Char} {a : List Char} (h : mark ∉ a) (b : List Char) :
    splitAtMark mark (a ++ mark :: b) = (a, b) := by
  have hpos : ∀ c ∈ a, (c != mark) = true := fun c hc => by
    simpa using fun he : c = mark => h (he ▸ hc)
  simp only [splitAtMark]
  rw [List.takeWhile_append_of_pos hpos, List.dropWhile_append_of_pos hpos]
  simp

/-- Only a mark leaves something behind it. -/
theorem mem_of_splitAtMark {mark : Char} {cs : List Char} (h : (splitAtMark mark cs).2 ≠ []) :
    mark ∈ cs := by
  by_contra hmark
  have hpos : ∀ c ∈ cs, (c != mark) = true := fun c hc => by
    simpa using fun he : c = mark => hmark (he ▸ hc)
  exact h (by simp [splitAtMark, List.dropWhile_eq_nil_iff.mpr hpos])

theorem splitTag_taken {cs done content rest : List Char} {quote : Option Char}
    (h : splitTag done quote cs = some (content, rest)) :
    ∃ used, cs = used ++ rest ∧ ∀ s, splitTag done quote (used ++ s) = some (content, s) := by
  induction cs generalizing done quote with
  | nil => exact absurd h (by simp [splitTag])
  | cons c cs ih =>
      cases quote with
      | some q =>
          simp only [splitTag] at h
          obtain ⟨used, rfl, htaken⟩ := ih h
          refine ⟨c :: used, rfl, fun s => ?_⟩
          simp only [List.cons_append, splitTag]
          exact htaken s
      | none =>
          simp only [splitTag] at h
          split at h
          · rename_i hc
            obtain ⟨rfl, rfl⟩ := Prod.mk.inj (Option.some.inj h)
            refine ⟨[c], rfl, fun s => ?_⟩
            simp only [List.singleton_append, splitTag, hc, if_true]
          · rename_i hc
            obtain ⟨used, rfl, htaken⟩ := ih h
            refine ⟨c :: used, rfl, fun s => ?_⟩
            simp only [List.cons_append, splitTag, hc, Bool.false_eq_true, if_false]
            exact htaken s

theorem afterComment_taken {cs rest : List Char} {seen dashes : Nat}
    (h : afterComment seen dashes cs = some rest) :
    ∃ used, cs = used ++ rest ∧ ∀ s, afterComment seen dashes (used ++ s) = some s := by
  induction cs generalizing seen dashes with
  | nil => exact absurd h (by simp [afterComment])
  | cons c cs ih =>
      rw [afterComment] at h
      split at h
      · rename_i hend
        obtain rfl := Option.some.inj h
        exact ⟨[c], rfl, fun s => by rw [List.singleton_append, afterComment, if_pos hend]⟩
      · rename_i hend
        obtain ⟨used, rfl, htaken⟩ := ih h
        refine ⟨c :: used, rfl, fun s => ?_⟩
        rw [List.cons_append, afterComment, if_neg hend]
        exact htaken s

theorem splitDoctype_taken {cs done content rest : List Char} {depth : Nat}
    (h : splitDoctype done depth cs = some (content, rest)) :
    ∃ used, cs = used ++ rest ∧ ∀ s, splitDoctype done depth (used ++ s) = some (content, s) := by
  induction cs generalizing done depth with
  | nil => exact absurd h (by simp [splitDoctype])
  | cons c cs ih =>
      rw [splitDoctype] at h
      split at h
      · rename_i hend
        obtain ⟨rfl, rfl⟩ := Prod.mk.inj (Option.some.inj h)
        exact ⟨[c], rfl, fun s => by rw [List.singleton_append, splitDoctype, if_pos hend]⟩
      · rename_i hend
        obtain ⟨used, rfl, htaken⟩ := ih h
        refine ⟨c :: used, rfl, fun s => ?_⟩
        rw [List.cons_append, splitDoctype, if_neg hend]
        exact htaken s

theorem splitVerbatim_taken {cs done content rest : List Char}
    (h : splitVerbatim done cs = some (content, rest)) :
    ∃ used, cs = used ++ rest ∧ ∀ s, splitVerbatim done (used ++ s) = some (content, s) := by
  induction cs generalizing done with
  | nil => exact absurd h (by simp [splitVerbatim])
  | cons c cs ih =>
      simp only [splitVerbatim] at h
      split at h
      · obtain ⟨rfl, rfl⟩ := Prod.mk.inj (Option.some.inj h)
        exact ⟨['>'], rfl, fun s => rfl⟩
      · obtain ⟨used, rfl, htaken⟩ := ih h
        refine ⟨c :: used, rfl, fun s => ?_⟩
        simp only [List.cons_append, splitVerbatim]
        exact htaken s

/-! ## Tags -/

theorem startTag_taken {cs rest : List Char} {p : Piece} (h : startTag cs = .piece p rest) :
    ∃ used, cs = used ++ rest ∧ ∀ s, startTag (used ++ s) = .piece p s := by
  unfold startTag at h
  split at h
  · exact absurd h (by simp)
  · rename_i content rest' hsplit
    obtain ⟨used, hused, htaken⟩ := splitTag_taken hsplit
    dsimp only at h
    split at h
    · exact absurd h (by simp)
    · rename_i attrs hattrs
      obtain ⟨rfl, rfl⟩ := Front.piece.inj h
      refine ⟨used, hused, fun s => ?_⟩
      simp only [startTag, htaken s, hattrs]

theorem endTag_taken {cs rest : List Char} {p : Piece} (hend : rest ≠ [] ∨ '>' ∈ cs)
    (h : endTag cs = .piece p rest) :
    ∃ used, cs = used ++ rest ∧ ∀ s, endTag (used ++ s) = .piece p s := by
  simp only [endTag, Front.piece.injEq] at h
  obtain ⟨rfl, rfl⟩ := h
  obtain ⟨a, b, rfl, ha⟩ := List.eq_append_cons_of_mem (hend.elim mem_of_splitAtMark id)
  rw [splitAtMark_of_notMem ha]
  refine ⟨a ++ ['>'], by simp, fun s => ?_⟩
  rw [List.append_assoc, List.singleton_append]
  simp only [endTag, splitAtMark_of_notMem ha]

theorem instruction_taken {cs rest : List Char} {p : Piece} (hend : rest ≠ [] ∨ '>' ∈ cs)
    (h : instruction cs = .piece p rest) :
    ∃ used, cs = used ++ rest ∧ ∀ s, instruction (used ++ s) = .piece p s := by
  simp only [instruction] at h
  split at h
  · rename_i hquery
    obtain ⟨rfl, rfl⟩ := Front.piece.inj h
    obtain ⟨a, b, rfl, ha⟩ := List.eq_append_cons_of_mem (hend.elim mem_of_splitAtMark id)
    rw [splitAtMark_of_notMem ha] at hquery ⊢
    refine ⟨a ++ ['>'], by simp, fun s => ?_⟩
    rw [List.append_assoc, List.singleton_append]
    simp only [instruction, splitAtMark_of_notMem ha, hquery, if_true]
  · exact absurd h (by simp)

/-- What begins with this letter can be a document type declaration only. -/
theorem declaration_letter {c : Char} (h : (c == 'D' || c == 'd') = true) (cs : List Char) :
    declaration (c :: cs) = match splitDoctype [] 0 (c :: cs) with
      | some (content, rest) =>
        if beginsWith content ['D', 'O', 'C', 'T', 'Y', 'P', 'E'] &&
            (content.drop 7).any fun c => !isMarkupBlank c then .piece .aside rest
        else .broken
      | none => .broken := by
  rw [Bool.or_eq_true, beq_iff_eq, beq_iff_eq] at h
  rcases h with rfl | rfl <;> rfl

theorem declaration_taken {cs rest : List Char} {p : Piece} (h : declaration cs = .piece p rest) :
    ∃ used, cs = used ++ rest ∧ ∀ s, declaration (used ++ s) = .piece p s := by
  unfold declaration at h
  split at h
  · split at h
    · rename_i cs rest' hafter
      obtain ⟨used, rfl, htaken⟩ := afterComment_taken hafter
      split at h
      · rename_i hhyphen
        obtain ⟨rfl, rfl⟩ := Front.piece.inj h
        -- a comment takes something, so that its first character is its own
        cases used with
        | nil => exact absurd (htaken []) (by simp [afterComment])
        | cons c used =>
            refine ⟨'-' :: c :: used, rfl, fun s => ?_⟩
            have hs := htaken s
            rw [List.cons_append] at hs
            simp only [List.cons_append, declaration, hs]
            simpa using hhyphen
      · exact absurd h (by simp)
    · exact absurd h (by simp)
  · split at h
    · rename_i cs content rest' hsplit
      obtain ⟨used, rfl, htaken⟩ := splitVerbatim_taken hsplit
      split at h
      · rename_i hbegin
        obtain ⟨rfl, rfl⟩ := Front.piece.inj h
        refine ⟨'[' :: used, rfl, fun s => ?_⟩
        simp only [List.cons_append, declaration, htaken s, hbegin, if_true]
      · exact absurd h (by simp)
    · exact absurd h (by simp)
  · rename_i c cs _ _
    split at h
    · rename_i hletter
      split at h
      · rename_i content rest' hsplit
        obtain ⟨used, hused, htaken⟩ := splitDoctype_taken hsplit
        split at h
        · rename_i hbegin
          obtain ⟨rfl, rfl⟩ := Front.piece.inj h
          cases used with
          | nil => exact absurd (htaken []) (by simp [splitDoctype])
          | cons d used =>
              obtain ⟨rfl, rfl⟩ := List.cons.inj hused
              refine ⟨c :: used, rfl, fun s => ?_⟩
              have hs := htaken s
              rw [List.cons_append] at hs ⊢
              rw [declaration_letter hletter, hs]
              simp only [hbegin, if_true]
        · exact absurd h (by simp)
      · exact absurd h (by simp)
    · exact absurd h (by simp)
  · exact absurd h (by simp)

/-- A tag is the same whatever follows its bracket. -/
theorem tag_taken {cs rest : List Char} {p : Piece} (hend : rest ≠ [] ∨ '>' ∈ cs)
    (h : tag cs = .piece p rest) :
    ∃ used, cs = used ++ rest ∧ ∀ s, tag (used ++ s) = .piece p s := by
  -- the character that tells the kind of the tag is not the bracket
  have hmark : ∀ {c : Char} {cs : List Char}, c ≠ '>' → rest ≠ [] ∨ '>' ∈ c :: cs →
      rest ≠ [] ∨ '>' ∈ cs := fun hc hend =>
    hend.imp_right fun hmem => (List.mem_cons.mp hmem).resolve_left (Ne.symm hc)
  unfold tag at h
  split at h
  · exact absurd h (by simp)
  · obtain ⟨used, rfl, htaken⟩ := endTag_taken (hmark (by decide) hend) h
    exact ⟨'/' :: used, rfl, fun s => htaken s⟩
  · obtain ⟨used, rfl, htaken⟩ := instruction_taken (hmark (by decide) hend) h
    exact ⟨'?' :: used, rfl, fun s => htaken s⟩
  · obtain ⟨used, rfl, htaken⟩ := declaration_taken h
    exact ⟨'!' :: used, rfl, fun s => htaken s⟩
  · obtain ⟨used, rfl, htaken⟩ := startTag_taken h
    cases used with
    | nil => exact absurd (htaken []) (by simp [startTag, splitTag])
    | cons c used =>
        refine ⟨c :: used, rfl, fun s => ?_⟩
        have hs := htaken s
        rw [List.cons_append] at hs ⊢
        unfold tag
        split <;> simp_all

/-! ## One piece -/

/-- After blanks comes nothing, a bracket, or the first character of a text. -/
theorem front_cases (cs : List Char) : ∃ ws t, cs = ws ++ t ∧ (∀ c ∈ ws, isMarkupBlank c = true) ∧
    (t = [] ∨ (∃ t', t = '<' :: t') ∨
      ∃ c t', t = c :: t' ∧ isMarkupBlank c = false ∧ c ≠ '<') := by
  obtain ⟨ws, hcs, hws⟩ := trimLeft_split isMarkupBlank cs
  have hhead := List.head?_dropWhile_not isMarkupBlank cs
  refine ⟨ws, trimLeft isMarkupBlank cs, hcs, hws, ?_⟩
  rw [← trimLeft] at hhead
  cases ht : trimLeft isMarkupBlank cs with
  | nil => exact .inl rfl
  | cons c t =>
      by_cases hc : c = '<'
      · exact .inr (.inl ⟨t, by rw [hc]⟩)
      · exact .inr (.inr ⟨c, t, rfl, by simpa [ht] using hhead, hc⟩)

/-- A text runs up to the next bracket or to the end. -/
theorem next_of_text {c : Char} (hblank : isMarkupBlank c = false) (hc : c ≠ '<') (cs : List Char) :
    Piece.next (c :: cs) =
      .piece (.text (trimRight isMarkupBlank ((c :: cs).takeWhile (· != '<'))))
        ((c :: cs).dropWhile (· != '<')) := by
  rw [Piece.next, trimLeft_cons_of_not_blank hblank]
  split
  · rename_i h; exact absurd h (by simp)
  · rename_i h; exact absurd (List.cons.inj h).1 hc
  · rfl

/-- A piece that does not run to the end of the input, or that is a tag at the end of an input that
ends in a bracket, is the same whatever follows the input. -/
theorem next_append {cs rest : List Char} {p : Piece} (h : Piece.next cs = .piece p rest)
    (hend : rest ≠ [] ∨ cs.getLast? = some '>' ∧ ∀ raw, p ≠ .text raw) :
    rest <:+ cs ∧ ∀ s, Piece.next (cs ++ s) = .piece p (rest ++ s) := by
  obtain ⟨ws, t, rfl, hws, hcases⟩ := front_cases cs
  simp only [List.append_assoc, next_blanks hws] at h ⊢
  rcases hcases with rfl | ⟨t, rfl⟩ | ⟨c, t, rfl, hblank, hc⟩
  · exact absurd h (by simp [Piece.next, trimLeft])
  · rw [next_bracket] at h
    have hmark : rest ≠ [] ∨ '>' ∈ t := by
      refine hend.imp_right fun htag => ?_
      have hlast := htag.1
      have hmem : '>' ∈ '<' :: t := by
        rw [List.getLast?_append_of_ne_nil _ (by simp)] at hlast
        exact List.mem_of_getLast? hlast
      simpa using hmem
    obtain ⟨used, rfl, htaken⟩ := tag_taken hmark h
    refine ⟨⟨ws ++ '<' :: used, by simp⟩, fun s => ?_⟩
    rw [List.cons_append, next_bracket, List.append_assoc, htaken]
  · rw [next_of_text hblank hc] at h
    obtain ⟨rfl, hrest⟩ := Front.piece.inj h
    have hne : rest ≠ [] := hend.resolve_right fun htag => htag.2 _ rfl
    have hmark : '<' ∈ c :: t := by
      by_contra hmark
      refine hne (hrest ▸ List.dropWhile_eq_nil_iff.mpr fun d hd => ?_)
      simpa using fun he : d = '<' => hmark (he ▸ hd)
    obtain ⟨a, b, hab, ha⟩ := List.eq_append_cons_of_mem hmark
    have hpos : ∀ d ∈ a, (d != '<') = true := fun d hd => by
      simpa using fun he : d = '<' => ha (he ▸ hd)
    -- the text is the same up to the bracket, and the bracket is still the first one
    have hsplit : ∀ s, (a ++ '<' :: b ++ s).takeWhile (· != '<') = a ∧
        (a ++ '<' :: b ++ s).dropWhile (· != '<') = '<' :: b ++ s := by
      intro s
      rw [List.append_assoc, List.takeWhile_append_of_pos hpos, List.dropWhile_append_of_pos hpos]
      simp
    obtain ⟨htake, hdrop⟩ := hsplit []
    rw [List.append_nil, List.append_nil] at hdrop
    rw [List.append_nil] at htake
    rw [hab, hdrop] at hrest
    subst hrest
    refine ⟨⟨ws ++ a, by rw [hab]; simp⟩, fun s => ?_⟩
    rw [List.cons_append, next_of_text hblank hc, ← List.cons_append, hab, htake, (hsplit s).1,
      (hsplit s).2]

/-! ## The whole document -/

/-- Only a tag finishes the root. -/
theorem not_text_of_finished {stack : List OpenElement} {p : Piece} {root : Element}
    (h : grow stack p = .finished root) (raw : List Char) : p ≠ .text raw := by
  rintro rfl
  cases stack with
  | nil => exact absurd h (by simp [grow])
  | cons o os =>
      rw [grow] at h
      split at h <;> exact absurd h (by simp)

theorem growTree_nil (stack : List OpenElement) : ∃ fault, growTree stack [] = .error fault := by
  rw [growTree_eq]
  exact ⟨_, rfl⟩

/-- **What follows a document that ends in a bracket does not matter.** -/
theorem growTree_append {stack : List OpenElement} {cs : List Char} {root : Element}
    (h : growTree stack cs = .ok root) (hlast : cs.getLast? = some '>') (s : List Char) :
    growTree stack (cs ++ s) = .ok root := by
  rw [growTree_eq] at h
  cases hnext : Piece.next cs with
  | finished => rw [hnext] at h; exact absurd h (by simp)
  | broken => rw [hnext] at h; exact absurd h (by simp)
  | piece p rest =>
      rw [hnext] at h
      dsimp only at h
      have hshorter := Piece.next_length hnext
      cases hgrow : grow stack p with
      | broken => rw [hgrow] at h; exact absurd h (by simp [Growth.before])
      | finished root' =>
          rw [hgrow] at h
          obtain ⟨-, htaken⟩ := next_append hnext (.inr ⟨hlast, not_text_of_finished hgrow⟩)
          rw [growTree_of_next (htaken s), hgrow]
          exact h
      | grown stack' =>
          rw [hgrow] at h
          have hrest : rest ≠ [] := by
            rintro rfl
            obtain ⟨fault, hfault⟩ := growTree_nil stack'
            exact absurd (hfault.symm.trans h) (by simp)
          obtain ⟨⟨used, rfl⟩, htaken⟩ := next_append hnext (.inl hrest)
          rw [growTree_of_next (htaken s), hgrow]
          rw [List.getLast?_append_of_ne_nil _ hrest] at hlast
          exact growTree_append h hlast s
  termination_by cs.length

end Provisioning.Markup
