import Provisioning.Proofs.Markup.Following
import Provisioning.Proofs.Wire.RoundTrip

/-!
# Documents that were cut off

A written document can be cut anywhere: inside a name, a value, an entity, the indentation or a closing
tag. Wherever it is cut, the root is still open at the end of what is left, and the reader says so, or
finds that the last tag or entity is broken. There is one exception. The bracket of a closing tag may
be missing at the end of the input, so that of a document without its last character nothing is lost.

The proof goes down the tree as the writer does. `CutOff` says what becomes of an element that is cut,
for an element inside another as well as for the root: for an inner one the exception makes no
difference, because its parent is then still open (`growTree_cut_print`).
-/

namespace Provisioning.Markup

open Text

/-- The reader finds a fault. -/
def Refuses (stack : List OpenElement) (cs : List Char) : Prop :=
  ∃ fault, growTree stack cs = .error fault

/-- What becomes of the beginning of something whose end has been cut off: if only the last bracket is
missing then it is read as if it were there, and else it is refused. -/
def CutOff (stack : List OpenElement) (p s : List Char) (g : Growth) : Prop :=
  if s = ['>'] then growTree stack p = g.before [] else Refuses stack p

theorem Refuses.congr {stack stack' : List OpenElement} {cs cs' : List Char}
    (h : Refuses stack' cs') (heq : growTree stack cs = growTree stack' cs') : Refuses stack cs := by
  rwa [Refuses, heq]

theorem CutOff.congr {stack stack' : List OpenElement} {p p' s : List Char} {g : Growth}
    (h : CutOff stack' p' s g) (heq : growTree stack p = growTree stack' p') :
    CutOff stack p s g := by
  rwa [CutOff, Refuses, heq]

theorem CutOff.of_refuses {stack : List OpenElement} {p s : List Char} {g : Growth}
    (hs : s ≠ ['>']) (h : Refuses stack p) : CutOff stack p s g := by
  rwa [CutOff, if_neg hs]

/-- Two parts are cut in the first one, or in the second one. -/
theorem cut_append {p s a b : List Char} (h : p ++ s = a ++ b) :
    (∃ s', s' ≠ [] ∧ s = s' ++ b ∧ p ++ s' = a) ∨ ∃ p', p = a ++ p' ∧ p' ++ s = b := by
  rcases List.append_eq_append_iff.mp h with ⟨s', ha, hs⟩ | ⟨p', hp, hb⟩
  · by_cases hs' : s' = []
    · subst hs'
      exact .inr ⟨[], by simpa using ha.symm, by simpa using hs⟩
    · exact .inl ⟨s', hs', hs, ha.symm⟩
  · exact .inr ⟨p', hp, hb.symm⟩

/-- What is cut in its first part lacks more than the last character. -/
theorem CutOff.of_first {stack : List OpenElement} {p s b : List Char} {g : Growth} (hs : s ≠ [])
    (hb : b ≠ []) (h : Refuses stack p) : CutOff stack p (s ++ b) g := by
  refine CutOff.of_refuses (fun hlast => ?_) h
  have hlength := congrArg List.length hlast
  have := List.length_pos_iff.mpr hs
  have := List.length_pos_iff.mpr hb
  simp at hlength
  omega

/-- Of a last character nothing is left when it is cut. -/
theorem cut_last {c : Char} {p s : List Char} (hs : s ≠ []) (h : p ++ s = [c]) : p = [] ∧ s = [c] :=
  (List.append_eq_singleton_iff.mp h).resolve_right fun hall => hs hall.2

/-! ## Text that is cut -/

/-- Nothing but text leaves the root open. -/
theorem refuses_of_notMem {p : List Char} (h : '<' ∉ p) (stack : List OpenElement) :
    Refuses stack p := by
  obtain ⟨ws, t, rfl, hws, rfl | ⟨t, rfl⟩ | ⟨c, t, rfl, hblank, hc⟩⟩ := front_cases p
  · exact Refuses.congr (growTree_nil stack) (growTree_congr (next_blanks hws []) stack)
  · exact absurd h (by simp)
  · have hnext := (next_blanks hws (c :: t)).trans (next_of_text hblank hc t)
    have hrest : (c :: t).dropWhile (· != '<') = [] := by
      refine List.dropWhile_eq_nil_iff.mpr fun d hd => ?_
      simpa using fun he : d = '<' => h (he ▸ List.mem_append_right ws hd)
    rw [hrest] at hnext
    rw [Refuses, growTree_of_next hnext]
    cases stack with
    | nil => exact growTree_nil []
    | cons o os =>
        rw [grow]
        split
        · exact growTree_nil _
        · exact ⟨_, rfl⟩

theorem refuses_of_blanks {p s ws : List Char} (hws : ∀ c ∈ ws, isMarkupBlank c = true)
    (h : p ++ s = ws) (stack : List OpenElement) : Refuses stack p := by
  refine refuses_of_notMem (fun hmem => ?_) stack
  exact absurd (hws '<' (h ▸ List.mem_append_left s hmem)) (by decide)

theorem bracket_notMem {text ws : List Char} (hws : ∀ c ∈ ws, isMarkupBlank c = true) :
    '<' ∉ escape text ++ ws := by
  intro hmem
  rcases List.mem_append.mp hmem with hmem | hmem
  · exact (mem_escape hmem).1 rfl
  · exact absurd (hws '<' hmem) (by decide)

/-! ## Tags that are cut -/

/-- A bracket is nothing without the character that tells the kind of its tag. -/
theorem refuses_bracket {c : Char} {p s : List Char} (hs : s ≠ []) (h : p ++ s = ['<', c])
    (stack : List OpenElement) : Refuses stack p := by
  cases p with
  | nil => exact growTree_nil stack
  | cons d q =>
      rw [List.cons_append, List.cons.injEq] at h
      obtain ⟨rfl, hq⟩ := h
      obtain ⟨rfl, -⟩ := cut_last hs hq
      rw [Refuses, growTree_eq, next_bracket]
      exact ⟨_, rfl⟩

/-- Without its bracket an opening tag is no tag. -/
theorem refuses_opening {name : String} {as : List (String × String)} (hn : isName name = true)
    (has : ∀ a ∈ as, isName a.1 = true) {p s : List Char} (hs : s ≠ [])
    (h : p ++ s = '<' :: (name.toList ++ (Element.printAttrs as ++ ['>'])))
    (stack : List OpenElement) : Refuses stack p := by
  obtain ⟨c, ds, hname, -⟩ := isName_front hn
  have hparts : p ++ s = ['<', c] ++ (ds ++ (Element.printAttrs as ++ ['>'])) := by rw [h, hname]; rfl
  rcases cut_append hparts with ⟨s', hs', -, hbracket⟩ | ⟨q, rfl, hq⟩
  · exact refuses_bracket hs' hbracket stack
  have hbroken : startTag (c :: q) = .broken := by
    cases hsplit : splitTag [] none (c :: q) with
    | none => rw [startTag, hsplit]
    | some found =>
        -- the end of the tag would be found before the bracket that was written
        obtain ⟨content, rest⟩ := found
        obtain ⟨used, hused, htaken⟩ := splitTag_taken hsplit
        have hwritten : c :: q ++ s = name.toList ++ (Element.printAttrs as ++ ['>']) := by
          rw [List.cons_append, hq, hname, List.cons_append]
        have hwhole := htaken (rest ++ s)
        rw [← List.append_assoc, ← hused, hwritten, splitTag_opening hn has] at hwhole
        have hnil : rest ++ s = [] := (Prod.mk.inj (Option.some.inj hwhole)).2.symm
        exact absurd (List.append_eq_nil_iff.mp hnil).2 hs
  have hfront : name.toList.head? = some c := by rw [hname, List.head?_cons]
  have htag : Piece.next (['<', c] ++ q) = .broken := by
    rw [List.cons_append, List.singleton_append, next_bracket, tag_of_front hn hfront, hbroken]
  rw [Refuses, growTree_eq, htag]
  exact ⟨_, rfl⟩

/-- A closing tag at the end of the input needs no bracket. -/
theorem next_unclosed {q : List Char} (h : ∀ c ∈ q, isNameChar c = true) :
    Piece.next (['<', '/'] ++ q) = .piece (.closing q) [] := by
  have hpos : ∀ c ∈ q, (c != '>') = true := fun c hc => by
    simpa using isNameChar_ne (h c hc) (by simp)
  have hsplit : splitAtMark '>' q = (q, []) := by
    have htake : q.takeWhile (· != '>') = q := List.takeWhile_eq_self_iff.mpr hpos
    have hdrop : q.dropWhile (· != '>') = [] := List.dropWhile_eq_nil_iff.mpr hpos
    simp [splitAtMark, htake, hdrop]
  have hnext : Piece.next (['<', '/'] ++ q) = endTag q := next_bracket ('/' :: q)
  rw [hnext, endTag, hsplit]
  simp only [trimRight_of_nameChars h, ite_self]

/-- A closing tag that is cut inside its name does not close the element; one that lacks its bracket
does. -/
theorem growTree_cut_closing {name : String} (hn : isName name = true) {o : OpenElement}
    (ho : o.name = name.toList) (os : List OpenElement) {p s : List Char} (hs : s ≠ [])
    (h : p ++ s = '<' :: '/' :: (name.toList ++ ['>'])) :
    CutOff (o :: os) p s (complete o.close os) := by
  have hparts : p ++ s = ['<', '/'] ++ (name.toList ++ ['>']) := h
  rcases cut_append hparts with ⟨s', hs', rfl, hbracket⟩ | ⟨q, rfl, hq⟩
  · exact .of_first hs' (by simp) (refuses_bracket hs' hbracket _)
  rcases cut_append hq with ⟨s', hs', rfl, hname⟩ | ⟨q', rfl, hend⟩
  · have hchars : ∀ c ∈ q, isNameChar c = true := fun c hc =>
      isName_chars hn c (hname ▸ List.mem_append_left s' hc)
    have hother : q ≠ o.name := by
      rw [ho, ← hname]
      simpa using hs'
    refine .of_first hs' (by simp) ?_
    rw [Refuses, growTree_of_next (next_unclosed hchars), grow, if_neg hother]
    exact ⟨_, rfl⟩
  · obtain ⟨rfl, rfl⟩ := cut_last hs hend
    rw [CutOff, if_pos rfl, List.append_nil, growTree_of_next (next_unclosed (isName_chars hn)), grow,
      if_pos ho.symm]

/-- Without its bracket an instruction is no piece, or one with nothing behind it. -/
theorem refuses_instruction {body : List Char} (hbody : '>' ∉ body) {p s : List Char} (hs : s ≠ [])
    (h : p ++ s = '<' :: '?' :: (body ++ ['>'])) (stack : List OpenElement) : Refuses stack p := by
  have hparts : p ++ s = ['<', '?'] ++ (body ++ ['>']) := h
  rcases cut_append hparts with ⟨s', hs', -, hbracket⟩ | ⟨q, rfl, hq⟩
  · exact refuses_bracket hs' hbracket stack
  have hmark : '>' ∉ q := by
    rcases cut_append hq with ⟨s', -, -, hq⟩ | ⟨q', rfl, hend⟩
    · exact fun hmem => hbody (hq ▸ List.mem_append_left s' hmem)
    · obtain ⟨rfl, -⟩ := cut_last hs hend
      rwa [List.append_nil]
  have hrest : (splitAtMark '>' q).2 = [] := by
    by_contra hne
    exact hmark (mem_of_splitAtMark hne)
  have hpiece : instruction q = .piece .aside [] ∨ instruction q = .broken := by
    simp only [instruction, hrest]
    split <;> simp
  have hnext : Piece.next (['<', '?'] ++ q) = instruction q := next_bracket ('?' :: q)
  rw [Refuses, growTree_eq, hnext]
  rcases hpiece with hpiece | hpiece <;> rw [hpiece]
  · exact growTree_nil stack
  · exact ⟨_, rfl⟩

/-! ## Elements that are cut -/

theorem addChildren_addChild (o : OpenElement) (e : Element) (es : List Element) :
    (o.addChild e).addChildren es = o.addChildren (e :: es) := by
  simp [OpenElement.addChild, OpenElement.addChildren]

/-- What is left of an element that is cut, inside another element that is still open. -/
theorem CutOff.refuses {o : OpenElement} {os : List OpenElement} {p s : List Char} {e : Element}
    (h : CutOff (o :: os) p s (complete e (o :: os))) : Refuses (o :: os) p := by
  rw [CutOff] at h
  split at h
  · exact Refuses.congr (growTree_nil (o.addChild e :: os)) h
  · exact h

/-- The first child begins a line as the others do. -/
theorem growTree_cut_children {depth : Nat} {es : List Element} {o : OpenElement}
    {os : List OpenElement} {name : String} (hn : isName name = true) (ho : o.name = name.toList)
    (hsiblings : ∀ p s : List Char, s ≠ [] →
      p ++ s = Element.printSiblings depth es ++ '<' :: '/' :: (name.toList ++ ['>']) →
      CutOff (o :: os) p s (complete (o.addChildren (es.map Element.trimmed)).close os))
    {p s : List Char} (hs : s ≠ [])
    (hp : p ++ s = Element.printChildren depth es ++ '<' :: '/' :: (name.toList ++ ['>'])) :
    CutOff (o :: os) p s (complete (o.addChildren (es.map Element.trimmed)).close os) := by
  cases es with
  | nil => exact growTree_cut_closing hn ho os hs hp
  | cons e es => exact hsiblings p s hs hp

mutual

/-- **An element that is cut is refused**, unless only its last bracket is missing. -/
theorem growTree_cut_print (depth : Nat) : (e : Element) → e.WellNamed →
    (stack : List OpenElement) → (p s : List Char) → s ≠ [] → p ++ s = e.print depth →
    CutOff stack p s (complete e.trimmed stack)
  | ⟨name, attrs, children, text⟩, h, stack, p, s, hs, hp => by
    obtain ⟨hn, has, hnodup, hc⟩ := h
    let o := OpenElement.start name.toList (attrs.map fun a => (a.1.toList, a.2.toList))
    have hprint : p ++ s = Element.indent depth ++
        (('<' :: (name.toList ++ (Element.printAttrs attrs ++ ['>']))) ++
          (escape text.toList ++ (Element.printChildren depth children ++
            '<' :: '/' :: (name.toList ++ ['>'])))) := by
      rw [hp]
      simp [Element.print]
    rcases cut_append hprint with ⟨s', hs', rfl, hindent⟩ | ⟨p₁, rfl, hp₁⟩
    · exact .of_first hs' (by simp) (refuses_of_blanks (blank_indent depth) hindent stack)
    refine CutOff.congr ?_ (growTree_congr (next_blanks (blank_indent depth) p₁) stack)
    rcases cut_append hp₁ with ⟨s', hs', rfl, hopening⟩ | ⟨p₂, rfl, hp₂⟩
    · exact .of_first hs' (by simp) (refuses_opening hn has hs' hopening stack)
    have hopen : growTree stack ('<' :: (name.toList ++ (Element.printAttrs attrs ++ ['>'])) ++ p₂) =
        growTree (o :: stack) p₂ := by
      simpa using growTree_opening hn has hnodup stack p₂
    refine CutOff.congr ?_ hopen
    -- after the text there are blanks and then a bracket
    obtain ⟨ws, cs, hws, hfront⟩ :=
      printChildren_front depth children ('/' :: (name.toList ++ ['>']))
    have hplain : '<' ∉ escape text.toList ++ ws := bracket_notMem hws
    have hsplit : p₂ ++ s = (escape text.toList ++ ws) ++ '<' :: cs := by
      rw [hp₂, hfront, List.append_assoc]
    rcases cut_append hsplit with ⟨s', hs', rfl, htext⟩ | ⟨p₃, rfl, hp₃⟩
    · refine .of_first hs' (by simp) (refuses_of_notMem (fun hmem => hplain ?_) _)
      exact htext ▸ List.mem_append_left s' hmem
    · cases p₃ with
      | nil =>
          rw [List.nil_append] at hp₃
          refine .of_refuses (by simp [hp₃]) (refuses_of_notMem ?_ _)
          rwa [List.append_nil]
      | cons c q =>
          rw [List.cons_append, List.cons.injEq] at hp₃
          obtain ⟨rfl, rfl⟩ := hp₃
          rw [List.append_assoc, List.append_assoc, List.append_cancel_left_eq,
            ← List.append_assoc] at hp₂
          rw [List.append_assoc]
          refine CutOff.congr ?_ (growTree_text hws text.toList o stack q)
          let o' := o.addText (trim isMarkupBlank text.toList)
          have hchildren := growTree_cut_children hn rfl (fun p s hs hp =>
            growTree_cut_siblings depth children hc o' stack name hn rfl p s hs hp) hs hp₂
          rwa [close_start] at hchildren

theorem growTree_cut_siblings (depth : Nat) : (es : List Element) → (∀ e ∈ es, e.WellNamed) →
    (o : OpenElement) → (os : List OpenElement) → (name : String) → isName name = true →
    o.name = name.toList → (p s : List Char) → s ≠ [] →
    p ++ s = Element.printSiblings depth es ++ '<' :: '/' :: (name.toList ++ ['>']) →
    CutOff (o :: os) p s (complete (o.addChildren (es.map Element.trimmed)).close os)
  | [], _, o, os, name, hn, ho, p, s, hs, hp => by
    have hblank : ∀ c ∈ '\n' :: Element.indent depth, isMarkupBlank c = true :=
      fun c hc => (List.mem_cons.mp hc).elim (fun he => he ▸ rfl) (blank_indent depth c)
    have hlines : p ++ s = ('\n' :: Element.indent depth) ++
        '<' :: '/' :: (name.toList ++ ['>']) := hp
    rcases cut_append hlines with ⟨s', hs', rfl, hindent⟩ | ⟨p₁, rfl, hp₁⟩
    · exact .of_first hs' (by simp) (refuses_of_blanks hblank hindent _)
    · exact (growTree_cut_closing hn ho os hs hp₁).congr
        (growTree_congr (next_blanks hblank p₁) (o :: os))
  | e :: es, h, o, os, name, hn, ho, p, s, hs, hp => by
    have hblank : ∀ c ∈ ['\n'], isMarkupBlank c = true := by simp [isMarkupBlank]
    have hes : ∀ d ∈ es, d.WellNamed := fun d hd => h d (List.mem_cons_of_mem e hd)
    have hlines : p ++ s = ['\n'] ++ (e.print (depth + 1) ++
        (Element.printSiblings depth es ++ '<' :: '/' :: (name.toList ++ ['>']))) := by
      rw [hp]
      simp [Element.printSiblings]
    rcases cut_append hlines with ⟨s', hs', rfl, hline⟩ | ⟨p₁, rfl, hp₁⟩
    · exact .of_first hs' (by simp) (refuses_of_blanks hblank hline _)
    refine CutOff.congr ?_ (growTree_congr (next_blanks hblank p₁) (o :: os))
    rcases cut_append hp₁ with ⟨s', hs', rfl, hchild⟩ | ⟨p₂, rfl, hp₂⟩
    · have hcut := growTree_cut_print (depth + 1) e (h e (by simp)) (o :: os) p₁ s' hs' hchild
      exact .of_first hs' (by simp) hcut.refuses
    · have hrest := growTree_cut_siblings depth es hes (o.addChild e.trimmed) os name hn ho p₂ s hs hp₂
      rw [addChildren_addChild] at hrest
      exact hrest.congr (growTree_print (depth + 1) e (h e (by simp)) (o :: os) p₂)

end

end Provisioning.Markup

namespace Provisioning.Wire

open Markup

/-- A document that is cut inside its declaration has no root. -/
theorem refuses_declaration {p s : List Char} (hs : s ≠ []) (h : p ++ s = declaration.toList) :
    Refuses [] p := by
  let body : List Char := "xml version=\"1.0\" encoding=\"UTF-8\" standalone=\"no\"".toList
  have hbody : '>' ∉ body ++ ['?'] := by decide
  have hparts : p ++ s = ('<' :: '?' :: (body ++ ['?'] ++ ['>'])) ++ ['\n'] := h
  rcases cut_append hparts with ⟨s', hs', -, hinstruction⟩ | ⟨p', rfl, hend⟩
  · exact refuses_instruction hbody hs' hinstruction []
  · obtain ⟨rfl, -⟩ := cut_last hs hend
    have hwhole : ∀ c ∈ body, (c != '>') = true := List.all_eq_true.mp (by decide)
    have hnext : Piece.next ('<' :: '?' :: (body ++ ['?'] ++ ['>']) ++ []) = .piece .aside [] :=
      next_instruction hwhole (by decide) []
    exact Refuses.congr (growTree_nil []) (growTree_of_next hnext [])

/-- A document that is cut, with the declaration before it or without. -/
theorem cutOff_document {e : Element} (h : e.WellNamed) {front : String}
    (hfront : front ∈ ["", declaration]) {p s : List Char} (hs : s ≠ [])
    (hp : p ++ s = front.toList ++ e.toText.toList) :
    CutOff [] p s (complete e.trimmed []) := by
  rw [Element.toText_eq, String.toList_ofList] at hp
  obtain rfl | rfl : front = "" ∨ front = declaration := by simpa using hfront
  · exact growTree_cut_print 0 e h [] p s hs hp
  · have hne : e.print 0 ≠ [] := by
      obtain ⟨name, attrs, children, text⟩ := e
      simp [Element.print]
    rcases cut_append hp with ⟨s', hs', rfl, hdeclaration⟩ | ⟨p', rfl, hdocument⟩
    · exact .of_first hs' hne (refuses_declaration hs' hdeclaration)
    · exact (growTree_cut_print 0 e h [] p' s hs hdocument).congr (growTree_declaration p')

/-- No document that is written begins with a byte order mark. -/
theorem dropByteOrderMark_cut {e : Element} {front : String} (hfront : front ∈ ["", declaration])
    {p s : List Char} (hp : p ++ s = front.toList ++ e.toText.toList) : dropByteOrderMark p = p := by
  cases p with
  | nil => rfl
  | cons c q =>
      have hc : c = '<' := by
        obtain ⟨name, attrs, children, text⟩ := e
        obtain rfl | rfl : front = "" ∨ front = declaration := by simpa using hfront
        · simpa [Element.toText_eq, Element.print, Element.indent] using congrArg List.head? hp
        · simpa [declaration] using congrArg List.head? hp
      rw [hc]
      rfl

/-- Whether there is a byte order mark is decided by the first character. -/
theorem dropByteOrderMark_append {cs : List Char} (h : cs ≠ []) (s : List Char) :
    dropByteOrderMark (cs ++ s) = dropByteOrderMark cs ++ s := by
  cases cs with
  | nil => exact absurd rfl h
  | cons c cs =>
      rw [List.cons_append, dropByteOrderMark, dropByteOrderMark]
      split <;> rfl

/-- What follows a document that ends in a bracket does not matter. -/
theorem ofText_append {d : String} {root : Element} (hlast : d.toList.getLast? = some '>')
    (h : Element.ofText d = .ok root) (s : String) : Element.ofText (d ++ s) = .ok root := by
  obtain ⟨front, hfront⟩ := List.getLast?_eq_some_iff.mp hlast
  have hdropped : (dropByteOrderMark d.toList).getLast? = some '>' := by
    rw [hfront]
    cases front with
    | nil => rfl
    | cons c cs =>
        rw [List.cons_append, dropByteOrderMark]
        split
        · exact List.getLast?_concat
        · rw [← List.cons_append]
          exact List.getLast?_concat
  rw [Element.ofText, String.toList_append, dropByteOrderMark_append (by simp [hfront])]
  exact growTree_append h hdropped s.toList

theorem ofText_cut {e : Element} (h : e.WellNamed) {front : String}
    (hfront : front ∈ ["", declaration]) {p s : String} (hp : p ++ s = front ++ e.toText)
    (hs : s ≠ "") :
    if s = ">" then Element.ofText p = .ok e.trimmed else ∃ fault, Element.ofText p = .error fault := by
  have hchars : p.toList ++ s.toList = front.toList ++ e.toText.toList := by
    rw [← String.toList_append, hp, String.toList_append]
  have hcut := cutOff_document h hfront (by simpa using hs) hchars
  rw [Element.ofText, dropByteOrderMark_cut hfront hchars]
  have hlast : s.toList = ['>'] ↔ s = ">" := by
    rw [← String.toList_inj]
    rfl
  simp only [CutOff, hlast] at hcut
  exact hcut

/--
**A document ends where its root ends.** What follows a document that ends in a bracket changes
nothing. And of a tree that is written, with the declaration before it or without, no part is read as
another tree: wherever the document is cut it is refused, but for its last bracket, without which it is
the same.
-/
theorem documents_end_at_their_root :
    (∀ (d s : String) (root : Element), d.toList.getLast? = some '>' → Element.ofText d = .ok root →
      Element.ofText (d ++ s) = .ok root) ∧
    ∀ e : Element, e.WellNamed → ∀ front ∈ ["", declaration],
      ∃ root, Element.ofText (front ++ e.toText) = .ok root ∧
        ∀ p s : String, p ++ s = front ++ e.toText → s ≠ "" →
          if s = ">" then Element.ofText p = .ok root
          else ∃ fault, Element.ofText p = .error fault := by
  refine ⟨fun d s root hlast h => ofText_append hlast h s, fun e h front hfront => ?_⟩
  refine ⟨e.trimmed, ?_, fun p s hp hs => ofText_cut h hfront hp hs⟩
  obtain rfl | rfl : front = "" ∨ front = declaration := by simpa using hfront
  · rw [String.empty_append]
    exact ofText_toText h
  · exact ofText_declared h

/-- Another root behind the first one, and cuts in the declaration, inside an entity and before the last
bracket. -/
theorem documents_end_at_their_root_cut :
    let e : Element := ⟨"a", [("x", "1 < 2")], [⟨"b", [], [], "&"⟩], ""⟩
    let text := declaration ++ "<a x=\"1 &lt; 2\">\n  <b>&amp;</b>\n</a>"
    e.WellNamed ∧ text = declaration ++ e.toText ∧ ∃ root, Element.ofText text = .ok root ∧
      Element.ofText (text ++ "<a/>") = .ok root ∧
      (∃ fault, Element.ofText "<?xml version=\"1.0\"" = .error fault) ∧
      (∃ fault, Element.ofText (declaration ++ "<a x=\"1 &lt; 2\">\n  <b>&am") = .error fault) ∧
      Element.ofText (declaration ++ "<a x=\"1 &lt; 2\">\n  <b>&amp;</b>\n</a") = .ok root := by
  intro e text
  have htext : text = declaration ++ e.toText := by decide
  have hnamed : e.WellNamed := by
    refine .intro (by decide) (by decide) (by decide) fun c hc => ?_
    simp only [e, List.mem_singleton] at hc
    subst hc
    exact .intro (by decide) (by decide) (by decide) (by simp)
  obtain ⟨root, hroot, hcut⟩ := documents_end_at_their_root.2 e hnamed declaration (by simp)
  rw [← htext] at hroot hcut
  refine ⟨hnamed, htext, root, hroot,
    documents_end_at_their_root.1 text "<a/>" root (by decide) hroot, ?_, ?_, ?_⟩
  · exact hcut "<?xml version=\"1.0\""
      (" encoding=\"UTF-8\" standalone=\"no\"?>\n" ++ "<a x=\"1 &lt; 2\">\n  <b>&amp;</b>\n</a>")
      (by decide) (by decide)
  · exact hcut (declaration ++ "<a x=\"1 &lt; 2\">\n  <b>&am") "p;</b>\n</a>" (by decide) (by decide)
  · exact hcut (declaration ++ "<a x=\"1 &lt; 2\">\n  <b>&amp;</b>\n</a") ">" (by decide) (by decide)

end Provisioning.Wire
