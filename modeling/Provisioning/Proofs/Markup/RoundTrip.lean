import Provisioning.Markup.Tree
import Provisioning.Proofs.Markup.Tags

/-!
# A written tree is read back

The writer goes down the tree and indents; the reader takes one piece after the other and keeps the
open elements on a stack. The two meet in `growTree_print`: reading the lines of an element does to
the stack what one complete element does to it, whatever the stack and whatever follows.

What is lost is what trimming takes: the blanks at the ends of every element's text, and with them
the indentation of the children. `Element.trimmed` is the tree without them.
-/

namespace Provisioning.Markup

open Text

/-- A text without the blanks at its ends. -/
def trimText (s : String) : String := String.ofList (trim isMarkupBlank s.toList)

namespace Element

mutual

/-- The tree with every text trimmed. -/
def trimmed : Element → Element
  | ⟨name, attrs, children, text⟩ => ⟨name, attrs, trimmedAll children, trimText text⟩

/-- The trees of a row with every text trimmed. -/
def trimmedAll : List Element → List Element
  | [] => []
  | e :: es => e.trimmed :: trimmedAll es

end

theorem trimmedAll_eq (es : List Element) : trimmedAll es = es.map trimmed := by
  induction es with
  | nil => rfl
  | cons e es ih => rw [trimmedAll, ih, List.map_cons]

/-- Every name in the tree is a name, and no element has two attributes of one name. -/
inductive WellNamed : Element → Prop where
  | intro {e : Element} :
      isName e.name = true → (∀ a ∈ e.attrs, isName a.1 = true) →
      (e.attrs.map Prod.fst).Nodup → (∀ c ∈ e.children, WellNamed c) → WellNamed e

end Element

/-! ## Reading what one piece leaves -/

/-- What is read after the stack has grown. -/
def Growth.before (g : Growth) (rest : List Char) : Reading Element :=
  match g with
  | .grown stack => growTree stack rest
  | .finished root => .ok root
  | .broken => .error .markup

/-- The innermost element with more children. -/
def OpenElement.addChildren (o : OpenElement) (es : List Element) : OpenElement :=
  { o with childrenRev := es.reverse ++ o.childrenRev }

/-- One piece, and then the rest. -/
theorem growTree_eq (stack : List OpenElement) (cs : List Char) :
    growTree stack cs =
      match Piece.next cs with
      | .finished => .error (if stack.isEmpty then .emptyDocument else .unexpectedEnd)
      | .broken => .error .markup
      | .piece p rest => (grow stack p).before rest := by
  rw [growTree]
  split
  · rename_i h; rw [h]
  · rename_i h; rw [h]
  · rename_i p rest h
    simp only [h]
    cases grow stack p <;> rfl

theorem growTree_of_next {cs rest : List Char} {p : Piece} (h : Piece.next cs = .piece p rest)
    (stack : List OpenElement) : growTree stack cs = (grow stack p).before rest := by
  rw [growTree_eq, h]

/-- Only the pieces count, not how they are written. -/
theorem growTree_congr {cs ds : List Char} (h : Piece.next cs = Piece.next ds)
    (stack : List OpenElement) : growTree stack cs = growTree stack ds := by
  rw [growTree_eq, growTree_eq, h]

theorem next_bracket (cs : List Char) : Piece.next ('<' :: cs) = tag cs := by
  rw [Piece.next, trimLeft_cons_of_not_blank (by rfl)]
  rfl

theorem next_blanks {ws : List Char} (h : ∀ c ∈ ws, isMarkupBlank c = true) (cs : List Char) :
    Piece.next (ws ++ cs) = Piece.next cs := by
  rw [Piece.next, trimLeft_blanks_append h, ← Piece.next]

/-- An instruction, such as the declaration of a document, is one piece and means nothing. -/
theorem next_instruction {body : List Char} (hbody : ∀ c ∈ body, (c != '>') = true)
    (hne : body ≠ []) (rest : List Char) :
    Piece.next ('<' :: '?' :: (body ++ '?' :: '>' :: rest)) = .piece .aside rest := by
  have htake : (body ++ '?' :: '>' :: rest).takeWhile (· != '>') = body ++ ['?'] := by
    rw [List.takeWhile_append_of_pos hbody]
    simp
  have hdrop : (body ++ '?' :: '>' :: rest).dropWhile (· != '>') = '>' :: rest := by
    rw [List.dropWhile_append_of_pos hbody]
    simp
  rw [next_bracket, tag, instruction, splitAtMark, htake, hdrop]
  simp [hne]

/-! ## Text before a tag -/

/-- Text that holds no bracket and is not blank is one piece, without the blanks at its ends. -/
theorem next_text {w : List Char} (hw : ∀ c ∈ w, c ≠ '<')
    (hne : trim isMarkupBlank w ≠ []) (cs : List Char) :
    Piece.next (w ++ '<' :: cs) = .piece (.text (trim isMarkupBlank w)) ('<' :: cs) := by
  induction w with
  | nil => exact absurd rfl hne
  | cons c w ih =>
      cases hc : isMarkupBlank c with
      | true =>
          have htrim : trim isMarkupBlank (c :: w) = trim isMarkupBlank w := by
            rw [trim, trimLeft_cons_of_blank hc, ← trim]
          rw [htrim] at hne ⊢
          rw [← ih (fun d hd => hw d (List.mem_cons_of_mem c hd)) hne]
          have hblank : ∀ d ∈ [c], isMarkupBlank d = true := by simpa using hc
          exact next_blanks hblank (w ++ '<' :: cs)
      | false =>
          have hall : ∀ d ∈ c :: w, (d != '<') = true := fun d hd => by simpa using hw d hd
          rw [Piece.next, List.cons_append, trimLeft_cons_of_not_blank hc]
          split
          · rename_i h; exact absurd h (by simp)
          · rename_i h
            injection h with h1 _
            exact absurd h1 (hw c (by simp))
          · rw [← List.cons_append, List.takeWhile_append_of_pos hall,
              List.dropWhile_append_of_pos hall, trim, trimLeft_cons_of_not_blank hc]
            simp

theorem OpenElement.addText_nil (o : OpenElement) : o.addText [] = o := by
  simp [OpenElement.addText]

/-- **Text is read without the blanks at its ends**, those of the indentation after it included. -/
theorem growTree_text {ws : List Char} (hws : ∀ c ∈ ws, isMarkupBlank c = true)
    (text : List Char) (o : OpenElement) (os : List OpenElement) (cs : List Char) :
    growTree (o :: os) (escape text ++ (ws ++ '<' :: cs)) =
      growTree (o.addText (trim isMarkupBlank text) :: os) (ws ++ '<' :: cs) := by
  have htrim : trim isMarkupBlank (escape text ++ ws) = escape (trim isMarkupBlank text) := by
    rw [trim_append_blanks hws, trim_escape]
  have hw : ∀ c ∈ escape text ++ ws, c ≠ '<' := by
    intro c hc
    rcases List.mem_append.mp hc with hc | hc
    · exact (mem_escape hc).1
    · intro he
      subst he
      exact absurd (hws '<' hc) (by decide)
  rw [growTree_congr (next_blanks hws ('<' :: cs)), ← List.append_assoc]
  by_cases hnil : trim isMarkupBlank text = []
  · -- nothing but blanks: no piece at all
    rw [hnil, show escape [] = [] from rfl] at htrim
    rw [hnil, OpenElement.addText_nil]
    exact growTree_congr (next_blanks (trim_eq_nil htrim) ('<' :: cs)) _
  · have hne : trim isMarkupBlank (escape text ++ ws) ≠ [] := by
      rw [htrim]
      exact fun he => hnil (escape_eq_nil he)
    rw [growTree_of_next (next_text hw hne cs), htrim]
    simp only [grow, unescape_escape, Growth.before]

/-! ## The tags of an element -/

theorem growTree_opening {name : String} {as : List (String × String)} (hn : isName name = true)
    (has : ∀ a ∈ as, isName a.1 = true) (hnodup : (as.map Prod.fst).Nodup)
    (stack : List OpenElement) (rest : List Char) :
    growTree stack ('<' :: (name.toList ++ (Element.printAttrs as ++ '>' :: rest))) =
      growTree (.start name.toList (as.map fun a => (a.1.toList, a.2.toList)) :: stack) rest := by
  rw [growTree_of_next ((next_bracket _).trans (tag_opening hn has hnodup rest))]
  rfl

theorem growTree_closing {name : String} (hn : isName name = true) {o : OpenElement}
    (ho : o.name = name.toList) (os : List OpenElement) (rest : List Char) :
    growTree (o :: os) ('<' :: '/' :: (name.toList ++ '>' :: rest)) =
      (complete o.close os).before rest := by
  rw [growTree_of_next ((next_bracket _).trans (tag_closing hn rest))]
  simp only [grow, ho, if_true]

theorem blank_indent (depth : Nat) : ∀ c ∈ Element.indent depth, isMarkupBlank c = true := by
  intro c hc
  rw [(List.mem_replicate.mp hc).2]
  rfl

/-- What follows the text of an element begins with a bracket, after blanks. -/
theorem printChildren_front (depth : Nat) (es : List Element) (rest : List Char) :
    ∃ ws cs, (∀ c ∈ ws, isMarkupBlank c = true) ∧
      Element.printChildren depth es ++ '<' :: rest = ws ++ '<' :: cs := by
  cases es with
  | nil => exact ⟨[], rest, by simp, rfl⟩
  | cons e es =>
      obtain ⟨name, attrs, children, text⟩ := e
      refine ⟨'\n' :: Element.indent (depth + 1), name.toList ++ (Element.printAttrs attrs ++
        '>' :: (escape text.toList ++ (Element.printChildren (depth + 1) children ++
          '<' :: '/' :: (name.toList ++ '>' :: (Element.printSiblings depth es ++ '<' :: rest))))),
        ?_, by simp [Element.printChildren, Element.print]⟩
      intro c hc
      rcases List.mem_cons.mp hc with rfl | hc
      · rfl
      · exact blank_indent _ c hc

/-! ## The whole tree -/

/-- The first child begins a line as the others do. -/
theorem growTree_printChildren {depth : Nat} {es : List Element} {o o' : OpenElement}
    {os : List OpenElement} {rest : List Char} (hnil : es = [] → o' = o)
    (h : growTree (o :: os) (Element.printSiblings depth es ++ '<' :: rest) =
      growTree (o' :: os) ('<' :: rest)) :
    growTree (o :: os) (Element.printChildren depth es ++ '<' :: rest) =
      growTree (o' :: os) ('<' :: rest) := by
  cases es with
  | nil => rw [hnil rfl]; rfl
  | cons e es => exact h

/-- The element that is being read, once its text and its children have been read. -/
theorem close_start (name : String) (attrs : List (String × String)) (children : List Element)
    (text : String) :
    (((OpenElement.start name.toList (attrs.map fun a => (a.1.toList, a.2.toList))).addText
        (trim isMarkupBlank text.toList)).addChildren (children.map Element.trimmed)).close =
      (Element.mk name attrs children text).trimmed := by
  simp [OpenElement.start, OpenElement.addText, OpenElement.addChildren, OpenElement.close,
    Element.trimmed, Element.trimmedAll_eq, trimText, Function.comp_def]

mutual

/-- **Reading the lines of an element is completing the element**, without the blanks at the ends
of its texts. -/
theorem growTree_print (depth : Nat) : (e : Element) → e.WellNamed → (stack : List OpenElement) →
    (rest : List Char) →
    growTree stack (e.print depth ++ rest) = (complete e.trimmed stack).before rest
  | ⟨name, attrs, children, text⟩, h, stack, rest => by
    obtain ⟨hn, has, hnodup, hc⟩ := h
    let o := (OpenElement.start name.toList (attrs.map fun a => (a.1.toList, a.2.toList))).addText
      (trim isMarkupBlank text.toList)
    obtain ⟨ws, cs, hws, hfront⟩ :=
      printChildren_front depth children ('/' :: (name.toList ++ '>' :: rest))
    calc growTree stack (Element.print depth ⟨name, attrs, children, text⟩ ++ rest)
        = growTree stack (Element.indent depth ++ '<' :: (name.toList ++
            (Element.printAttrs attrs ++ '>' :: (escape text.toList ++
              (Element.printChildren depth children ++
                '<' :: '/' :: (name.toList ++ '>' :: rest)))))) := by
          simp [Element.print]
      _ = growTree (.start name.toList (attrs.map fun a => (a.1.toList, a.2.toList)) :: stack)
            (escape text.toList ++ (Element.printChildren depth children ++
              '<' :: '/' :: (name.toList ++ '>' :: rest))) := by
          rw [growTree_congr (next_blanks (blank_indent depth) _),
            growTree_opening hn has hnodup]
      _ = growTree (o :: stack) (Element.printChildren depth children ++
            '<' :: '/' :: (name.toList ++ '>' :: rest)) := by
          rw [hfront, growTree_text hws]
      _ = growTree (o.addChildren (children.map Element.trimmed) :: stack)
            ('<' :: '/' :: (name.toList ++ '>' :: rest)) :=
          growTree_printChildren (fun hnil => by simp [hnil, OpenElement.addChildren])
            (growTree_printSiblings depth children hc o stack _)
      _ = (complete (Element.trimmed ⟨name, attrs, children, text⟩) stack).before rest := by
          rw [growTree_closing hn rfl, close_start]

theorem growTree_printSiblings (depth : Nat) : (es : List Element) →
    (∀ e ∈ es, e.WellNamed) → (o : OpenElement) → (os : List OpenElement) → (rest : List Char) →
    growTree (o :: os) (Element.printSiblings depth es ++ '<' :: rest) =
      growTree (o.addChildren (es.map Element.trimmed) :: os) ('<' :: rest)
  | [], _, o, os, rest => by
    have hblank : ∀ c ∈ '\n' :: Element.indent depth, isMarkupBlank c = true :=
      fun c hc => (List.mem_cons.mp hc).elim (fun he => he ▸ rfl) (blank_indent depth c)
    have hline := growTree_congr (next_blanks hblank ('<' :: rest)) (o :: os)
    simpa [Element.printSiblings, OpenElement.addChildren] using hline
  | e :: es, h, o, os, rest => by
    have hes : ∀ d ∈ es, d.WellNamed := fun d hd => h d (List.mem_cons_of_mem e hd)
    have hblank : ∀ c ∈ ['\n'], isMarkupBlank c = true := by simp [isMarkupBlank]
    calc growTree (o :: os) (Element.printSiblings depth (e :: es) ++ '<' :: rest)
        = growTree (o :: os) (['\n'] ++ (e.print (depth + 1) ++
            (Element.printSiblings depth es ++ '<' :: rest))) := by
          simp [Element.printSiblings]
      _ = growTree (o.addChild e.trimmed :: os)
            (Element.printSiblings depth es ++ '<' :: rest) := by
          rw [growTree_congr (next_blanks hblank _),
            growTree_print (depth + 1) e (h e (by simp)), complete, Growth.before]
      _ = growTree (o.addChildren ((e :: es).map Element.trimmed) :: os) ('<' :: rest) := by
          rw [growTree_printSiblings depth es hes]
          simp [OpenElement.addChild, OpenElement.addChildren]

end

theorem growTree_toText {e : Element} (h : e.WellNamed) :
    growTree [] e.toText.toList = .ok e.trimmed := by
  have hdoc := growTree_print 0 e h [] []
  rw [List.append_nil] at hdoc
  rw [Element.toText_eq, String.toList_ofList, hdoc]
  rfl

/-- The tree of the document that is written, without the blanks at the ends of its texts. -/
theorem ofText_toText {e : Element} (h : e.WellNamed) :
    Element.ofText e.toText = .ok e.trimmed := by
  have hbom : dropByteOrderMark e.toText.toList = e.toText.toList := by
    obtain ⟨name, attrs, children, text⟩ := e
    simp [Element.toText_eq, Element.print, Element.indent, dropByteOrderMark]
  rw [Element.ofText, hbom, growTree_toText h]

/-! ## What is kept, without the reader's own trimming

`trimmed` is written with the trimming that the reader does. The relation below says the same
without it: the text loses blanks at its ends, all of them, and nothing else.
-/

/-- The second tree is the first one without the blanks at the ends of its texts. Names, attributes
and the order of both attributes and children are the same. -/
inductive Element.LosesBlanks : Element → Element → Prop where
  | intro {name text text' : String} {attrs : List (String × String)}
      {children children' : List Element} :
      IsTrimOf isMarkupBlank text'.toList text.toList →
      List.Forall₂ LosesBlanks children children' →
      LosesBlanks ⟨name, attrs, children, text⟩ ⟨name, attrs, children', text'⟩

mutual

theorem losesBlanks_trimmed : (e : Element) → e.LosesBlanks e.trimmed
  | ⟨name, attrs, children, text⟩ => by
    refine .intro ?_ (losesBlanks_trimmedAll children)
    rw [trimText, String.toList_ofList]
    exact isTrimOf_trim isMarkupBlank text.toList

theorem losesBlanks_trimmedAll : (es : List Element) →
    List.Forall₂ Element.LosesBlanks es (Element.trimmedAll es)
  | [] => .nil
  | e :: es => .cons (losesBlanks_trimmed e) (losesBlanks_trimmedAll es)

end

/--
**A tree that is written is read back**, whatever its texts and values hold and however deep it is,
but for the blanks at the ends of its texts.
-/
theorem written_tree_is_read_back {e : Element} (h : e.WellNamed) :
    ∃ t, Element.ofText e.toText = .ok t ∧ e.LosesBlanks t :=
  ⟨e.trimmed, ofText_toText h, losesBlanks_trimmed e⟩

/-- Markup in texts and values, blanks, a byte order mark and text before children. -/
theorem written_tree_is_read_back_mixed :
    let e : Element := ⟨"a:b", [("x", "</a:b> & '\"'"), ("xmlns:x", "\t\n ")],
      [⟨"c", [], [], " ]]> &amp; "⟩, ⟨"c", [("x", "")], [], "\x00\uFEFF"⟩], "\r\n <d/> \u00A0"⟩
    e.WellNamed ∧ ∃ t, Element.ofText e.toText = .ok t ∧ e.LosesBlanks t := by
  intro e
  have h : e.WellNamed := by
    refine .intro (by decide) (by decide) (by decide) fun c hc => ?_
    simp only [e, List.mem_cons, List.not_mem_nil, or_false] at hc
    rcases hc with rfl | rfl
    · exact .intro (by decide) (by decide) (by decide) (by simp)
    · exact .intro (by decide) (by decide) (by decide) (by simp)
  exact ⟨h, written_tree_is_read_back h⟩

end Provisioning.Markup
