import Provisioning.Markup.Printer
import Provisioning.Markup.Piece
import Provisioning.Proofs.Markup.Escape

/-!
# Written tags are read back

The reader asks little of names, so it is on the writer's side that they have to be names: a name
that holds a blank, a bracket or an equals sign would be read as something else. With such names a
tag ends where it was meant to end, because the quotes around a value are the only ones in it, and
its attributes are found one after the other.
-/

namespace Provisioning.Markup

open Text

/-- A character that a name may hold. -/
def isNameChar (c : Char) : Bool :=
  !isMarkupBlank c && !(['<', '>', '/', '=', '&', '\'', '"'].contains c)

/-- A name of an element or an attribute. What begins with `!` or `?` is no tag that opens. -/
def isName (s : String) : Bool :=
  match s.toList with
  | [] => false
  | c :: cs => c != '!' && c != '?' && (c :: cs).all isNameChar

theorem isName_chars {s : String} (h : isName s = true) : ∀ c ∈ s.toList, isNameChar c = true := by
  unfold isName at h
  split at h
  · exact absurd h (by simp)
  · rename_i c cs hs
    rw [Bool.and_eq_true] at h
    rw [hs]
    exact List.all_eq_true.mp h.2

theorem isName_front {s : String} (h : isName s = true) :
    ∃ c cs, s.toList = c :: cs ∧ c ≠ '!' ∧ c ≠ '?' ∧ isNameChar c = true := by
  have hall := isName_chars h
  unfold isName at h
  split at h
  · exact absurd h (by simp)
  · rename_i c cs hs
    simp only [Bool.and_eq_true, bne_iff_ne, ne_eq] at h
    exact ⟨c, cs, hs, h.1.1, h.1.2, hall c (by simp [hs])⟩

theorem isNameChar_not_blank {c : Char} (h : isNameChar c = true) : isMarkupBlank c = false := by
  simp only [isNameChar, Bool.and_eq_true, Bool.not_eq_true'] at h
  exact h.1

theorem isNameChar_ne {c d : Char} (h : isNameChar c = true)
    (hd : d ∈ ['<', '>', '/', '=', '&', '\'', '"']) : c ≠ d := by
  intro he
  subst he
  simp only [isNameChar, Bool.and_eq_true, Bool.not_eq_true', List.contains_eq_mem,
    decide_eq_false_iff_not] at h
  exact h.2 hd

/-! ## Where a tag ends -/

/-- What holds neither quotes nor the closing bracket is passed. -/
theorem splitTag_plain {cs : List Char} (h : ∀ c ∈ cs, c ≠ '>' ∧ c ≠ '\'' ∧ c ≠ '"')
    (done rest : List Char) :
    splitTag done none (cs ++ rest) = splitTag (cs.reverse ++ done) none rest := by
  induction cs generalizing done with
  | nil => rfl
  | cons c cs ih =>
      have hc := h c (by simp)
      rw [List.cons_append, splitTag]
      simp only [Bool.or_eq_true, beq_iff_eq, hc.1, hc.2.1, hc.2.2, or_self, if_false]
      rw [ih fun d hd => h d (List.mem_cons_of_mem c hd)]
      simp

/-- Between quotes all is passed up to the quote that ends them. -/
theorem splitTag_quoted {q : Char} {cs : List Char} (h : ∀ c ∈ cs, c ≠ q)
    (done rest : List Char) :
    splitTag done (some q) (cs ++ q :: rest) = splitTag (q :: (cs.reverse ++ done)) none rest := by
  induction cs generalizing done with
  | nil => simp [splitTag]
  | cons c cs ih =>
      have hc := h c (by simp)
      rw [List.cons_append, splitTag]
      simp only [beq_iff_eq, hc, if_false]
      rw [ih fun d hd => h d (List.mem_cons_of_mem c hd)]
      simp

/-- One attribute as it is written. -/
theorem printAttrs_cons (a : String × String) (as : List (String × String)) (rest : List Char) :
    Element.printAttrs (a :: as) ++ rest =
      ' ' :: (a.1.toList ++ '=' :: '"' :: (escape a.2.toList ++ '"' ::
        (Element.printAttrs as ++ rest))) := by
  simp [Element.printAttrs]

theorem splitTag_printAttrs {as : List (String × String)} (h : ∀ a ∈ as, isName a.1 = true)
    (done rest : List Char) :
    splitTag done none (Element.printAttrs as ++ rest) =
      splitTag ((Element.printAttrs as).reverse ++ done) none rest := by
  induction as generalizing done with
  | nil => rfl
  | cons a as ih =>
      have hkey : ∀ c ∈ ' ' :: (a.1.toList ++ ['=']), c ≠ '>' ∧ c ≠ '\'' ∧ c ≠ '"' := by
        intro c hc
        simp only [List.mem_cons, List.mem_append, List.not_mem_nil, or_false] at hc
        rcases hc with rfl | hc | rfl
        · decide
        · have hn := isName_chars (h a (by simp)) c hc
          exact ⟨isNameChar_ne hn (by simp), isNameChar_ne hn (by simp), isNameChar_ne hn (by simp)⟩
        · decide
      have hval : ∀ c ∈ escape a.2.toList, c ≠ '"' := fun c hc => (mem_escape hc).2.2.2
      rw [printAttrs_cons]
      calc splitTag done none (' ' :: (a.1.toList ++ '=' :: '"' :: (escape a.2.toList ++ '"' ::
              (Element.printAttrs as ++ rest))))
          = splitTag done none ((' ' :: (a.1.toList ++ ['='])) ++ '"' :: (escape a.2.toList ++ '"' ::
              (Element.printAttrs as ++ rest))) := by simp
        _ = splitTag ('"' :: ((' ' :: (a.1.toList ++ ['='])).reverse ++ done)) (some '"')
              (escape a.2.toList ++ '"' :: (Element.printAttrs as ++ rest)) := by
            rw [splitTag_plain hkey, splitTag]; simp
        _ = splitTag ((Element.printAttrs (a :: as)).reverse ++ done) none rest := by
            rw [splitTag_quoted hval, ih fun b hb => h b (List.mem_cons_of_mem a hb)]
            congr 1
            simp [Element.printAttrs]

/-! ## What attributes are found -/

theorem attributes_blank {cs : List Char} (h : trimLeft isMarkupBlank cs = [])
    (keys : List (List Char)) (done : List (List Char × List Char)) :
    attributes keys done cs = some done.reverse := by
  rw [attributes]
  split
  · rfl
  · rename_i hk
    exact absurd (h.symm.trans hk) (by simp)

/-- One attribute is read when its key is new. -/
theorem attributes_step {keys : List (List Char)} {done : List (List Char × List Char)}
    {cs cs' : List Char} {k : Char} (cs'' rest value : List Char)
    (hk : trimLeft isMarkupBlank cs = k :: cs')
    (heq : trimLeft isMarkupBlank (cs'.dropWhile fun c => !(c == '=' || isMarkupBlank c)) =
      '=' :: '"' :: cs'')
    (hnew : (k :: cs'.takeWhile fun c => !(c == '=' || isMarkupBlank c)) ∉ keys)
    (hend : cs''.dropWhile (· != '"') = '"' :: rest)
    (hval : unescape (cs''.takeWhile (· != '"')) = some value) :
    attributes keys done cs =
      attributes ((k :: cs'.takeWhile fun c => !(c == '=' || isMarkupBlank c)) :: keys)
        (((k :: cs'.takeWhile fun c => !(c == '=' || isMarkupBlank c)), value) :: done) rest := by
  rw [attributes]
  split
  · simp_all
  · rename_i k' t ht
    rw [hk] at ht
    injection ht with h1 h2
    subst h1; subst h2
    split
    · rename_i t2 ht2
      rw [heq] at ht2
      injection ht2 with _ h2
      subst h2
      rw [if_neg (by simpa using hnew)]
      split
      · rename_i q t3 ht3
        rw [trimLeft_cons_of_not_blank (by rfl)] at ht3
        injection ht3 with h1 h2
        subst h1; subst h2
        simp only [beq_self_eq_true, Bool.true_or, if_true]
        split
        · rename_i x t4 ht4
          rw [hend] at ht4
          injection ht4 with _ h2
          subst h2
          simp [hval]
        · rename_i ht4
          exact absurd (hend.symm.trans ht4) (by simp)
      · rename_i ht3
        rw [trimLeft_cons_of_not_blank (by rfl)] at ht3
        exact absurd ht3 (by simp)
    · rename_i hne
      exact absurd heq (hne _)

/-- A name does not hold what ends a key. -/
theorem isName_key {s : String} (h : isName s = true) :
    ∀ c ∈ s.toList, (!(c == '=' || isMarkupBlank c)) = true := by
  intro c hc
  have hn := isName_chars h c hc
  have hne : c ≠ '=' := isNameChar_ne hn (by simp)
  simp [isNameChar_not_blank hn, hne]

/-- **The attributes that are written are the attributes that are read**, each with its value. -/
theorem attributes_printAttrs {as : List (String × String)} (hname : ∀ a ∈ as, isName a.1 = true)
    (hnodup : (as.map Prod.fst).Nodup) (keys : List (List Char))
    (hnew : ∀ a ∈ as, a.1.toList ∉ keys) (done : List (List Char × List Char)) :
    attributes keys done (Element.printAttrs as) =
      some (done.reverse ++ as.map fun a => (a.1.toList, a.2.toList)) := by
  induction as generalizing keys done with
  | nil =>
      have hnone : trimLeft isMarkupBlank (Element.printAttrs []) = [] := rfl
      simpa using attributes_blank hnone keys done
  | cons a as ih =>
      obtain ⟨k, ks, hs, -, -, hkc⟩ := isName_front (hname a (by simp))
      have hkey := isName_key (hname a (by simp))
      rw [hs] at hkey
      have hks : ∀ c ∈ ks, (!(c == '=' || isMarkupBlank c)) = true :=
        fun c hc => hkey c (List.mem_cons_of_mem k hc)
      have hval : ∀ c ∈ escape a.2.toList, (c != '"') = true :=
        fun c hc => by simpa using (mem_escape hc).2.2.2
      have hfront : trimLeft isMarkupBlank (Element.printAttrs (a :: as)) =
          k :: (ks ++ '=' :: '"' :: (escape a.2.toList ++ '"' :: Element.printAttrs as)) := by
        have := printAttrs_cons a as []
        rw [List.append_nil, List.append_nil, hs] at this
        rw [this, trimLeft_cons_of_blank (by rfl), List.cons_append,
          trimLeft_cons_of_not_blank (isNameChar_not_blank hkc)]
      have htake : ∀ t, (ks ++ '=' :: t).takeWhile (fun c => !(c == '=' || isMarkupBlank c)) = ks :=
        fun t => by rw [List.takeWhile_append_of_pos hks]; simp
      have hdrop : ∀ t, (ks ++ '=' :: t).dropWhile (fun c => !(c == '=' || isMarkupBlank c)) =
          '=' :: t := fun t => by rw [List.dropWhile_append_of_pos hks]; simp
      have hnew' : a.1.toList ∉ keys := hnew a (by simp)
      rw [attributes_step (escape a.2.toList ++ '"' :: Element.printAttrs as)
        (Element.printAttrs as) a.2.toList hfront]
      · rw [htake, ← hs]
        rw [List.map_cons, List.nodup_cons] at hnodup
        rw [ih (fun b hb => hname b (List.mem_cons_of_mem a hb)) hnodup.2]
        · simp
        · intro b hb hmem
          rcases List.mem_cons.mp hmem with he | hmem
          · exact hnodup.1 (String.toList_inj.mp he ▸ List.mem_map_of_mem hb)
          · exact hnew b (List.mem_cons_of_mem a hb) hmem
      · rw [hdrop, trimLeft_cons_of_not_blank (by rfl)]
      · rwa [htake, ← hs]
      · rw [List.dropWhile_append_of_pos hval]; simp
      · rw [List.takeWhile_append_of_pos hval]
        simpa using unescape_escape a.2.toList

/-! ## The two tags of an element -/

/-- The slash that makes an element empty is in no tag that is written. -/
theorem getLast?_printAttrs_ne (name : String) (hn : isName name = true)
    (as : List (String × String)) :
    (name.toList ++ Element.printAttrs as).getLast? ≠ some '/' := by
  rcases List.eq_nil_or_concat as with rfl | ⟨as, a, rfl⟩
  · intro h
    rw [show Element.printAttrs [] = [] from rfl, List.append_nil] at h
    exact isNameChar_ne (isName_chars hn '/' (List.mem_of_getLast? h)) (by simp) rfl
  · have hend : name.toList ++ Element.printAttrs (as.concat a) =
        name.toList ++ Element.printAttrs as ++
          ' ' :: (a.1.toList ++ '=' :: '"' :: escape a.2.toList) ++ ['"'] := by
      simp [Element.printAttrs]
    rw [hend, List.getLast?_concat]
    decide

/-- The bracket that ends an opening tag is the first one outside quotes. -/
theorem splitTag_opening {name : String} {as : List (String × String)} (hn : isName name = true)
    (has : ∀ a ∈ as, isName a.1 = true) (rest : List Char) :
    splitTag [] none (name.toList ++ (Element.printAttrs as ++ '>' :: rest)) =
      some (name.toList ++ Element.printAttrs as, rest) := by
  have hplain : ∀ d ∈ name.toList, d ≠ '>' ∧ d ≠ '\'' ∧ d ≠ '"' := fun d hd =>
    have hd := isName_chars hn d hd
    ⟨isNameChar_ne hd (by simp), isNameChar_ne hd (by simp), isNameChar_ne hd (by simp)⟩
  rw [splitTag_plain hplain, splitTag_printAttrs has, splitTag]
  simp

/-- No name begins with what tells the other kinds of tags. -/
theorem tag_of_front {name : String} (hn : isName name = true) {c : Char} {ds : List Char}
    (hc : name.toList.head? = some c) : tag (c :: ds) = startTag (c :: ds) := by
  obtain ⟨d, cs, hs, hbang, hquery, hd⟩ := isName_front hn
  rw [hs, List.head?_cons, Option.some.injEq] at hc
  subst hc
  have hslash : d ≠ '/' := isNameChar_ne hd (by simp)
  unfold tag
  split <;> simp_all

/-- **A tag that opens an element is read as it was meant.** -/
theorem tag_opening {name : String} {as : List (String × String)} (hn : isName name = true)
    (has : ∀ a ∈ as, isName a.1 = true) (hnodup : (as.map Prod.fst).Nodup) (rest : List Char) :
    tag (name.toList ++ (Element.printAttrs as ++ '>' :: rest)) =
      .piece (.opening name.toList (as.map fun a => (a.1.toList, a.2.toList))) rest := by
  obtain ⟨c, cs, hs, -⟩ := isName_front hn
  have hblank : ∀ d ∈ name.toList, (!isMarkupBlank d) = true := fun d hd => by
    simp [isNameChar_not_blank (isName_chars hn d hd)]
  have htag : tag (name.toList ++ (Element.printAttrs as ++ '>' :: rest)) =
      startTag (name.toList ++ (Element.printAttrs as ++ '>' :: rest)) := by
    have hfront : name.toList.head? = some c := by rw [hs, List.head?_cons]
    rw [hs, List.cons_append]
    exact tag_of_front hn hfront
  have hattrs : (name.toList ++ Element.printAttrs as).dropWhile (fun d => !isMarkupBlank d) =
      Element.printAttrs as := by
    rw [List.dropWhile_append_of_pos hblank]
    cases as with
    | nil => rfl
    | cons a as =>
        have := printAttrs_cons a as []
        rw [List.append_nil] at this
        rw [this, List.dropWhile_cons_of_neg (by decide)]
  have hname : (name.toList ++ Element.printAttrs as).takeWhile (fun d => !isMarkupBlank d) =
      name.toList := by
    rw [List.takeWhile_append_of_pos hblank]
    cases as with
    | nil => simp [Element.printAttrs]
    | cons a as =>
        have := printAttrs_cons a as []
        rw [List.append_nil] at this
        rw [this, List.takeWhile_cons_of_neg (by decide), List.append_nil]
  have hopen : ((name.toList ++ Element.printAttrs as).getLast? == some '/') = false := by
    simpa using getLast?_printAttrs_ne name hn as
  rw [htag, startTag, splitTag_opening hn has]
  simp only [hopen, Bool.false_eq_true, if_false, hattrs, hname,
    attributes_printAttrs has hnodup [] (by simp), List.reverse_nil, List.nil_append]

/-- A row of characters of names has no blank at its end. -/
theorem trimRight_of_nameChars {cs : List Char} (h : ∀ c ∈ cs, isNameChar c = true) :
    trimRight isMarkupBlank cs = cs := by
  rcases List.eq_nil_or_concat cs with rfl | ⟨ds, d, rfl⟩
  · rfl
  · rw [List.concat_eq_append] at h ⊢
    exact trimRight_append_of_not_blank (isNameChar_not_blank (h d (by simp))) ds

/-- **A tag that closes an element is read as it was meant.** -/
theorem tag_closing {name : String} (hn : isName name = true) (rest : List Char) :
    tag ('/' :: (name.toList ++ '>' :: rest)) = .piece (.closing name.toList) rest := by
  obtain ⟨c, cs, hs, -, -, hc⟩ := isName_front hn
  have hplain : ∀ d ∈ name.toList, (d != '>') = true := fun d hd => by
    simpa using isNameChar_ne (isName_chars hn d hd) (by simp)
  have htrim := trimRight_of_nameChars (isName_chars hn)
  have hsplit : splitAtMark '>' (name.toList ++ '>' :: rest) = (name.toList, rest) := by
    simp only [splitAtMark]
    rw [List.takeWhile_append_of_pos hplain, List.dropWhile_append_of_pos hplain]
    simp
  rw [tag, endTag, hsplit]
  simp only [htrim]
  split <;> rfl

end Provisioning.Markup
