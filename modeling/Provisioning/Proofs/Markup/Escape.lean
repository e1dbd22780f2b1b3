import Mathlib.Data.List.DropRight
import Provisioning.Markup.Entity
import Provisioning.Text.Blank

/-!
# Written text is read back

Writing a text turns five of its characters into entities, and reading resolves them again. Between
the two the reader trims: it looks at the ends of the *written* text, before any entity is resolved.
No entity begins or ends with a blank and no blank is written as an entity, so trimming and writing
commute (`trim_escape`). That is why only blanks that stand in the text itself are lost on the way.
-/

namespace Provisioning.Text

/-! ## Trimming -/

section Trimming

variable {blank : Char → Bool}

theorem trimLeft_cons_of_blank {c : Char} (h : blank c = true) (cs : List Char) :
    trimLeft blank (c :: cs) = trimLeft blank cs := by
  simp [trimLeft, h]

theorem trimLeft_cons_of_not_blank {c : Char} (h : blank c = false) (cs : List Char) :
    trimLeft blank (c :: cs) = c :: cs := by
  simp [trimLeft, h]

theorem trimLeft_blanks_append {ws : List Char} (h : ∀ c ∈ ws, blank c = true)
    (cs : List Char) : trimLeft blank (ws ++ cs) = trimLeft blank cs := by
  induction ws with
  | nil => rfl
  | cons w ws ih =>
      rw [List.cons_append, trimLeft_cons_of_blank (h w (by simp))]
      exact ih fun c hc => h c (List.mem_cons_of_mem w hc)

theorem trimRight_append_blank {c : Char} (h : blank c = true) (cs : List Char) :
    trimRight blank (cs ++ [c]) = trimRight blank cs :=
  List.rdropWhile_concat_pos blank cs c h

theorem trimRight_append_of_not_blank {c : Char} (h : blank c = false) (cs : List Char) :
    trimRight blank (cs ++ [c]) = cs ++ [c] :=
  List.rdropWhile_concat_neg blank cs c (by simp [h])

theorem trimRight_append_blanks {ws : List Char} (h : ∀ c ∈ ws, blank c = true)
    (cs : List Char) : trimRight blank (cs ++ ws) = trimRight blank cs := by
  have hr : ∀ c ∈ ws.reverse, blank c = true := fun c hc => h c (List.mem_reverse.mp hc)
  have := trimLeft_blanks_append hr cs.reverse
  simp only [trimLeft] at this
  simp only [trimRight, List.reverse_append, this]

/-- A text whose first character stays is trimmed at its end only. -/
theorem trimRight_cons_of_not_blank {c : Char} (h : blank c = false) (cs : List Char) :
    trimRight blank (c :: cs) = c :: trimRight blank cs := by
  simp only [trimRight, List.reverse_cons]
  rw [List.dropWhile_append]
  split
  · rename_i hnil
    rw [List.isEmpty_iff] at hnil
    simp [hnil, h]
  · simp

/-- Where no blank stands at either end there is nothing to trim. -/
theorem trim_of_ends {cs : List Char} (hfront : ∀ c ∈ cs.head?, blank c = false)
    (hback : ∀ c ∈ cs.getLast?, blank c = false) : trim blank cs = cs := by
  have hleft : trimLeft blank cs = cs := by
    cases cs with
    | nil => rfl
    | cons c cs => exact trimLeft_cons_of_not_blank (hfront c rfl) cs
  rw [trim, hleft]
  rcases List.eq_nil_or_concat cs with rfl | ⟨ds, d, rfl⟩
  · rfl
  · rw [List.concat_eq_append] at hback ⊢
    exact trimRight_append_of_not_blank (hback d (by simp)) ds

theorem trim_append_blanks {ws : List Char} (h : ∀ c ∈ ws, blank c = true) (cs : List Char) :
    trim blank (cs ++ ws) = trim blank cs := by
  induction cs with
  | nil =>
      have := trimLeft_blanks_append h []
      rw [List.append_nil] at this
      simp [trim, this]
  | cons c cs ih =>
      cases hc : blank c with
      | true => simpa [trim, trimLeft_cons_of_blank hc] using ih
      | false =>
          simp only [trim, List.cons_append, trimLeft_cons_of_not_blank hc]
          rw [← List.cons_append, trimRight_append_blanks h]

/-- A text of which nothing is left was blank. -/
theorem trim_eq_nil {cs : List Char} (h : trim blank cs = []) : ∀ c ∈ cs, blank c = true := by
  induction cs with
  | nil => simp
  | cons c cs ih =>
      cases hc : blank c with
      | true =>
          rw [trim, trimLeft_cons_of_blank hc, ← trim] at h
          intro d hd
          rcases List.mem_cons.mp hd with rfl | hd
          · exact hc
          · exact ih h d hd
      | false =>
          rw [trim, trimLeft_cons_of_not_blank hc, trimRight_cons_of_not_blank hc] at h
          exact absurd h (by simp)

/-- The first text is the second one without the blanks at its ends. -/
def IsTrimOf (blank : Char → Bool) (t s : List Char) : Prop :=
  ∃ front back, s = front ++ t ++ back ∧
    (∀ c ∈ front, blank c = true) ∧ (∀ c ∈ back, blank c = true) ∧
    (∀ c ∈ t.head?, blank c = false) ∧ ∀ c ∈ t.getLast?, blank c = false

theorem trimLeft_split (blank : Char → Bool) (cs : List Char) :
    ∃ front, cs = front ++ trimLeft blank cs ∧ ∀ c ∈ front, blank c = true :=
  ⟨cs.takeWhile blank, List.takeWhile_append_dropWhile.symm, fun _ hc => List.mem_takeWhile_imp hc⟩

theorem trimRight_split (blank : Char → Bool) (cs : List Char) :
    ∃ back, cs = trimRight blank cs ++ back ∧ ∀ c ∈ back, blank c = true := by
  induction cs using List.reverseRecOn with
  | nil => exact ⟨[], rfl, by simp⟩
  | append_singleton cs c ih =>
      cases hc : blank c with
      | true =>
          obtain ⟨back, hcs, hback⟩ := ih
          refine ⟨back ++ [c], ?_, ?_⟩
          · rw [trimRight_append_blank hc, ← List.append_assoc, ← hcs]
          · intro d hd
            rcases List.mem_append.mp hd with hd | hd
            · exact hback d hd
            · rw [List.mem_singleton.mp hd]
              exact hc
      | false => exact ⟨[], by rw [trimRight_append_of_not_blank hc, List.append_nil], by simp⟩

theorem isTrimOf_trim (blank : Char → Bool) (s : List Char) :
    IsTrimOf blank (trim blank s) s := by
  obtain ⟨front, hs, hfront⟩ := trimLeft_split blank s
  obtain ⟨back, hleft, hback⟩ := trimRight_split blank (trimLeft blank s)
  refine ⟨front, back, ?_, hfront, hback, ?_, ?_⟩
  · rw [trim, List.append_assoc, ← hleft, ← hs]
  · intro c hc
    -- the end that is trimmed last leaves the front alone
    have hhead := List.head?_dropWhile_not blank s
    rw [trim] at hc
    cases hcs : trimLeft blank s with
    | nil => rw [hcs] at hc; exact absurd hc (by simp [trimRight])
    | cons d ds =>
        have hd : blank d = false := by
          rw [← trimLeft, hcs] at hhead
          simpa using hhead
        rw [hcs, trimRight_cons_of_not_blank hd] at hc
        simp only [List.head?_cons, Option.mem_some_iff] at hc
        exact hc ▸ hd
  · intro c hc
    have hne : trim blank s ≠ [] := by
      rintro hnil
      rw [hnil] at hc
      exact absurd hc (by simp)
    have hlast := List.rdropWhile_last_not blank (trimLeft blank s) hne
    rw [Option.mem_def, List.getLast?_eq_some_getLast hne, Option.some.injEq] at hc
    rw [← hc]
    exact Bool.not_eq_true _ ▸ hlast

end Trimming

end Provisioning.Text

namespace Provisioning.Markup

open Text

/-! ## Entities are resolved to what was written -/

/-- An entity is read up to its semicolon. -/
theorem unescapeOnto_entity (body : List Char) {c : Char} (done rest : List Char)
    (hb : ∀ d ∈ body, isEntityBody d = true) (hc : entity? body = some c) :
    unescapeOnto done ('&' :: (body ++ ';' :: rest)) = unescapeOnto (c :: done) rest := by
  have hdrop : (body ++ ';' :: rest).dropWhile isEntityBody = ';' :: rest := by
    rw [List.dropWhile_append_of_pos hb]; rfl
  have htake : (body ++ ';' :: rest).takeWhile isEntityBody = body := by
    rw [List.takeWhile_append_of_pos hb]; simp [isEntityBody]
  rw [unescapeOnto]
  split
  · rename_i rest' h
    rw [hdrop] at h
    injection h with _ h
    subst h
    simp only [htake, hc]
  · rename_i h
    exact absurd hdrop (h rest)

theorem unescapeOnto_escapeChar (done : List Char) (c : Char) (rest : List Char) :
    unescapeOnto done (escapeChar c ++ rest) = unescapeOnto (c :: done) rest := by
  by_cases h1 : c = '<'
  · subst h1; exact unescapeOnto_entity ['l', 't'] done rest (by simp [isEntityBody]) rfl
  by_cases h2 : c = '>'
  · subst h2; exact unescapeOnto_entity ['g', 't'] done rest (by simp [isEntityBody]) rfl
  by_cases h3 : c = '&'
  · subst h3; exact unescapeOnto_entity ['a', 'm', 'p'] done rest (by simp [isEntityBody]) rfl
  by_cases h4 : c = '\''
  · subst h4; exact unescapeOnto_entity ['a', 'p', 'o', 's'] done rest (by simp [isEntityBody]) rfl
  by_cases h5 : c = '"'
  · subst h5; exact unescapeOnto_entity ['q', 'u', 'o', 't'] done rest (by simp [isEntityBody]) rfl
  -- all other characters stand for themselves
  simp [escapeChar, h1, h2, h3, h4, h5, unescapeOnto]

theorem unescapeOnto_escape (done cs : List Char) :
    unescapeOnto done (escape cs) = some (done.reverse ++ cs) := by
  induction cs generalizing done with
  | nil => simp [escape, unescapeOnto]
  | cons c cs ih =>
      rw [escape, List.flatMap_cons, unescapeOnto_escapeChar]
      simpa [escape] using ih (c :: done)

/-- Reading gives back what was written. -/
theorem unescape_escape (cs : List Char) : unescape (escape cs) = some cs := by
  simpa [unescape] using unescapeOnto_escape [] cs

/-! ## Trimming does not see entities -/

theorem escapeChar_of_blank {c : Char} (h : isMarkupBlank c = true) : escapeChar c = [c] := by
  simp only [isMarkupBlank, Bool.or_eq_true, beq_iff_eq] at h
  rcases h with ((rfl | rfl) | rfl) | rfl <;> rfl

/-- A character that is no blank is written without a blank at either end. -/
theorem escapeChar_ends {c : Char} (h : isMarkupBlank c = false) :
    ∃ a cs b ds, escapeChar c = a :: cs ∧ escapeChar c = ds ++ [b] ∧
      isMarkupBlank a = false ∧ isMarkupBlank b = false := by
  by_cases h1 : c = '<'
  · subst h1; exact ⟨'&', ['l', 't', ';'], ';', ['&', 'l', 't'], rfl, rfl, rfl, rfl⟩
  by_cases h2 : c = '>'
  · subst h2; exact ⟨'&', ['g', 't', ';'], ';', ['&', 'g', 't'], rfl, rfl, rfl, rfl⟩
  by_cases h3 : c = '&'
  · subst h3; exact ⟨'&', ['a', 'm', 'p', ';'], ';', ['&', 'a', 'm', 'p'], rfl, rfl, rfl, rfl⟩
  by_cases h4 : c = '\''
  · subst h4
    exact ⟨'&', ['a', 'p', 'o', 's', ';'], ';', ['&', 'a', 'p', 'o', 's'], rfl, rfl, rfl, rfl⟩
  by_cases h5 : c = '"'
  · subst h5
    exact ⟨'&', ['q', 'u', 'o', 't', ';'], ';', ['&', 'q', 'u', 'o', 't'], rfl, rfl, rfl, rfl⟩
  refine ⟨c, [], c, [], ?_, ?_, h, h⟩ <;> simp [escapeChar, h1, h2, h3, h4, h5]

theorem escape_append (cs ds : List Char) : escape (cs ++ ds) = escape cs ++ escape ds := by
  simp [escape]

theorem escape_cons (c : Char) (cs : List Char) : escape (c :: cs) = escapeChar c ++ escape cs := by
  simp [escape]

theorem escape_eq_nil {cs : List Char} (h : escape cs = []) : cs = [] := by
  cases cs with
  | nil => rfl
  | cons c cs =>
      have := unescape_escape (c :: cs)
      rw [h] at this
      simp [unescape, unescapeOnto] at this

theorem trimLeft_escape (cs : List Char) :
    trimLeft isMarkupBlank (escape cs) = escape (trimLeft isMarkupBlank cs) := by
  induction cs with
  | nil => rfl
  | cons c cs ih =>
      cases hc : isMarkupBlank c with
      | true =>
          rw [escape_cons, escapeChar_of_blank hc, List.singleton_append,
            trimLeft_cons_of_blank hc, trimLeft_cons_of_blank hc, ih]
      | false =>
          obtain ⟨a, as, -, -, ha, -, hna, -⟩ := escapeChar_ends hc
          rw [trimLeft_cons_of_not_blank hc, escape_cons, ha, List.cons_append,
            trimLeft_cons_of_not_blank hna]

theorem trimRight_escape (cs : List Char) :
    trimRight isMarkupBlank (escape cs) = escape (trimRight isMarkupBlank cs) := by
  induction cs using List.reverseRecOn with
  | nil => rfl
  | append_singleton cs c ih =>
      rw [escape_append, escape_cons, show escape [] = [] from rfl, List.append_nil]
      cases hc : isMarkupBlank c with
      | true =>
          rw [escapeChar_of_blank hc, trimRight_append_blank hc, trimRight_append_blank hc, ih]
      | false =>
          obtain ⟨-, -, b, ds, -, hb, -, hnb⟩ := escapeChar_ends hc
          rw [trimRight_append_of_not_blank hc, hb, ← List.append_assoc,
            trimRight_append_of_not_blank hnb, List.append_assoc, ← hb, escape_append, escape_cons,
            show escape [] = [] from rfl, List.append_nil]

/-- **Trimming what is written is writing what is trimmed.** -/
theorem trim_escape (cs : List Char) :
    trim isMarkupBlank (escape cs) = escape (trim isMarkupBlank cs) := by
  rw [trim, trimLeft_escape, trimRight_escape, ← trim]

/-! ## What is written holds no markup -/

theorem mem_escapeChar {c d : Char} (h : d ∈ escapeChar c) :
    d ≠ '<' ∧ d ≠ '>' ∧ d ≠ '\'' ∧ d ≠ '"' := by
  by_cases h1 : c = '<'
  · subst h1; revert d; simp [escapeChar]
  by_cases h2 : c = '>'
  · subst h2; revert d; simp [escapeChar]
  by_cases h3 : c = '&'
  · subst h3; revert d; simp [escapeChar]
  by_cases h4 : c = '\''
  · subst h4; revert d; simp [escapeChar]
  by_cases h5 : c = '"'
  · subst h5; revert d; simp [escapeChar]
  simp only [escapeChar, beq_iff_eq, h1, h2, h3, h4, h5, if_false, List.mem_singleton] at h
  subst h
  exact ⟨h1, h2, h4, h5⟩

/-- No bracket and no quote is written as it stands. -/
theorem mem_escape {cs : List Char} {d : Char} (h : d ∈ escape cs) :
    d ≠ '<' ∧ d ≠ '>' ∧ d ≠ '\'' ∧ d ≠ '"' := by
  obtain ⟨c, -, hd⟩ := List.mem_flatMap.mp h
  exact mem_escapeChar hd

end Provisioning.Markup
