import Provisioning.Markup.Entity
import Provisioning.Text.Blank

/-!
# Pieces of a document

A document is cut into tags, runs of text between them, verbatim sections, and asides (comments,
declarations, processing instructions) that mean nothing. `Piece.next` takes one piece from the
front; what it leaves is always shorter, so cutting comes to an end.

Each piece of text loses the blanks at its ends before anything else is done with it, and a piece of
nothing but blanks is no piece. Little is asked of names: the name of a tag is what stands before
its first blank.
-/

namespace Provisioning.Markup

open Text

/-- One piece of a document. -/
inductive Piece where
  /-- Text without the blanks at its ends, its entities not yet resolved. -/
  | text (raw : List Char)
  /-- Text that is taken as it stands. -/
  | verbatim (data : List Char)
  /-- A tag that opens an element. -/
  | opening (name : List Char) (attrs : List (List Char × List Char))
  /-- A tag that is an element without content. -/
  | empty (name : List Char) (attrs : List (List Char × List Char))
  /-- A tag that closes an element. -/
  | closing (name : List Char)
  /-- A comment, a declaration or a processing instruction. -/
  | aside
  deriving DecidableEq

/-! ## Where a piece ends -/

/-- Splits at the first character of a kind, which belongs to neither part. At the end of the input
the second part is empty. -/
def splitAtMark (mark : Char) (cs : List Char) : List Char × List Char :=
  (cs.takeWhile (· != mark), (cs.dropWhile (· != mark)).drop 1)

/-- The inside of a tag and what follows its closing bracket, which counts only outside quotes. -/
def splitTag (done : List Char) (quote : Option Char) : List Char → Option (List Char × List Char)
  | [] => none
  | c :: cs =>
    match quote with
    | some q => splitTag (c :: done) (if c == q then none else some q) cs
    | none =>
      if c == '>' then some (done.reverse, cs)
      else splitTag (c :: done) (if c == '\'' || c == '"' then some c else none) cs

/-- What follows a comment; `seen` characters have gone by, the last `dashes` of them hyphens. The
comment ends at two hyphens and a bracket, the hyphens that began it not counted. -/
def afterComment (seen dashes : Nat) : List Char → Option (List Char)
  | [] => none
  | c :: cs =>
    if c == '>' && 4 ≤ seen && 2 ≤ dashes then some cs
    else afterComment (seen + 1) (if c == '-' then dashes + 1 else 0) cs

/-- The inside of a document type declaration and what follows it; brackets inside are balanced. -/
def splitDoctype (done : List Char) (depth : Nat) : List Char → Option (List Char × List Char)
  | [] => none
  | c :: cs =>
    if c == '>' && depth == 0 then some (done.reverse, cs)
    else
      let depth := if c == '<' then depth + 1 else if c == '>' then depth - 1 else depth
      splitDoctype (c :: done) depth cs

/-- The inside of a verbatim section and what follows the two brackets that end it. -/
def splitVerbatim (done : List Char) : List Char → Option (List Char × List Char)
  | [] => none
  | c :: cs =>
    match c, done with
    | '>', ']' :: ']' :: done => some (done.reverse, cs)
    | _, _ => splitVerbatim (c :: done) cs

/-! ## Inside a tag -/

/-- The attributes of a tag. A key is what stands before the equals sign or a blank, and may begin
with an equals sign; no blank is needed after a value. No key may come twice, and every key has a
value in quotes. -/
def attributes (keys : List (List Char)) (done : List (List Char × List Char)) (cs : List Char) :
    Option (List (List Char × List Char)) :=
  match h : trimLeft isMarkupBlank cs with
  | [] => some done.reverse
  | k :: cs' =>
    let key := k :: cs'.takeWhile fun c => !(c == '=' || isMarkupBlank c)
    match h' : trimLeft isMarkupBlank (cs'.dropWhile fun c => !(c == '=' || isMarkupBlank c)) with
    | '=' :: cs'' =>
      if keys.contains key then none
      else
        match h'' : trimLeft isMarkupBlank cs'' with
        | q :: cs3 =>
          if q == '"' || q == '\'' then
            match h3 : cs3.dropWhile (· != q) with
            | _ :: rest =>
              have : rest.length < cs.length := by
                have h1 := length_lt_of_dropWhile h
                have h2 := length_lt_of_dropWhile h'
                have h4 := length_lt_of_dropWhile h''
                have h5 := length_lt_of_dropWhile h3
                have h6 := (List.dropWhile_sublist (l := cs')
                  fun c => !(c == '=' || isMarkupBlank c)).length_le
                omega
              match unescape (cs3.takeWhile (· != q)) with
              | some value => attributes (key :: keys) ((key, value) :: done) rest
              | none => none
            | [] => none
          else none
        | [] => none
    | _ => none
  termination_by cs.length

/-- Whether the first text begins with the second, which is in upper case, the case of letters
aside. -/
def beginsWith (cs start : List Char) : Bool :=
  (cs.take start.length).map Char.toUpper == start

/-! ## One piece -/

/-- What stands at the front of a document. -/
inductive Front where
  /-- The document ends. -/
  | finished
  /-- The markup is not well-formed. -/
  | broken
  | piece (p : Piece) (rest : List Char)
  deriving DecidableEq

/-- A tag that opens an element, or is one. -/
def startTag (cs : List Char) : Front :=
  match splitTag [] none cs with
  | none => .broken
  | some (content, rest) =>
    let closed := content.getLast? == some '/'
    let content := if closed then content.dropLast else content
    let name := content.takeWhile fun c => !isMarkupBlank c
    match attributes [] [] (content.dropWhile fun c => !isMarkupBlank c) with
    | none => .broken
    | some attrs => .piece (if closed then .empty name attrs else .opening name attrs) rest

/-- A tag that closes an element. Blanks after the name are dropped, unless there is no name. -/
def endTag (cs : List Char) : Front :=
  let (content, rest) := splitAtMark '>' cs
  let name := trimRight isMarkupBlank content
  .piece (.closing (if name.isEmpty then content else name)) rest

/-- A processing instruction or the declaration of the document, which ends in a question mark. -/
def instruction (cs : List Char) : Front :=
  let (content, rest) := splitAtMark '>' cs
  if 2 ≤ content.length && content.getLast? == some '?' then .piece .aside rest else .broken

/-- A comment, a verbatim section or a document type declaration. -/
def declaration : List Char → Front
  | '-' :: cs =>
    match afterComment 1 1 cs with
    | some rest => if cs.head? == some '-' then .piece .aside rest else .broken
    | none => .broken
  | '[' :: cs =>
    match splitVerbatim [] cs with
    | some (content, rest) =>
      if beginsWith content ['C', 'D', 'A', 'T', 'A', '['] then
        .piece (.verbatim (content.drop 6)) rest
      else .broken
    | none => .broken
  | c :: cs =>
    if c == 'D' || c == 'd' then
      match splitDoctype [] 0 (c :: cs) with
      | some (content, rest) =>
        if beginsWith content ['D', 'O', 'C', 'T', 'Y', 'P', 'E'] &&
            (content.drop 7).any fun c => !isMarkupBlank c then .piece .aside rest
        else .broken
      | none => .broken
    else .broken
  | [] => .broken

/-- What follows an opening bracket. -/
def tag : List Char → Front
  | [] => .finished
  | '/' :: cs => endTag cs
  | '?' :: cs => instruction cs
  | '!' :: cs => declaration cs
  | cs => startTag cs

/-- Takes one piece from the front. -/
def Piece.next (cs : List Char) : Front :=
  match trimLeft isMarkupBlank cs with
  | [] => .finished
  | '<' :: cs => tag cs
  | cs => .piece (.text (trimRight isMarkupBlank (cs.takeWhile (· != '<')))) (cs.dropWhile (· != '<'))

/-! ## Every piece takes something -/

theorem splitAtMark_length (mark : Char) (cs : List Char) :
    (splitAtMark mark cs).2.length ≤ cs.length := by
  have := (List.dropWhile_sublist (· != mark) (l := cs)).length_le
  simp only [splitAtMark, List.length_drop]
  omega

theorem splitTag_length {cs done content rest : List Char} {quote : Option Char}
    (h : splitTag done quote cs = some (content, rest)) : rest.length < cs.length := by
  induction cs generalizing done quote with
  | nil => simp [splitTag] at h
  | cons c cs ih =>
    simp only [splitTag] at h
    split at h
    · have := ih h
      simp only [List.length_cons]; omega
    · split at h
      · simp_all
      · have := ih h
        simp only [List.length_cons]; omega

theorem afterComment_length {cs rest : List Char} {seen dashes : Nat}
    (h : afterComment seen dashes cs = some rest) : rest.length < cs.length := by
  induction cs generalizing seen dashes with
  | nil => simp [afterComment] at h
  | cons c cs ih =>
    simp only [afterComment] at h
    split at h
    · simp_all
    · have := ih h
      simp only [List.length_cons]; omega

theorem splitDoctype_length {cs done content rest : List Char} {depth : Nat}
    (h : splitDoctype done depth cs = some (content, rest)) : rest.length < cs.length := by
  induction cs generalizing done depth with
  | nil => simp [splitDoctype] at h
  | cons c cs ih =>
    simp only [splitDoctype] at h
    split at h
    · simp_all
    · have := ih h
      simp only [List.length_cons]; omega

theorem splitVerbatim_length {cs done content rest : List Char}
    (h : splitVerbatim done cs = some (content, rest)) : rest.length < cs.length := by
  induction cs generalizing done with
  | nil => simp [splitVerbatim] at h
  | cons c cs ih =>
    simp only [splitVerbatim] at h
    split at h
    · simp_all
    · have := ih h
      simp only [List.length_cons]; omega

theorem startTag_length {cs rest : List Char} {p : Piece} (h : startTag cs = .piece p rest) :
    rest.length < cs.length := by
  unfold startTag at h
  split at h
  · simp at h
  · next content rest' e =>
    simp only at h
    split at h
    · simp at h
    · obtain ⟨-, rfl⟩ := Front.piece.inj h
      exact splitTag_length e

theorem endTag_length {cs rest : List Char} {p : Piece} (h : endTag cs = .piece p rest) :
    rest.length ≤ cs.length := by
  have := splitAtMark_length '>' cs
  simp only [endTag, Front.piece.injEq] at h
  exact h.2 ▸ this

theorem instruction_length {cs rest : List Char} {p : Piece} (h : instruction cs = .piece p rest) :
    rest.length ≤ cs.length := by
  have := splitAtMark_length '>' cs
  simp only [instruction] at h
  split at h
  · exact (Front.piece.inj h).2 ▸ this
  · simp at h

theorem declaration_length {cs rest : List Char} {p : Piece} (h : declaration cs = .piece p rest) :
    rest.length < cs.length := by
  unfold declaration at h
  split at h
  · split at h
    · next e =>
      split at h
      · obtain ⟨-, rfl⟩ := Front.piece.inj h
        exact Nat.lt_succ_of_lt (afterComment_length e)
      · simp at h
    · simp at h
  · split at h
    · next e =>
      split at h
      · obtain ⟨-, rfl⟩ := Front.piece.inj h
        exact Nat.lt_succ_of_lt (splitVerbatim_length e)
      · simp at h
    · simp at h
  · split at h
    · split at h
      · next e =>
        split at h
        · obtain ⟨-, rfl⟩ := Front.piece.inj h
          exact splitDoctype_length e
        · simp at h
      · simp at h
    · simp at h
  · simp at h

theorem tag_length {cs rest : List Char} {p : Piece} (h : tag cs = .piece p rest) :
    rest.length < cs.length := by
  unfold tag at h
  split at h
  · simp at h
  · exact Nat.lt_succ_of_le (endTag_length h)
  · exact Nat.lt_succ_of_le (instruction_length h)
  · exact Nat.lt_succ_of_lt (declaration_length h)
  · exact startTag_length h

/-- What a piece leaves is shorter than what it was taken from. -/
theorem Piece.next_length {cs rest : List Char} {p : Piece} (h : Piece.next cs = .piece p rest) :
    rest.length < cs.length := by
  have hd := (List.dropWhile_sublist isMarkupBlank (l := cs)).length_le
  unfold Piece.next at h
  split at h
  · simp at h
  · next cs' e =>
    have := tag_length h
    rw [trimLeft] at e
    rw [e, List.length_cons] at hd
    omega
  · next cs' hne hlt =>
    simp only [Front.piece.injEq] at h
    obtain ⟨-, rfl⟩ := h
    change (List.dropWhile isMarkupBlank cs).length ≤ cs.length at hd
    change (List.dropWhile (· != '<') (List.dropWhile isMarkupBlank cs)).length < cs.length
    match e : List.dropWhile isMarkupBlank cs with
    | [] => exact absurd e hne
    | c :: t =>
      rw [e, List.length_cons] at hd
      by_cases hc : c = '<'
      · subst hc; exact absurd e (hlt t)
      · have := (List.dropWhile_sublist (· != '<') (l := t)).length_le
        simp only [List.dropWhile_cons, bne_iff_ne, ne_eq, hc, not_false_eq_true, if_true]
        omega

end Provisioning.Markup
