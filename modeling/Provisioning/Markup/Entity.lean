import Provisioning.Fault

/-!
# Entities

Five characters are written as entities in text and in attribute values. Reading takes these five
names and the code points of characters in decimal or hexadecimal; an ampersand always begins an
entity, and the next ampersand or semicolon after it has to be the semicolon that ends it.
-/

namespace Provisioning.Markup

/-- How a character is written in text and in attribute values. -/
def escapeChar (c : Char) : List Char :=
  if c == '<' then ['&', 'l', 't', ';']
  else if c == '>' then ['&', 'g', 't', ';']
  else if c == '&' then ['&', 'a', 'm', 'p', ';']
  else if c == '\'' then ['&', 'a', 'p', 'o', 's', ';']
  else if c == '"' then ['&', 'q', 'u', 'o', 't', ';']
  else [c]

/-- The written form of a text. -/
def escape (cs : List Char) : List Char := cs.flatMap escapeChar

/-- The digits of a code point in the given base, with their value. -/
def codePoint? (base : Nat) (value? : Char → Option Nat) (cs : List Char) : Option Nat :=
  cs.foldlM (fun n c => (value? c).map (base * n + ·)) 0

/-- The value of a decimal digit. -/
def decimal? (c : Char) : Option Nat :=
  if c.isDigit then some (c.toNat - '0'.toNat) else none

/-- The value of a hexadecimal digit of either case. -/
def hexadecimal? (c : Char) : Option Nat :=
  if c.isDigit then some (c.toNat - '0'.toNat)
  else if 'a' ≤ c && c ≤ 'f' then some (c.toNat - 'a'.toNat + 10)
  else if 'A' ≤ c && c ≤ 'F' then some (c.toNat - 'A'.toNat + 10)
  else none

/-- The character of a code point, which must not be zero. -/
def charOfCodePoint? (n : Nat) : Option Char :=
  if n == 0 then none else if n.isValidChar then some (Char.ofNat n) else none

/-- The character that the text between ampersand and semicolon stands for. A code point has at
most seven decimal or six hexadecimal digits. -/
def entity? : List Char → Option Char
  | ['l', 't'] => some '<'
  | ['g', 't'] => some '>'
  | ['a', 'm', 'p'] => some '&'
  | ['a', 'p', 'o', 's'] => some '\''
  | ['q', 'u', 'o', 't'] => some '"'
  | '#' :: 'x' :: cs =>
    if cs.length ≤ 6 then (codePoint? 16 hexadecimal? cs).bind charOfCodePoint? else none
  | '#' :: cs =>
    if cs.length ≤ 7 then (codePoint? 10 decimal? cs).bind charOfCodePoint? else none
  | _ => none

/-- Neither ampersand nor semicolon. -/
def isEntityBody (c : Char) : Bool := c != '&' && c != ';'

/-- What follows the semicolon of an entity is shorter than what follows its ampersand. -/
theorem length_lt_of_dropWhile {p : Char → Bool} {cs rest : List Char} {c : Char}
    (h : cs.dropWhile p = c :: rest) : rest.length < cs.length := by
  have := (List.dropWhile_sublist p (l := cs)).length_le
  rw [h, List.length_cons] at this
  omega

/-- Resolves the entities of a text after the characters already read, which come last first. -/
def unescapeOnto (done : List Char) : List Char → Option (List Char)
  | [] => some done.reverse
  | '&' :: cs =>
    match h : cs.dropWhile isEntityBody with
    | ';' :: rest =>
      have := length_lt_of_dropWhile h
      match entity? (cs.takeWhile isEntityBody) with
      | some c => unescapeOnto (c :: done) rest
      | none => none
    | _ => none
  | c :: cs => unescapeOnto (c :: done) cs
  termination_by cs => cs.length

/-- Resolves the entities of a text; `none` when an ampersand begins no entity. -/
def unescape (cs : List Char) : Option (List Char) := unescapeOnto [] cs

end Provisioning.Markup
