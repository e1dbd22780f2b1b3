/-!
# A place in a text

The structure of a document is in the columns in which its parts begin, so a place is the rest of the
text together with its line and column. A line feed stands for every usual line end here; the two
separators of Unicode end a line too and are kept as they are.
-/

namespace Provisioning.Yaml

/-! ## Classes of characters -/

/-- Space or tab. -/
def isBlank (c : Char) : Bool := c == ' ' || c == '\t'

/-- The end of a line. -/
def isBreak (c : Char) : Bool := c == '\n' || c.toNat == 0x2028 || c.toNat == 0x2029

/-- A character of a name. -/
def isNameChar (c : Char) : Bool := c.isAlphanum || c == '_' || c == '-'

/-- The brackets and the comma of collections. -/
def isBracket (c : Char) : Bool := [',', '[', ']', '{', '}'].contains c

/-- The mark of the byte order, which may begin a line. -/
def byteOrderMark : Char := Char.ofNat 0xFEFF

/-- A text holds no other control characters than tabs and line ends, and no code point that is not a
character. -/
def isPermitted (c : Char) : Bool :=
  let n := c.toNat
  n == 0x9 || n == 0xA || n == 0xD || (0x20 ≤ n && n ≤ 0x7E) || n == 0x85 ||
    (0xA0 ≤ n && n ≤ 0xD7FF) || (0xE000 ≤ n && n ≤ 0xFFFD) || 0x10000 ≤ n

/-- The text is at the end of a line, or at its own end. -/
def endsLine : List Char → Bool
  | [] => true
  | c :: _ => isBreak c

/-- The text is at a blank or where a line ends. -/
def endsWord : List Char → Bool
  | [] => true
  | c :: _ => isBlank c || isBreak c

/-- The text with a line feed for each usual line end. -/
def normalLines : List Char → List Char
  | [] => []
  | '\r' :: '\n' :: cs => '\n' :: normalLines cs
  | c :: cs => (if c == '\r' || c.toNat == 0x85 then '\n' else c) :: normalLines cs

/-! ## Positions -/

/-- How many lines, characters of the line, and bytes of the text are before a place. -/
structure Position where
  line : Nat := 0
  column : Nat := 0
  index : Nat := 0
  deriving DecidableEq

/-- The position after one character more. -/
def Position.after (p : Position) (c : Char) : Position :=
  let index := p.index + c.utf8Size
  if isBreak c then ⟨p.line + 1, 0, index⟩ else ⟨p.line, p.column + 1, index⟩

/-- The rest of a text and the position in which it begins. -/
structure Cursor where
  position : Position := {}
  rest : List Char
  deriving DecidableEq

namespace Cursor

def column (c : Cursor) : Nat := c.position.column

/-- The place before a text, if it holds permitted characters only. -/
def ofText? (s : String) : Option Cursor :=
  if s.toList.all isPermitted then some { rest := normalLines s.toList } else none

/-- The place after so many characters. -/
def advance : Nat → Cursor → Cursor
  | 0, c => c
  | _, ⟨p, []⟩ => ⟨p, []⟩
  | n + 1, ⟨p, x :: xs⟩ => advance n ⟨p.after x, xs⟩

/-- What stands at the front as long as its characters have a property, and the place after it. -/
def span (f : Char → Bool) (c : Cursor) : List Char × Cursor :=
  let front := c.rest.takeWhile f
  (front, c.advance front.length)

/-- The next place that is not at a character with a property. -/
def skip (f : Char → Bool) (c : Cursor) : Cursor := (c.span f).2

/-- The place after a character, if it is there. -/
def after? (x : Char) (c : Cursor) : Option Cursor :=
  if c.rest.head? == some x then some (c.advance 1) else none

/-- The place is at one of the marks that separate documents, which begin a line. -/
def atMark (mark : Char) (c : Cursor) : Bool :=
  c.column == 0 && c.rest.take 3 == [mark, mark, mark] && endsWord (c.rest.drop 3)

/-- The place is at either mark that separates documents. -/
def atSeparator (c : Cursor) : Bool := c.atMark '-' || c.atMark '.'

/-- Skips blanks and a comment up to the end of the line, where nothing else may stand. -/
def restOfLine? (c : Cursor) : Option Cursor :=
  let c := c.skip isBlank
  let c := if c.rest.head? == some '#' then c.skip (!isBreak ·) else c
  if endsLine c.rest then some (c.advance 1) else none

end Cursor

end Provisioning.Yaml
