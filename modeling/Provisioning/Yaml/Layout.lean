import Provisioning.Yaml.Scalar
import Provisioning.Yaml.Token

/-!
# The layout of a document

A collection is open from the column in which its first item or key stands until something stands
left of that column. What is a key is known only at the colon after it: until then a place is kept at
which the token of a key, and the start of a mapping, may still be put. Such a key stands on one line
and has at most 1024 bytes. Between brackets columns do not count.
-/

namespace Provisioning.Yaml

/-- A place at which a key may have begun. -/
structure PossibleKey where
  position : Position
  /-- How many tokens are before it. -/
  index : Nat
  /-- Only a key can stand there, since it stands in the column of an open collection. -/
  required : Bool

/-- What has been read of a text, and what is open there. -/
structure Layout where
  cursor : Cursor
  /-- The tokens before the place, the last one first. -/
  tokens : List Token := []
  count : Nat := 0
  /-- The columns of the open collections, the innermost first. -/
  columns : List Nat := []
  /-- A key that may have begun inside the innermost brackets. -/
  key : Option PossibleKey := none
  /-- The keys that may have begun with each open bracket, the innermost first. -/
  outerKeys : List (Option PossibleKey) := []
  keyAllowed : Bool := true

namespace Layout

/-- The place is between brackets. -/
def inFlow (l : Layout) : Bool := !l.outerKeys.isEmpty

/-- The first column that is right of the innermost collection. -/
def least (l : Layout) : Nat :=
  match l.columns with
  | [] => 0
  | column :: _ => column + 1

def column (l : Layout) : Nat := l.cursor.column

/-- Goes on at a place after a token. -/
def push (l : Layout) (t : Token) (next : Cursor) : Layout :=
  { l with cursor := next, tokens := t :: l.tokens, count := l.count + 1 }

/-- Goes on after a token of so many characters. -/
def pushMark (l : Layout) (t : Token) (length : Nat) : Layout :=
  l.push t (l.cursor.advance length)

/-- No key begins here any more. -/
def dropKey? (l : Layout) : Option Layout :=
  match l.key with
  | some ⟨_, _, true⟩ => none
  | _ => some { l with key := none }

/-- A key that is possible does not go over lines and is not too long. -/
def dropStaleKey? (l : Layout) : Option Layout :=
  match l.key with
  | some k =>
    if k.position.line < l.cursor.position.line ||
        k.position.index + 1024 < l.cursor.position.index then l.dropKey?
    else some l
  | none => some l

/-- A key may begin here, unless none is allowed; another one does not begin thereafter. -/
def startKey? (l : Layout) : Option Layout :=
  if !l.keyAllowed then some l
  else
    let required := !l.inFlow && l.columns.head? == some l.column
    l.dropKey?.map fun l =>
      { l with key := some ⟨l.cursor.position, l.count, required⟩, keyAllowed := false }

/-- A collection is open from a column on, if none is open there. -/
def openColumn (l : Layout) (column : Nat) : Layout × Bool :=
  if !l.inFlow && l.least ≤ column then ({ l with columns := column :: l.columns }, true)
  else (l, false)

/-- The collections right of a column end. -/
def closeColumns (l : Layout) (column : Nat) : Layout :=
  if l.inFlow then l
  else
    let closed := (l.columns.takeWhile (column < ·)).length
    { l with
      columns := l.columns.drop closed
      tokens := List.replicate closed .dedent ++ l.tokens
      count := l.count + closed }

/-- All collections end. -/
def closeAll (l : Layout) : Layout :=
  if l.inFlow then l
  else
    { l with
      columns := []
      tokens := List.replicate l.columns.length .dedent ++ l.tokens
      count := l.count + l.columns.length }

/-! ## From one token to the next -/

/-- Skips blanks, line ends and comments. A line that may begin with a key does not begin with a tab;
a key may begin after a line end. -/
def skipFrom (inFlow keyAllowed inComment : Bool) (p : Position) : List Char → Bool × Cursor
  | [] => (keyAllowed, ⟨p, []⟩)
  | x :: xs =>
    if isBreak x then skipFrom inFlow (keyAllowed || !inFlow) false (p.after x) xs
    else if inComment || x == ' ' || (x == '\t' && (inFlow || !keyAllowed)) ||
        (x == byteOrderMark && p.column == 0) then
      skipFrom inFlow keyAllowed inComment (p.after x) xs
    else if x == '#' then skipFrom inFlow keyAllowed true (p.after x) xs
    else (keyAllowed, ⟨p, x :: xs⟩)

def skip (l : Layout) : Layout :=
  let (keyAllowed, cursor) :=
    skipFrom l.inFlow l.keyAllowed false l.cursor.position l.cursor.rest
  { l with keyAllowed, cursor }

/-! ## Tokens that change the layout -/

/-- Between documents and before them nothing is open. -/
def between? (l : Layout) : Option Layout :=
  l.closeAll.dropKey?.map ({ · with keyAllowed := false })

/-- An opening bracket, which may begin a key itself. -/
def openBracket? (l : Layout) (t : Token) : Option Layout :=
  l.startKey?.map fun l =>
    { l.pushMark t 1 with outerKeys := l.key :: l.outerKeys, key := none, keyAllowed := true }

def closeBracket? (l : Layout) (t : Token) : Option Layout :=
  l.dropKey?.map fun l =>
    let (key, outerKeys) := match l.outerKeys with
      | key :: outerKeys => (key, outerKeys)
      | [] => (none, [])
    { l.pushMark t 1 with key, outerKeys, keyAllowed := false }

def comma? (l : Layout) : Option Layout :=
  l.dropKey?.map fun l => { l.pushMark .comma 1 with keyAllowed := true }

/-- A collection that is written by indentation has something in the column of the place. -/
def inColumn? (l : Layout) (start : Token) : Option Layout :=
  if l.inFlow then some l
  else if !l.keyAllowed then none
  else
    let (l, opened) := l.openColumn l.column
    some (if opened then l.push start l.cursor else l)

/-- The dash of an item. -/
def item? (l : Layout) : Option Layout := do
  let l ← (← l.inColumn? .items).dropKey?
  return { l.pushMark .item 1 with keyAllowed := true }

/-- The question mark of a key. -/
def explicitKey? (l : Layout) : Option Layout := do
  let l ← (← l.inColumn? .entries).dropKey?
  return { l.pushMark .key 1 with keyAllowed := !l.inFlow }

/-- The colon of a value, before which a key may have stood. -/
def value? (l : Layout) : Option Layout :=
  match l.key with
  | some k =>
    let (l, opened) := l.openColumn k.position.column
    let after := l.count - k.index
    let marks : List Token := if opened then [.key, .entries] else [.key]
    some { l.pushMark .value 1 with
      tokens := .value :: l.tokens.take after ++ marks ++ l.tokens.drop after
      count := l.count + marks.length + 1
      key := none
      keyAllowed := false }
  | none => do
    let l ← l.inColumn? .entries
    return { l.pushMark .value 1 with keyAllowed := !l.inFlow }

/-- Something that may be a key, or the first part of one. -/
def content? (l : Layout) (token : Option TokenReading) : Option Layout := do
  let (token, next) ← token
  return (← l.startKey?).push token next

def scalar? (l : Layout) (style : Style) (reading : Option ScalarReading) : Option Layout := do
  let r ← reading
  let l ← l.content? (some (.scalar style r.text, r.next))
  return { l with keyAllowed := r.crossesLine }

/-- A block is no key, but a key may follow it. -/
def block? (l : Layout) (style : Style) (fuel : Nat) : Option Layout := do
  let l ← l.dropKey?
  let r ← block (style == .folded) l.least fuel l.cursor
  return { l.push (.scalar style r.text) r.next with keyAllowed := true }

/-! ## All tokens -/

/-- Reads the token at a place, at which there is one. The fuel is more than the text is long. -/
def token? (fuel : Nat) (l : Layout) (x : Char) (xs : List Char) : Option Layout :=
  let c := l.cursor
  if c.column == 0 && x == '%' then do
    let l ← l.between?
    let (token, next) ← directive? c
    return l.push token next
  else if c.atMark '-' then l.between?.map (·.pushMark .documentStart 3)
  else if c.atMark '.' then l.between?.map (·.pushMark .documentEnd 3)
  else if x == '[' then l.openBracket? .openSequence
  else if x == '\x7b' then l.openBracket? .openMapping
  else if x == ']' then l.closeBracket? .closeSequence
  else if x == '\x7d' then l.closeBracket? .closeMapping
  else if x == ',' then l.comma?
  else if x == '-' && endsWord xs then l.item?
  else if x == '?' && (l.inFlow || endsWord xs) then l.explicitKey?
  else if x == ':' && (l.inFlow || endsWord xs) then l.value?
  else if x == '*' then l.content? ((name? c).map fun (name, next) => (.alias name, next))
  else if x == '&' then l.content? ((name? c).map fun (name, next) => (.anchor name, next))
  else if x == '!' then l.content? ((tag? l.inFlow c).map fun (form, next) => (.tag form, next))
  else if x == '|' && !l.inFlow then l.block? .literal fuel
  else if x == '>' && !l.inFlow then l.block? .folded fuel
  else if x == '\'' || x == '"' then l.scalar? .quoted (quoted x fuel c)
  else if startsPlain l.inFlow (x :: xs) then l.scalar? .plain (plain l.inFlow l.least fuel c)
  else none

/-- Reads on to the end of the text. The fuel is more than the text is long. -/
def readAll : Nat → Layout → Option Layout
  | 0, _ => none
  | fuel + 1, l => do
    let l := l.skip
    let l ← l.dropStaleKey?
    let l := l.closeColumns l.column
    match l.cursor.rest with
    | [] => l.closeAll.dropKey?
    | x :: xs => readAll fuel (← token? (fuel + 1) l x xs)

end Layout

/-- The tokens of a text. -/
def Token.ofText? (s : String) : Option (List Token) := do
  let cursor ← Cursor.ofText? s
  let l ← Layout.readAll (cursor.rest.length + 1) { cursor }
  return l.tokens.reverse

end Provisioning.Yaml
