import Provisioning.Text.Hex
import Provisioning.Yaml.Cursor

/-!
# Scalars

A scalar is written plain, in single or double quotes, or as a block. Where a plain or quoted one
goes over several lines, the blanks around a line end fall away; one line end becomes a space, and
of several all but the first are kept. A line separator of Unicode is kept even as the first one.
-/

namespace Provisioning.Yaml

/-! ## Gaps -/

/-- What stands between two words of a scalar. -/
structure Gap where
  /-- The blanks before the first line end. -/
  blanks : List Char := []
  /-- The line ends. -/
  breaks : List Char := []

namespace Gap

/-- The blanks and line ends at a place. In a line that is not the first one, no tab stands before a
column. -/
def readFrom (least : Nat) (blanks breaks : List Char) (p : Position) :
    List Char → Option (Gap × Cursor)
  | [] => some (⟨blanks.reverse, breaks.reverse⟩, ⟨p, []⟩)
  | x :: xs =>
    if isBreak x then readFrom least blanks (x :: breaks) (p.after x) xs
    else if !isBlank x then some (⟨blanks.reverse, breaks.reverse⟩, ⟨p, x :: xs⟩)
    else if breaks.isEmpty then readFrom least (x :: blanks) breaks (p.after x) xs
    else if x == '\t' && p.column < least then none
    else readFrom least blanks breaks (p.after x) xs

def read (least : Nat) (c : Cursor) : Option (Gap × Cursor) :=
  readFrom least [] [] c.position c.rest

/-- A line ends in the gap. -/
def crossesLine (g : Gap) : Bool := !g.breaks.isEmpty

/-- The text that a gap stands for. -/
def text (g : Gap) : List Char :=
  match g.breaks with
  | [] => g.blanks
  | ['\n'] => [' ']
  | '\n' :: more => more
  | breaks => breaks

end Gap

/-! ## Plain scalars -/

/-- A character with which something begins that is no plain scalar. -/
def isMark (c : Char) : Bool :=
  isBracket c || ['#', '&', '*', '!', '|', '>', '\'', '"', '%', '@', '\x60'].contains c

/-- A plain scalar does not begin with a mark of another kind. -/
def startsPlain (inFlow : Bool) : List Char → Bool
  | [] => false
  | x :: xs =>
    if x == '-' then !endsWord xs
    else if x == '?' || x == ':' then !inFlow && !endsWord xs
    else !endsWord (x :: xs) && !isMark x

/-- One word of a plain scalar: up to a blank, a line end, or a mark that ends the scalar. -/
def plainWord (inFlow : Bool) (word : List Char) (p : Position) :
    List Char → Option (List Char × Cursor)
  | [] => some (word.reverse, ⟨p, []⟩)
  | x :: xs =>
    if inFlow && x == ':' && (xs.head?.map fun y => isBracket y || y == '?').getD false then none
    else if endsWord (x :: xs) || (x == ':' && endsWord xs) || (inFlow && isBracket x) then
      some (word.reverse, ⟨p, x :: xs⟩)
    else plainWord inFlow (x :: word) (p.after x) xs

/-- A scalar that has been read. -/
structure ScalarReading where
  text : String
  /-- The scalar ends in another line than its last word. -/
  crossesLine : Bool := false
  next : Cursor

/-- The words of a plain scalar from a place on, which stands after a gap; `done` is the text before,
the last character first. In later lines words stand at or right of a column, unless they are between
brackets. -/
def plainWords (inFlow : Bool) (least : Nat) :
    Nat → (done : List Char) → Gap → Cursor → Option ScalarReading
  | 0, _, _, _ => none
  | fuel + 1, done, gap, c =>
    let finished (done : List Char) (crossesLine : Bool) (next : Cursor) : ScalarReading :=
      ⟨String.ofList done.reverse, crossesLine, next⟩
    if c.atSeparator || c.rest.head? == some '#' then some (finished done gap.crossesLine c)
    else do
      let (word, next) ← plainWord inFlow [] c.position c.rest
      if word.isEmpty then return finished done gap.crossesLine next
      let done := word.reverseAux (gap.text.reverseAux done)
      if next.rest.isEmpty || !endsWord next.rest then return finished done false next
      let (gap, next) ← Gap.read least next
      if !inFlow && next.column < least then return finished done gap.crossesLine next
      plainWords inFlow least fuel done gap next

/-- A plain scalar. The fuel is more than the text is long. -/
def plain (inFlow : Bool) (least fuel : Nat) (c : Cursor) : Option ScalarReading :=
  plainWords inFlow least fuel [] {} c

/-! ## Quoted scalars -/

/-- The character of an escape of one letter. -/
def escape? : Char → Option Char
  | '0' => some (Char.ofNat 0)
  | 'a' => some (Char.ofNat 7)
  | 'b' => some (Char.ofNat 8)
  | 't' => some '\t'
  | '\t' => some '\t'
  | 'n' => some '\n'
  | 'v' => some (Char.ofNat 11)
  | 'f' => some (Char.ofNat 12)
  | 'r' => some '\r'
  | 'e' => some (Char.ofNat 27)
  | ' ' => some ' '
  | '"' => some '"'
  | '/' => some '/'
  | '\\' => some '\\'
  | 'N' => some (Char.ofNat 0x85)
  | '_' => some (Char.ofNat 0xA0)
  | 'L' => some (Char.ofNat 0x2028)
  | 'P' => some (Char.ofNat 0x2029)
  | _ => none

/-- How many hexadecimal digits follow the letter of an escape. -/
def escapeWidth? : Char → Option Nat
  | 'x' => some 2
  | 'u' => some 4
  | 'U' => some 8
  | _ => none

/-- The character whose number the digits are. -/
def codePoint? (width : Nat) (digits : List Char) : Option Char := do
  if digits.length ≠ width then none
  else
    let n ← digits.foldlM (fun n c => (Text.Hex.value? c).map (16 * n + ·)) 0
    if n.isValidChar then some (Char.ofNat n) else none

/-- What an escape at the front stands for, and the place after it. A line end that is escaped falls
away together with the blanks after it, and the line ends that follow are kept. -/
def escaped? (c : Cursor) : Option (List Char × Cursor) :=
  match c.rest with
  | _ :: y :: ys =>
    if isBreak y then
      (Gap.readFrom 0 [] [y] ((c.advance 2).position) ys).map fun (gap, next) =>
        (gap.breaks.drop 1, next)
    else
      match escape? y, escapeWidth? y with
      | some z, _ => some ([z], c.advance 2)
      | none, some width =>
        (codePoint? width (ys.take width)).map fun z => ([z], c.advance (2 + width))
      | none, none => none
  | _ => none

/-- The rest of a scalar after its opening quote; `done` is the text before, the last character
first. -/
def quotedRest (quote : Char) : Nat → (done : List Char) → Cursor → Option ScalarReading
  | 0, _, _ => none
  | fuel + 1, done, c =>
    if c.atSeparator then none
    else
      match c.rest with
      | [] => none
      | x :: xs => do
        if x == quote && !(quote == '\'' && xs.head? == some '\'') then
          return { text := String.ofList done.reverse, next := c.advance 1 }
        let (text, next) ←
          if x == quote then some ([quote], c.advance 2)
          else if quote == '"' && x == '\\' then escaped? c
          else if isBlank x || isBreak x then (Gap.read 0 c).map fun (gap, next) => (gap.text, next)
          else some ([x], c.advance 1)
        quotedRest quote fuel (text.reverseAux done) next

/-- A scalar in quotes, whose first one is at the front. The fuel is more than the text is long. -/
def quoted (quote : Char) (fuel : Nat) (c : Cursor) : Option ScalarReading :=
  quotedRest quote fuel [] (c.advance 1)

/-! ## Block scalars -/

/-- What becomes of the line ends after the last line of a block. -/
inductive Chomp where
  | clip
  | strip
  | keep
  deriving DecidableEq

/-- How a block is to be read. -/
structure BlockHeader where
  folds : Bool
  chomp : Chomp := .clip
  /-- How much further the block is indented than what it belongs to, if that is told. -/
  indent : Option Nat := none

/-- The mark of what becomes of the last line ends. -/
def chomp? (c : Cursor) : Option (Chomp × Cursor) :=
  match c.rest.head? with
  | some '+' => some (.keep, c.advance 1)
  | some '-' => some (.strip, c.advance 1)
  | _ => none

/-- The digit of an indentation, which is not zero. -/
def indent? (c : Cursor) : Option (Option Nat × Cursor) :=
  match c.rest with
  | x :: _ =>
    if x == '0' then none
    else if x.isDigit then some (some (x.toNat - '0'.toNat), c.advance 1)
    else some (none, c)
  | [] => some (none, c)

/-- The marks after the bar or the angle, each at most once and in either order. -/
def blockHeader (folds : Bool) (c : Cursor) : Option (BlockHeader × Cursor) :=
  match chomp? c with
  | some (chomp, c) => (indent? c).map fun (indent, c) => ({ folds, chomp, indent }, c)
  | none => do
    let (indent, c) ← indent? c
    match indent, chomp? c with
    | some _, some (chomp, c) => some ({ folds, chomp, indent }, c)
    | _, _ => some ({ folds, indent }, c)

/-- The empty lines at a place and the indentation of the line after them, up to a column if there is
one. Gives the greatest column that has been reached; no tab stands before the column. -/
def emptyLines (indent : Option Nat) (deepest : Nat) (breaks : List Char) (p : Position) :
    List Char → Option (Nat × List Char × Cursor)
  | [] => some (deepest, breaks.reverse, ⟨p, []⟩)
  | x :: xs =>
    let short := (indent.map fun n => decide (p.column < n)).getD true
    if x == ' ' && short then
      emptyLines indent (max deepest (p.column + 1)) breaks (p.after x) xs
    else if x == '\t' && short then none
    else if isBreak x then emptyLines indent deepest (x :: breaks) (p.after x) xs
    else some (deepest, breaks.reverse, ⟨p, x :: xs⟩)

/-- What has been read of a block: its text so far, the last character first, the line end of its
last line, the empty lines after that, and whether the last line begins with a blank. -/
structure BlockReading where
  done : List Char := []
  lineEnd : List Char := []
  empties : List Char := []
  startsBlank : Bool := false

namespace BlockReading

/-- The text up to the next line, the last character first. The line end between two lines of a folded
block that begin without a blank becomes a space, or falls away before empty lines. -/
def joined (folds : Bool) (b : BlockReading) (nextStartsBlank : Bool) : List Char :=
  let lineEnd :=
    if folds && b.lineEnd == ['\n'] && !b.startsBlank && !nextStartsBlank then
      if b.empties.isEmpty then [' '] else []
    else b.lineEnd
  b.empties.reverseAux (lineEnd.reverseAux b.done)

/-- The text of the whole block. -/
def finished (chomp : Chomp) (b : BlockReading) : String :=
  String.ofList <| b.done.reverse ++
    match chomp with
    | .strip => []
    | .clip => b.lineEnd
    | .keep => b.lineEnd ++ b.empties

end BlockReading

/-- The lines of a block, which begin in one column. -/
def blockLines (folds : Bool) (indent : Nat) : Nat → BlockReading → Cursor →
    Option (BlockReading × Cursor)
  | 0, _, _ => none
  | fuel + 1, b, c =>
    if c.column ≠ indent || c.rest.isEmpty then some (b, c)
    else do
      let startsBlank := (c.rest.head?.map isBlank).getD false
      let (line, next) := c.span (!isBreak ·)
      let lineEnd := next.rest.take 1
      let next := next.advance 1
      let (_, empties, next) ← emptyLines (some indent) 0 [] next.position next.rest
      blockLines folds indent fuel
        ⟨line.reverseAux (b.joined folds startsBlank), lineEnd, empties, startsBlank⟩ next

/-- A scalar that is written as a block, whose lines stand at or right of a column and right of what
they belong to. The fuel is more than the text is long. -/
def block (folds : Bool) (least fuel : Nat) (c : Cursor) : Option ScalarReading := do
  let (h, c) ← blockHeader folds (c.advance 1)
  let c ← c.restOfLine?
  let told := h.indent.map (least - 1 + ·)
  let (deepest, empties, c) ← emptyLines told 0 [] c.position c.rest
  let indent := told.getD (max deepest (max least 1))
  let (b, next) ← blockLines folds indent fuel { empties } c
  return { text := b.finished h.chomp, next }

end Provisioning.Yaml
