import Provisioning.Yaml.Tag

/-!
# Tokens

A document is a row of tokens. Collections that are written by indentation have tokens for where they
begin and end, as those between brackets have, and a key has a token in front of it even if nothing
is written there.
-/

namespace Provisioning.Yaml

/-- How a scalar is written. -/
inductive Style where
  | plain
  | quoted
  | literal
  | folded
  deriving DecidableEq

inductive Token where
  | version (major minor : Nat)
  | handle (name : String) (octets : List UInt8)
  | documentStart
  | documentEnd
  /-- A sequence that is written by indentation begins. -/
  | items
  /-- A mapping that is written by indentation begins. -/
  | entries
  /-- A collection that is written by indentation ends. -/
  | dedent
  | openSequence
  | closeSequence
  | openMapping
  | closeMapping
  | comma
  | item
  | key
  | value
  | alias (name : String)
  | anchor (name : String)
  | tag (form : TagForm)
  | scalar (style : Style) (text : String)
  deriving DecidableEq

/-- A token at a place and the place after it. -/
abbrev TokenReading := Token × Cursor

/-! ## Directives -/

/-- A number of at most nine digits. -/
def versionNumber? (c : Cursor) : Option (Nat × Cursor) :=
  let (digits, next) := c.span Char.isDigit
  if digits.isEmpty || 9 < digits.length then none
  else some (digits.foldl (fun n d => 10 * n + (d.toNat - '0'.toNat)) 0, next)

def version? (c : Cursor) : Option TokenReading := do
  let (major, next) ← versionNumber? (c.skip isBlank)
  let (minor, next) ← versionNumber? (← next.after? '.')
  return (.version major minor, next)

/-- A handle and what it stands for. -/
def handleToken? (c : Cursor) : Option TokenReading := do
  let (name, closed, next) ← handle? (c.skip isBlank)
  if !closed && name ≠ "!" then none
  else if !(next.rest.head?.map isBlank).getD false then none
  else
    let (octets, next) ← tagText? true (next.skip isBlank)
    if endsWord next.rest then return (.handle name octets, next) else none

/-- A line that begins with a percent sign. -/
def directive? (c : Cursor) : Option TokenReading := do
  let (name, next) := (c.advance 1).span isNameChar
  if !endsWord next.rest then none
  else
    let (token, next) ←
      if name == "YAML".toList then version? next
      else if name == "TAG".toList then handleToken? next
      else none
    return (token, ← next.restOfLine?)

/-! ## Names of values -/

/-- What may stand right after the name of a value. -/
def endsName (cs : List Char) : Bool :=
  endsWord cs || (cs.head?.map ['?', ':', ',', ']', '}', '%', '@', '\x60'].contains).getD false

/-- The name after the mark of an anchor or an alias. -/
def name? (c : Cursor) : Option (String × Cursor) :=
  let (name, next) := (c.advance 1).span isNameChar
  if name.isEmpty || !endsName next.rest then none else some (String.ofList name, next)

end Provisioning.Yaml
