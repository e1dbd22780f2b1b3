import Provisioning.Text.Hex
import Provisioning.Text.Utf8
import Provisioning.Yaml.Cursor

/-!
# Tags

A tag names the kind of a value. It is written in full between angles, or as a handle and a suffix,
where the handle stands for the front of the tag. A document may say what its handles stand for; two
of them have a meaning of their own. A tag may hold any octets, which are written as two hexadecimal
digits after a percent sign, and ends where an octet is zero.
-/

namespace Provisioning.Yaml

/-- A tag as a row of octets. -/
abbrev Tag := List UInt8

namespace Tag

/-- The octets of an ASCII text. -/
def ofAscii (s : String) : Tag := s.toList.map fun c => UInt8.ofNat c.toNat

/-- The front of the tags of the common kinds of values. -/
def common : String := "tag:yaml.org,2002:"

def null : Tag := ofAscii (common ++ "null")

def bool : Tag := ofAscii (common ++ "bool")

def int : Tag := ofAscii (common ++ "int")

/-- The name in a tag that begins with an exclamation mark; the mark itself if nothing follows. -/
def ownName? : Tag → Option String
  | [] => none
  | mark :: name =>
    if mark ≠ 0x21 then none
    else (Text.Utf8.decode (if name.isEmpty then [mark] else name)).toOption

end Tag

/-- A tag as it is written. -/
inductive TagForm where
  | full (octets : List UInt8)
  | short (handle : String) (suffix : List UInt8)
  deriving DecidableEq

/-- What handles stand for. -/
abbrev Handles := List (String × List UInt8)

/-- The handles that have a meaning of their own. -/
def Handles.standard : Handles := [("!", Tag.ofAscii "!"), ("!!", Tag.ofAscii Tag.common)]

/-- The octets before the first zero. -/
def upToZero (octets : List UInt8) : List UInt8 := octets.takeWhile (· != 0)

/-- The tag that is meant, if its handle stands for something. -/
def TagForm.resolve? (handles : Handles) : TagForm → Option Tag
  | .full octets => some (upToZero octets)
  | .short handle suffix =>
    (handles.lookup handle).map fun front => upToZero front ++ upToZero suffix

/-! ## Reading -/

/-- A character of a tag; the brackets of sequences and the comma only where a tag is told in full. -/
def isTagChar (full : Bool) (c : Char) : Bool :=
  isNameChar c ||
    [';', '/', '?', ':', '@', '&', '=', '+', '$', '.', '!', '~', '*', '\'', '(', ')'].contains c ||
    (full && [',', '[', ']'].contains c)

/-- How many octets belong to a character whose first octet is given. -/
def sequenceLength? (octet : UInt8) : Option Nat :=
  if octet < 0x80 then some 1
  else if octet < 0xC0 then none
  else if octet < 0xE0 then some 2
  else if octet < 0xF0 then some 3
  else if octet < 0xF8 then some 4
  else none

/-- The octets of a tag from a place on; `owed` more octets belong to the character that has begun. -/
def tagOctets (full : Bool) (owed : Nat) (done : List UInt8) (p : Position) :
    List Char → Option (List UInt8 × Cursor)
  | '%' :: a :: b :: rest => do
    let octet := UInt8.ofNat (16 * (← Text.Hex.value? a) + (← Text.Hex.value? b))
    let owed ← match owed with
      | 0 => (sequenceLength? octet).map (· - 1)
      | n + 1 => if 0x80 ≤ octet && octet < 0xC0 then some n else none
    tagOctets full owed (octet :: done) (((p.after '%').after a).after b) rest
  | x :: rest =>
    if owed ≠ 0 || x == '%' then none
    else if isTagChar full x then
      tagOctets full 0 (UInt8.ofNat x.toNat :: done) (p.after x) rest
    else some (done.reverse, ⟨p, x :: rest⟩)
  | [] => if owed ≠ 0 then none else some (done.reverse, ⟨p, []⟩)

/-- Some octets of a tag. -/
def tagText? (full : Bool) (c : Cursor) : Option (List UInt8 × Cursor) :=
  (tagOctets full 0 [] c.position c.rest).filter (!·.1.isEmpty)

/-- An exclamation mark with a name after it and maybe a second one, which makes a handle of it. -/
def handle? (c : Cursor) : Option (String × Bool × Cursor) := do
  let (name, next) := (← c.after? '!').span isNameChar
  match next.after? '!' with
  | some next => return (String.ofList ('!' :: name ++ ['!']), true, next)
  | none => return (String.ofList ('!' :: name), false, next)

/-- A tag that is not told in full. An exclamation mark alone is a tag of its own. -/
def shortTag? (c : Cursor) : Option (TagForm × Cursor) := do
  let (handle, closed, next) ← handle? c
  if closed then
    let (suffix, next) ← tagText? false next
    return (.short handle suffix, next)
  else
    let start ← c.after? '!'
    let (suffix, next) ← tagOctets false 0 [] start.position start.rest
    return (if suffix.isEmpty then .full (Tag.ofAscii "!") else .short "!" suffix, next)

/-- A tag, after which a blank, a line end, or between brackets a comma has to come. -/
def tag? (inFlow : Bool) (c : Cursor) : Option (TagForm × Cursor) := do
  let (form, next) ←
    if c.rest.take 2 == ['!', '<'] then do
      let (octets, next) ← tagText? true (c.advance 2)
      some (TagForm.full octets, ← next.after? '>')
    else shortTag? c
  if endsWord next.rest || (inFlow && next.rest.head? == some ',') then return (form, next)
  else none

end Provisioning.Yaml
