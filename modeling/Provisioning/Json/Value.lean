/-!
# Values of JSON

Records keep their fields in the order in which they were given, and there are no fractions. A value
is written on one line, or over lines with two spaces for each level; only quotes, backslashes and
control characters are escaped.

Types tell their values in JSON and are told in JSON. In a record a field that holds null is as good as
one that is missing.
-/

namespace Provisioning

inductive Json where
  | null
  | bool (b : Bool)
  | number (n : Int)
  | text (s : String)
  | list (items : List Json)
  | record (fields : List (String × Json))
  deriving Inhabited

/-- Types whose values are told in JSON. -/
class ToJson (α : Type) where
  toJson : α → Json

/-- Types whose values can be told in JSON. -/
class OfJson (α : Type) where
  ofJson? : Json → Option α
  /-- What a missing field means, if it may be missing. -/
  absent? : Option α := none

namespace Json

/-! ## Fields -/

/-- A field of a record. -/
def field {α : Type} [ToJson α] (key : String) (value : α) : List (String × Json) :=
  [(key, ToJson.toJson value)]

/-- A field that is left out when it has no value. -/
def field? {α : Type} [ToJson α] (key : String) : Option α → List (String × Json)
  | none => []
  | some value => field key value

/-- A field that is left out when it has no items. -/
def items? {α : Type} [ToJson α] (key : String) (values : List α) : List (String × Json) :=
  if values.isEmpty then [] else [(key, .list (values.map ToJson.toJson))]

/-- The value of a field that is not null. -/
def get? (j : Json) (key : String) : Option Json :=
  match j with
  | .record fields =>
    match fields.lookup key with
    | some .null => none
    | value => value
  | _ => none

/-- The value of a field of a record. -/
def read {α : Type} [OfJson α] (j : Json) (key : String) : Option α :=
  match j.get? key with
  | none => OfJson.absent?
  | some v => OfJson.ofJson? v

/-- A field with a value for the case that it is missing. -/
def readD {α : Type} [OfJson α] (j : Json) (key : String) (default : α) : Option α :=
  match j.get? key with
  | none => some default
  | some v => OfJson.ofJson? v

/-- An item of a list. -/
def item {α : Type} [OfJson α] (j : Json) (i : Nat) : Option α :=
  match j with
  | .list items => items[i]?.bind OfJson.ofJson?
  | _ => none

/-- A natural number below a bound. -/
def below? (bound : Nat) : Json → Option Nat
  | .number n => if 0 ≤ n ∧ n < bound then some n.toNat else none
  | _ => none

/-- A text that is the name of a value. -/
def named {α : Type} (ofName? : String → Option α) : Json → Option α
  | .text s => ofName? s
  | _ => none

/-! ## The order of keys -/

/-- Puts a field where its key belongs among fields in key order. -/
def insertField (f : String × Json) : List (String × Json) → List (String × Json)
  | [] => [f]
  | g :: gs => if g.1 < f.1 then g :: insertField f gs else f :: g :: gs

mutual

/-- The value with the fields of all its records in the order of their keys. -/
def sorted : Json → Json
  | .list items => .list (sortedItems items)
  | .record fields => .record (sortedFields fields)
  | value => value

def sortedItems : List Json → List Json
  | [] => []
  | v :: vs => sorted v :: sortedItems vs

def sortedFields : List (String × Json) → List (String × Json)
  | [] => []
  | (key, v) :: fs => insertField (key, sorted v) (sortedFields fs)

end

/-! ## Writing -/

/-- A control character as four hexadecimal digits. -/
def escapeControl (c : Char) : List Char :=
  ['\\', 'u', '0', '0', Nat.digitChar (c.toNat / 16), Nat.digitChar (c.toNat % 16)]

/-- A character between quotes. -/
def escapeChar (c : Char) : List Char :=
  if c == '"' then ['\\', '"']
  else if c == '\\' then ['\\', '\\']
  else if c == '\n' then ['\\', 'n']
  else if c == '\r' then ['\\', 'r']
  else if c == '\t' then ['\\', 't']
  else if c.toNat == 8 then ['\\', 'b']
  else if c.toNat == 12 then ['\\', 'f']
  else if c.toNat < 32 then escapeControl c
  else [c]

/-- A text between quotes. -/
def quote (s : String) : String :=
  String.ofList ('"' :: s.toList.flatMap escapeChar ++ ['"'])

mutual

/-- The value on one line, without spaces. -/
def compact : Json → String
  | .null => "null"
  | .bool b => if b then "true" else "false"
  | .number n => toString n
  | .text s => quote s
  | .list items => "[" ++ compactItems "" items ++ "]"
  | .record fields => "\x7b" ++ compactFields "" fields ++ "\x7d"

/-- The items after one another, the first after the given mark, the others after a comma. -/
def compactItems (mark : String) : List Json → String
  | [] => ""
  | v :: vs => mark ++ compact v ++ compactItems "," vs

def compactFields (mark : String) : List (String × Json) → String
  | [] => ""
  | (key, v) :: fs => mark ++ quote key ++ ":" ++ compact v ++ compactFields "," fs

end

/-- A new line at a depth. -/
def newLine (depth : Nat) : String := "\n" ++ String.ofList (List.replicate (2 * depth) ' ')

mutual

/-- The value over lines, each item and each field on its own. -/
def pretty (depth : Nat) : Json → String
  | .list items =>
    if items.isEmpty then "[]"
    else "[" ++ prettyItems (depth + 1) "" items ++ newLine depth ++ "]"
  | .record fields =>
    if fields.isEmpty then "\x7b\x7d"
    else "\x7b" ++ prettyFields (depth + 1) "" fields ++ newLine depth ++ "\x7d"
  | .null => "null"
  | .bool b => if b then "true" else "false"
  | .number n => toString n
  | .text s => quote s

/-- The items at a depth, the first after the given mark, the others after a comma. -/
def prettyItems (depth : Nat) (mark : String) : List Json → String
  | [] => ""
  | v :: vs => mark ++ newLine depth ++ pretty depth v ++ prettyItems depth "," vs

def prettyFields (depth : Nat) (mark : String) : List (String × Json) → String
  | [] => ""
  | (key, v) :: fs =>
    mark ++ newLine depth ++ quote key ++ ": " ++ pretty depth v ++ prettyFields depth "," fs

end

end Json

instance : ToJson Json := ⟨id⟩
instance : ToJson String := ⟨.text⟩
instance : ToJson Bool := ⟨.bool⟩
instance : ToJson Nat := ⟨fun n => .number n⟩
instance : ToJson Int := ⟨.number⟩
instance : ToJson UInt8 := ⟨fun n => .number n.toNat⟩
instance : ToJson UInt16 := ⟨fun n => .number n.toNat⟩
instance : ToJson UInt32 := ⟨fun n => .number n.toNat⟩
instance : ToJson UInt64 := ⟨fun n => .number n.toNat⟩
instance {α : Type} [ToJson α] : ToJson (List α) := ⟨fun xs => .list (xs.map ToJson.toJson)⟩
instance {α : Type} [ToJson α] : ToJson (Option α) := ⟨fun x => (x.map ToJson.toJson).getD .null⟩
instance {α β : Type} [ToJson α] [ToJson β] : ToJson (α × β) :=
  ⟨fun x => .list [ToJson.toJson x.1, ToJson.toJson x.2]⟩


instance : OfJson Json where ofJson? := some
instance : OfJson String where ofJson? := Json.named some
instance : OfJson Bool where
  ofJson?
    | .bool b => some b
    | _ => none
instance : OfJson Int where
  ofJson?
    | .number n => some n
    | _ => none
instance : OfJson Nat where
  ofJson?
    | .number n => if 0 ≤ n then some n.toNat else none
    | _ => none
instance : OfJson UInt8 where ofJson? j := (j.below? UInt8.size).map UInt8.ofNat
instance : OfJson UInt16 where ofJson? j := (j.below? UInt16.size).map UInt16.ofNat
instance : OfJson UInt32 where ofJson? j := (j.below? UInt32.size).map UInt32.ofNat
instance : OfJson UInt64 where ofJson? j := (j.below? UInt64.size).map UInt64.ofNat
instance {α : Type} [OfJson α] : OfJson (List α) where
  ofJson?
    | .list items => items.mapM OfJson.ofJson?
    | _ => none
  absent? := some []
instance {α : Type} [OfJson α] : OfJson (Option α) where
  ofJson?
    | .null => some none
    | j => (OfJson.ofJson? j).map some
  absent? := some none
instance {α β : Type} [OfJson α] [OfJson β] : OfJson (α × β) where
  ofJson? j := do return (← j.item 0, ← j.item 1)

end Provisioning
