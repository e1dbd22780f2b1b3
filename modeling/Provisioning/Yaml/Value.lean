import Provisioning.Text.Numeral
import Provisioning.Yaml.Node

/-!
# Values of YAML

A value is a node of a document, read as what it is expected to be. A scalar is a text; one that is
written without quotes can also be read as a number, a truth value or nothing at all, and so can a
literal block whose tag says so. An alias is read as what it names.
-/

namespace Provisioning.Yaml

/-- A node together with what its aliases name. -/
structure Value where
  node : Node
  names : Names := {}

namespace Value

/-- The node that is meant. -/
def resolved (v : Value) : Node :=
  match v.node with
  | .alias target => (v.names.node? target).getD .empty
  | node => node

/-- Any scalar is a text, quoted or not. -/
def text? (v : Value) : Option String :=
  match v.resolved with
  | .scalar _ _ text => some text
  | _ => none

/-- The text of a scalar that may be read as something else, of a kind with a tag. -/
def word? (tag : Tag) (v : Value) : Option String :=
  match v.resolved with
  | .scalar _ .plain text => some text
  | .scalar (some t) .literal text => if t == tag then some text else none
  | _ => none

/-- The words for nothing. -/
def nullWords : List String := ["~", "null", "Null", "NULL"]

/-- Nothing is written, or a word for it. With a tag there is something, unless it is the tag of
nothing, which has to stand at a word for it. -/
def isNull? (v : Value) : Option Bool :=
  match v.resolved with
  | .scalar none .plain text => some (text.isEmpty || nullWords.contains text)
  | .scalar (some tag) .plain text =>
    if tag ≠ Tag.null then some false
    else if nullWords.contains text then some true
    else none
  | _ => some false

/-- A value that may be nothing. -/
def optional? {α : Type} (read : Value → Option α) (v : Value) : Option (Option α) := do
  if ← v.isNull? then return none else return some (← read v)

def bool? (v : Value) : Option Bool := do
  let text ← v.word? .bool
  if ["true", "True", "TRUE"].contains text then some true
  else if ["false", "False", "FALSE"].contains text then some false
  else none

/-- The name of a choice: that of a tag of its own, where nothing else stands, or a text. -/
def choice? (v : Value) : Option String :=
  match v.resolved with
  | .scalar tag style text =>
    match tag.bind Tag.ownName? with
    | some name =>
      if style = .plain && (text.isEmpty || nullWords.contains text) then some name else none
    | none => some text
  | _ => none

/-- The value of a digit in a base up to sixteen. -/
def digit? (base : Nat) (c : Char) : Option Nat :=
  let n :=
    if c.isDigit then c.toNat - '0'.toNat
    else if 'a' ≤ c && c ≤ 'f' then c.toNat - 'a'.toNat + 10
    else if 'A' ≤ c && c ≤ 'F' then c.toNat - 'A'.toNat + 10
    else base
  if n < base then some n else none

/-- The number that digits of a base denote. -/
def digits? (base : Nat) (cs : List Char) : Option Nat :=
  if cs.isEmpty then none
  else cs.foldlM (fun n c => (digit? base c).map (base * n + ·)) 0

/-- A number without a minus sign. A zero in front of other digits makes a text of it. -/
def natural? (cs : List Char) : Option Nat :=
  let cs := match cs with
    | '+' :: cs => cs
    | cs => cs
  match cs with
  | '0' :: 'x' :: cs => digits? 16 cs
  | '0' :: 'o' :: cs => digits? 8 cs
  | '0' :: 'b' :: cs => digits? 2 cs
  | '0' :: c :: _ => if c.isDigit then none else digits? 10 cs
  | cs => digits? 10 cs

/-- A number up to a bound. -/
def number? (b : Text.Bounds) (v : Value) : Option Nat := do
  (natural? (← v.word? .int).toList).filter fun n => (n : Int) ≤ b.greatest

/-- Nothing is written. -/
def isAbsent : Node → Bool
  | .scalar _ .plain "" => true
  | _ => false

/-- A sequence; nothing written is an empty one. -/
def items? (v : Value) : Option (List Value) :=
  match v.resolved with
  | .sequence items => some (items.map (Value.mk · v.names))
  | node => if isAbsent node then some [] else none

/-- The entries of a mapping whose keys are texts; nothing written is an empty one. -/
def fields? (v : Value) : Option (List (String × Value)) :=
  match v.resolved with
  | .mapping entries =>
    entries.mapM fun (key, value) => (text? ⟨key, v.names⟩).map fun key => (key, ⟨value, v.names⟩)
  | node => if isAbsent node then some [] else none

/-- The value of a field that occurs at most once. -/
def field? (fields : List (String × Value)) (key : String) : Option (Option Value) :=
  match fields.filter fun f => f.1 == key with
  | [] => some none
  | [f] => some (some f.2)
  | _ => none

/-- A field that has to be there. -/
def required? {α : Type} (read : Value → Option α) (fields : List (String × Value))
    (key : String) : Option α := do
  read (← ← field? fields key)

/-- A field that may be left out. -/
def defaulted? {α : Type} (read : Value → Option α) (default : α)
    (fields : List (String × Value)) (key : String) : Option α := do
  match ← field? fields key with
  | none => some default
  | some v => read v

/-- The value that a text holds. -/
def ofText? (s : String) : Option Value :=
  (Document.ofText? s).map fun document => ⟨document.root, document.names⟩

end Value

end Provisioning.Yaml
