import Provisioning.Yaml.Layout

/-!
# The tree of a document

Tokens make a tree of scalars, sequences and mappings. What an anchor names can stand in another
place by an alias, which is a leaf of the tree: it is looked up when the value is needed, so a
collection may also hold an alias of itself.

The tree is built in steps. A step either looks for a node at the next token or has found one; the
collections that are still open are on a stack, each with what it waits for.
-/

namespace Provisioning.Yaml

inductive Node where
  /-- Something that is named elsewhere, by the number of its name. -/
  | alias (target : Nat)
  | scalar (tag : Option Tag) (style : Style) (text : String)
  | sequence (items : List Node)
  | mapping (entries : List (Node × Node))
  deriving Inhabited

/-- What stands where nothing is written. -/
def Node.empty : Node := .scalar none .plain ""

/-! ## Names -/

/-- What has been named so far. Each node with an anchor has a serial number, in the order in which
they begin; each anchor has a number, which is that of the different names before it. Of the nodes
whose anchors have one number, the last one counts. -/
structure Names where
  serial : Nat := 0
  /-- The numbers of the names. -/
  numbers : List (String × Nat) := []
  /-- The serial numbers of the nodes that count, by the numbers of their names. -/
  holders : List (Nat × Nat) := []
  /-- The nodes that are complete, by their serial numbers. -/
  nodes : List (Nat × Node) := []

namespace Names

/-- A node with a name begins. -/
def start (n : Names) (name : String) : Names :=
  let number := n.numbers.length
  { n with
    serial := n.serial + 1
    numbers := (name, number) :: n.numbers.filter (·.1 != name)
    holders := (number, n.serial) :: n.holders }

/-- A node is complete. -/
def finish (n : Names) (serial : Option Nat) (node : Node) : Names :=
  match serial with
  | some s => { n with nodes := (s, node) :: n.nodes }
  | none => n

/-- The node that counts for a number. -/
def node? (n : Names) (number : Nat) : Option Node :=
  (n.holders.lookup number).bind fun serial => n.nodes.lookup serial

end Names

/-! ## Open collections -/

/-- How a sequence is written. -/
inductive SequenceKind where
  | indented
  /-- Its items stand in the column of the keys of the mapping that it belongs to. -/
  | flush
  | bracketed
  deriving DecidableEq

/-- A collection that is open. `serial` is its number if it has a name. -/
inductive Frame where
  /-- The next item of a sequence. -/
  | item (kind : SequenceKind) (serial : Option Nat) (done : List Node)
  /-- The next key of a mapping. -/
  | key (inFlow : Bool) (serial : Option Nat) (done : List (Node × Node))
  /-- The value after a key. -/
  | value (inFlow : Bool) (serial : Option Nat) (done : List (Node × Node)) (key : Node)
  /-- The next key of a mapping between brackets, which has no value. -/
  | loneKey (serial : Option Nat) (done : List (Node × Node))
  /-- The key of a mapping of one entry that is an item between brackets. -/
  | pairKey
  /-- The value of a mapping of one entry that is an item between brackets. -/
  | pairValue (key : Node)

/-- What a step starts from. -/
inductive Focus where
  /-- A node begins here. Between brackets no collection is written by indentation, and a flush
  sequence belongs to a key or a value only. -/
  | seek (indented flush : Bool)
  /-- A node is complete. -/
  | found (node : Node)

/-- A tree that is being built. -/
structure Building where
  focus : Focus
  stack : List Frame := []
  names : Names := {}
  rest : List Token

namespace Building

/-- A collection is complete. -/
def close (b : Building) (serial : Option Nat) (node : Node) (rest : List Token) : Building :=
  { b with focus := .found node, names := b.names.finish serial node, rest }

/-- Something is awaited by a collection; it is absent if one of some tokens comes next. -/
def await (b : Building) (frame : Frame) (seek : Focus) (absences : List Token)
    (rest : List Token) : Building :=
  let absent := (rest.head?.map absences.contains).getD false
  { b with
    focus := if absent then .found .empty else seek
    stack := frame :: b.stack
    rest }

/-- The tokens after the comma that separates what comes from what came before it, if anything did. -/
def afterComma? (first : Bool) : List Token → Option (List Token)
  | .comma :: rest => some (if first then .comma :: rest else rest)
  | rest => if first then some rest else none

/-- Goes on after a key between the brackets of a sequence. A token that says that nothing is written
there is passed over. -/
def beginPair (b : Building) (rest : List Token) : Building :=
  let isMark := (rest.head?.map [.value, .comma, .closeSequence].contains).getD false
  if isMark then b.await .pairKey (.found .empty) [] (rest.drop 1)
  else b.await .pairKey (.seek false false) [] rest

/-- Goes on in a sequence. `first` tells that nothing of it has come yet. -/
def nextItem? (b : Building) (kind : SequenceKind) (first : Bool) (serial : Option Nat)
    (done : List Node) : Option Building :=
  let closed (rest : List Token) := b.close serial (.sequence done.reverse) rest
  let frame := Frame.item kind serial done
  match kind, b.rest with
  | .indented, .item :: rest => some (b.await frame (.seek true false) [.item, .dedent] rest)
  | .indented, .dedent :: rest => some (closed rest)
  | .indented, _ => none
  | .flush, .item :: rest =>
    some (b.await frame (.seek true false) [.item, .key, .value, .dedent] rest)
  | .flush, rest => some (closed rest)
  | .bracketed, .closeSequence :: rest => some (closed rest)
  | .bracketed, rest => do
    match ← afterComma? first rest with
    | .closeSequence :: rest => return closed rest
    | .key :: rest => return ({ b with stack := frame :: b.stack } : Building).beginPair rest
    | rest => return b.await frame (.seek false false) [] rest

/-- Goes on in a mapping before a key. -/
def nextKey? (b : Building) (inFlow first : Bool) (serial : Option Nat)
    (done : List (Node × Node)) : Option Building :=
  let closed (rest : List Token) := b.close serial (.mapping done.reverse) rest
  match inFlow, b.rest with
  | false, .key :: rest =>
    some (b.await (.key false serial done) (.seek true true) [.key, .value, .dedent] rest)
  | false, .dedent :: rest => some (closed rest)
  | false, _ => none
  | true, .closeMapping :: rest => some (closed rest)
  | true, rest => do
    match ← afterComma? first rest with
    | .closeMapping :: rest => return closed rest
    | .key :: rest =>
      return b.await (.key true serial done) (.seek false false)
        [.value, .comma, .closeMapping] rest
    | rest => return b.await (.loneKey serial done) (.seek false false) [] rest

/-- Goes on in a mapping after a key. -/
def nextValue (b : Building) (inFlow : Bool) (serial : Option Nat) (done : List (Node × Node))
    (key : Node) : Building :=
  let frame := Frame.value inFlow serial done key
  match b.rest with
  | .value :: rest =>
    if inFlow then b.await frame (.seek false false) [.comma, .closeMapping] rest
    else b.await frame (.seek true true) [.key, .value, .dedent] rest
  | rest => b.await frame (.found .empty) [] rest

/-- Goes on after the key of a mapping of one entry. -/
def nextPairValue (b : Building) (key : Node) : Building :=
  match b.rest with
  | .value :: rest =>
    b.await (.pairValue key) (.seek false false) [.comma, .closeSequence] rest
  | rest => b.await (.pairValue key) (.found .empty) [] rest

/-- A node is complete that a collection has waited for. -/
def resume? (b : Building) (node : Node) : Frame → Option Building
  | .item kind serial done => b.nextItem? kind false serial (node :: done)
  | .key inFlow serial done => some (b.nextValue inFlow serial done node)
  | .value inFlow serial done key => b.nextKey? inFlow false serial ((key, node) :: done)
  | .loneKey serial done => b.nextKey? true false serial ((node, .empty) :: done)
  | .pairKey => some (b.nextPairValue node)
  | .pairValue key => some { b with focus := .found (.mapping [(key, node)]) }

/-! ## Nodes -/

/-- The anchor and the tag in front of a node, each at most once and in either order. -/
def properties : List Token → Option String × Option TagForm × List Token
  | .anchor name :: .tag form :: rest => (some name, some form, rest)
  | .tag form :: .anchor name :: rest => (some name, some form, rest)
  | .anchor name :: rest => (some name, none, rest)
  | .tag form :: rest => (none, some form, rest)
  | rest => (none, none, rest)

/-- Begins the node at the next token. A node with an anchor or a tag may have nothing else. -/
def begin? (handles : Handles) (b : Building) (indented flush : Bool) : Option Building :=
  match b.rest with
  | .alias name :: rest =>
    (b.names.numbers.lookup name).map fun n => { b with focus := .found (.alias n), rest }
  | tokens => do
    let (anchor, form, rest) := properties tokens
    let tag ← match form with
      | some form => (form.resolve? handles).map some
      | none => some none
    let serial := anchor.map fun _ => b.names.serial
    let names := match anchor with
      | some name => b.names.start name
      | none => b.names
    let b := { b with names, rest }
    match rest, indented, flush with
    | .item :: _, _, true => b.nextItem? .flush true serial []
    | .scalar style text :: rest, _, _ => return b.close serial (.scalar tag style text) rest
    | .openSequence :: rest, _, _ => ({ b with rest } : Building).nextItem? .bracketed true serial []
    | .openMapping :: rest, _, _ => ({ b with rest } : Building).nextKey? true true serial []
    | .items :: rest, true, _ => ({ b with rest } : Building).nextItem? .indented true serial []
    | .entries :: rest, true, _ => ({ b with rest } : Building).nextKey? false true serial []
    | _, _, _ =>
      if anchor.isSome || form.isSome then return b.close serial (.scalar tag .plain "") rest
      else none

/-- Builds on until a node is complete and nothing is open. -/
def finish? (handles : Handles) : Nat → Building → Option (Node × Building)
  | 0, _ => none
  | fuel + 1, b =>
    match b.focus, b.stack with
    | .found node, [] => some (node, b)
    | .found node, frame :: stack => do finish? handles fuel (← { b with stack }.resume? node frame)
    | .seek indented flush, _ => do finish? handles fuel (← b.begin? handles indented flush)

end Building

/-! ## Documents -/

/-- What a text holds: a node, and the names that its aliases go by. -/
structure Document where
  root : Node := .empty
  names : Names := {}

namespace Document

/-- The document of which the first node begins at the next token, and the tokens after it. A node, an
open collection and a token each take a few steps. -/
def build? (handles : Handles) (tokens : List Token) : Option (Document × List Token) := do
  let (root, b) ← Building.finish? handles (4 * tokens.length + 4)
    { focus := .seek true false, rest := tokens }
  return (⟨root, b.names⟩, b.rest)

/-- The handles that the directives at the front define, each at most once. At most one tells the
version, which is known. -/
def directives? (version : Bool) (handles : Handles) :
    List Token → Option (Handles × List Token)
  | .version major minor :: rest =>
    if version || major ≠ 1 || (minor ≠ 1 && minor ≠ 2) then none
    else directives? true handles rest
  | .handle name octets :: rest =>
    if (handles.lookup name).isSome then none
    else directives? version ((name, octets) :: handles) rest
  | rest => some (handles, rest)

/-- A document has ended before these tokens. -/
def isOver : List Token → Bool
  | [] | .version .. :: _ | .handle .. :: _ | .documentStart :: _ | .documentEnd :: _ => true
  | _ => false

/-- The first document and the tokens after it. After directives it has to begin with a mark. -/
def first? (tokens : List Token) : Option (Document × List Token) := do
  let (handles, rest) ← directives? false [] tokens
  match rest with
  | .documentStart :: rest =>
    if isOver rest then return ({}, rest) else build? (handles ++ .standard) rest
  | rest =>
    if rest.length < tokens.length then none
    else if rest.isEmpty then return ({}, [])
    else build? .standard rest

/-- The only document of a text; one that holds nothing has an empty node. -/
def ofText? (s : String) : Option Document := do
  let (document, rest) ← first? (← Token.ofText? s)
  if rest.all (· == .documentEnd) then return document else none

end Document

end Provisioning.Yaml
