/-!
# Words of a command line

A word is the name of an option, the value of the option before it, or an operand. Two hyphens alone
make operands of all words that follow. What the words of a command may be is told by a grammar; the
first word that it does not permit counts, or the first one that asks for help or the version. The
letter that asks for them counts as soon as it is read, whatever is written together with it.
-/

namespace Provisioning.CommandLine

/-- Why words do not say what to do. -/
inductive Stop where
  | helpWanted
  | versionWanted
  /-- The words do not make sense. -/
  | refused
  deriving DecidableEq

inductive OptionKind where
  | value
  | flag
  | help
  | version
  deriving DecidableEq

/-- An option, known by a name and maybe by a letter. -/
structure OptionForm where
  name : String
  letter : Option Char := none
  kind : OptionKind := .value
  /-- Which values are permitted. -/
  permits : String → Bool := fun _ => true

structure Grammar where
  options : List OptionForm
  /-- The first operand is the name of a command, which has a grammar of its own. -/
  endsAtOperand : Bool := false
  most : Option Nat := none
  /-- Which operands are permitted. -/
  permits : String → Bool := fun _ => true

/-- What has been told by words. -/
structure Told where
  /-- The options, with the values of those that have one. -/
  options : List (String × String) := []
  operands : List String := []
  deriving DecidableEq

namespace Told

def value? (t : Told) (name : String) : Option String := t.options.lookup name

def has (t : Told) (name : String) : Bool := (t.value? name).isSome

end Told

/-- A word by its shape. -/
inductive Word where
  | endOfOptions
  | long (name : String) (value : Option String)
  | short (letter : Char) (value : Option String)
  | plain
  deriving DecidableEq

namespace Word

/-- A hyphen alone is not an option. -/
def ofText (s : String) : Word :=
  match s.toList with
  | ['-', '-'] => .endOfOptions
  | '-' :: '-' :: cs =>
    let name := String.ofList (cs.takeWhile (· != '='))
    match cs.dropWhile (· != '=') with
    | [] => .long name none
    | _ :: value => .long name (some (String.ofList value))
  | '-' :: c :: cs =>
    match cs with
    | [] => .short c none
    | '=' :: value => .short c (some (String.ofList value))
    | value => .short c (some (String.ofList value))
  | _ => .plain

end Word

namespace Grammar

/-- The option of a word, and the value that is written together with it. -/
def option? (g : Grammar) : Word → Option (OptionForm × Option String)
  | .long name value => (g.options.find? (·.name == name)).map fun form => (form, value)
  | .short letter value =>
    (g.options.find? (·.letter == some letter)).map fun form => (form, value)
  | _ => none

/-- An option is told once. -/
def tell (form : OptionForm) (value : String) (t : Told) : Except Stop Told :=
  if t.has form.name || !form.permits value then .error .refused
  else .ok { t with options := (form.name, value) :: t.options }

def addOperand (g : Grammar) (t : Told) (s : String) : Except Stop Told :=
  let room := match g.most with
    | some n => decide (t.operands.length < n)
    | none => true
  if room && g.permits s then .ok { t with operands := t.operands ++ [s] } else .error .refused

/-- What the words tell, and those from the name of a command on. -/
def read (g : Grammar) (t : Told) : List String → Except Stop (Told × List String)
  | [] => .ok (t, [])
  | s :: rest =>
    match Word.ofText s with
    | .plain =>
      if g.endsAtOperand then .ok (t, s :: rest)
      else
        match g.addOperand t s with
        | .ok t => g.read t rest
        | .error stop => .error stop
    | .endOfOptions =>
      if g.endsAtOperand then .error .refused
      else
        match rest.foldlM g.addOperand t with
        | .ok t => .ok (t, [])
        | .error stop => .error stop
    | word =>
      match g.option? word with
      | none => .error .refused
      | some (form, some value) =>
        match form.kind, word with
        | .value, _ =>
          match tell form value t with
          | .ok t => g.read t rest
          | .error stop => .error stop
        | .help, .short .. => .error .helpWanted
        | .version, .short .. => .error .versionWanted
        | _, _ => .error .refused
      | some (form, none) =>
        match form.kind with
        | .help => .error .helpWanted
        | .version => .error .versionWanted
        | .flag =>
          match tell form "" t with
          | .ok t => g.read t rest
          | .error stop => .error stop
        | .value =>
          match rest with
          | [] => .error .refused
          | value :: rest =>
            if Word.ofText value = .plain then
              match tell form value t with
              | .ok t => g.read t rest
              | .error stop => .error stop
            else .error .refused

end Grammar

end Provisioning.CommandLine
