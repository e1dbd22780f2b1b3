import Provisioning.Object.Kind
import Provisioning.Message.Transfer

/-!
# Tags of messages

What a message is: its verb and the kind of its object. A message that is meant to have exactly one
part has the tag of that part; with no part or several its tag says only what it is a part of.
-/

namespace Provisioning

/-- The only candidate that is there; the fallback when there is none or there are several. -/
def soleOr {α : Type} (fallback : α) (candidates : List (Option α)) : α :=
  match candidates.reduceOption with
  | [x] => x
  | _ => fallback

/-- The only kind that is there. -/
def soleKind (domain host contact : Bool) : Option ObjectKind :=
  let candidate (present : Bool) (k : ObjectKind) : Option (Option ObjectKind) :=
    if present then some (some k) else none
  soleOr none [candidate domain .domain, candidate host .host, candidate contact .contact]

/-- What a command is. -/
inductive CommandTag where
  | unclassified
  | login
  | logout
  | poll
  | check (kind : Option ObjectKind)
  | create (kind : Option ObjectKind)
  | delete (kind : Option ObjectKind)
  | info (kind : Option ObjectKind)
  | update (kind : Option ObjectKind)
  | renew (kind : Option ObjectKind)
  | transfer (step : Option (ObjectKind × TransferOp))
  deriving DecidableEq

/-- What a response is. -/
inductive ResponseTag where
  | unclassified
  | check (kind : ObjectKind)
  | create (kind : ObjectKind)
  | info (kind : ObjectKind)
  | renew (kind : ObjectKind)
  | transfer (kind : ObjectKind)
  deriving DecidableEq

/-- What a message is. -/
inductive Tag where
  | unclassified
  | greeting
  | hello
  | command (tag : CommandTag)
  | response (tag : ResponseTag)
  deriving DecidableEq

/-- The name of a verb and its kind. -/
def CommandTag.verbText (verb : String) (kind : Option ObjectKind) : String :=
  match kind with
  | none => "epp.command." ++ verb
  | some k => "epp.command." ++ verb ++ "." ++ k.label

def CommandTag.text : CommandTag → String
  | .unclassified => "epp.command"
  | .login => "epp.command.login"
  | .logout => "epp.command.logout"
  | .poll => "epp.command.poll"
  | .check kind => verbText "check" kind
  | .create kind => verbText "create" kind
  | .delete kind => verbText "delete" kind
  | .info kind => verbText "info" kind
  | .update kind => verbText "update" kind
  | .renew kind => verbText "renew" kind
  | .transfer none => "epp.command.transfer"
  | .transfer (some (kind, op)) => "epp.command.transfer." ++ kind.label ++ "." ++ op.label

/-- The kind of the objects is known, or the verb has none. -/
def CommandTag.isClassified : CommandTag → Bool
  | .unclassified => false
  | .login => true
  | .logout => true
  | .poll => true
  | .check kind => kind.isSome
  | .create kind => kind.isSome
  | .delete kind => kind.isSome
  | .info kind => kind.isSome
  | .update kind => kind.isSome
  | .renew kind => kind.isSome
  | .transfer step => step.isSome

def ResponseTag.text : ResponseTag → String
  | .unclassified => "epp.response"
  | .check k => "epp.response." ++ k.label ++ ".check"
  | .create k => "epp.response." ++ k.label ++ ".create"
  | .info k => "epp.response." ++ k.label ++ ".info"
  | .renew k => "epp.response." ++ k.label ++ ".renew"
  | .transfer k => "epp.response." ++ k.label ++ ".transfer"

def Tag.text : Tag → String
  | .unclassified => "epp.generic"
  | .greeting => "epp.greeting"
  | .hello => "epp.hello"
  | .command tag => tag.text
  | .response tag => tag.text

/-- The tag of the command that a message is. -/
def Tag.command? : Tag → Option CommandTag
  | .command tag => some tag
  | _ => none

end Provisioning
