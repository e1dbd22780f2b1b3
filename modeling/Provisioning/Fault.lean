import Provisioning.Object.Kind
import Provisioning.Text.Quoted
import Provisioning.Text.Utf8

/-!
# Faults of messages and frames

Why a document, a message or a frame is not accepted. Each cause is a constructor; the wording is in
one function.
-/

namespace Provisioning

/-- A cause for which a message is not accepted. -/
inductive Fault where
  /-- The document breaks the rules of markup. -/
  | markup
  /-- The bytes are not text. -/
  | encoding (fault : Text.Utf8.Fault)
  /-- The document ends before its root element begins. -/
  | emptyDocument
  /-- The document ends inside its root element. -/
  | unexpectedEnd
  | unexpectedRoot (name : String)
  | missingElement (name : String)
  | invalidValue (field value : String)
  | unknownContactType (name : String)
  /-- Information about an object is not about the kind asked for. -/
  | notKind (kind : ObjectKind)
  /-- The header of a frame declares less than its own length. -/
  | invalidFrameLength (declared : Nat)
  | frameTooLarge (size max : Nat)
  | incompleteFrame (needed : Nat)
  | noTransactionId
  | noServerTransactionId
  /-- A response carries the result code of an error. -/
  | rejected (code : UInt16) (message : String)
  deriving DecidableEq

/-- The text that goes with a fault. -/
def Fault.message : Fault → String
  | .markup => "malformed XML"
  | .encoding fault => "invalid UTF-8 in message: " ++ fault.message
  | .emptyDocument => "malformed document: empty document"
  | .unexpectedEnd => "malformed document: unexpected end of document"
  | .unexpectedRoot name => s!"unexpected root element <{name}>, expected <epp>"
  | .missingElement name => s!"missing required element <{name}>"
  | .invalidValue field value => s!"invalid value {Text.quoted value} for {field}"
  | .unknownContactType name => s!"unknown contact type: {name}"
  | .notKind kind => s!"info data does not describe a {kind.label}"
  | .invalidFrameLength declared =>
    s!"invalid frame length: {declared} (must include the 4 byte header)"
  | .frameTooLarge size max => s!"frame too large: {size} bytes (max {max})"
  | .incompleteFrame needed => s!"incomplete frame: need {needed} more bytes"
  | .noTransactionId => "no transaction found"
  | .noServerTransactionId => "no server transaction id found"
  | .rejected _ message => message

/-- What a reader of messages answers. -/
abbrev Reading (α : Type) := Except Fault α

end Provisioning
