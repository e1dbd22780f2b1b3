import Provisioning.Client.ClientFault

/-!
# Faults, shown with their parts

A fault is shown by its kind and its parts rather than in a sentence, for whoever looks for the cause
of it.
-/

namespace Provisioning

namespace CommandLine

/-- A kind with one part. -/
def shownWith (kind part : String) : String := kind ++ "(" ++ part ++ ")"

/-- A kind with named parts. -/
def shownRecord (kind : String) (parts : List (String × String)) : String :=
  kind ++ " \x7b " ++ String.intercalate ", " (parts.map fun (name, part) => name ++ ": " ++ part) ++
    " \x7d"

end CommandLine

open CommandLine

def TransportFault.shown : TransportFault → String
  | .system number kind text =>
    shownRecord "Os" [("code", toString number), ("kind", kind), ("message", Text.quoted text)]
  | .invalidInput text =>
    shownRecord "Error" [("kind", "InvalidInput"), ("message", Text.quoted text)]
  | .lookupFailed reason =>
    shownRecord "Custom" [("kind", "Uncategorized"),
      ("error", Text.quoted (TransportFault.lookupFailed reason).message)]
  | .other text => shownRecord "Custom" [("kind", "Other"), ("error", Text.quoted text)]

def Text.Utf8.Fault.shown : Text.Utf8.Fault → String
  | .invalid length index =>
    shownRecord "Utf8Error" [("valid_up_to", toString index),
      ("error_len", shownWith "Some" (toString length))]
  | .incomplete index =>
    shownRecord "Utf8Error" [("valid_up_to", toString index), ("error_len", "None")]

def Fault.shown : Fault → String
  | .markup => "Xml"
  | .encoding fault => shownWith "Utf8" fault.shown
  | .emptyDocument => shownWith "Malformed" (Text.quoted "empty document")
  | .unexpectedEnd => shownWith "Malformed" (Text.quoted "unexpected end of document")
  | .unexpectedRoot name => shownWith "UnexpectedRoot" (Text.quoted name)
  | .missingElement name => shownWith "MissingElement" (Text.quoted name)
  | .invalidValue field value =>
    shownRecord "InvalidValue" [("field", Text.quoted field), ("value", Text.quoted value)]
  | .unknownContactType name => shownWith "UnknownContactType" (Text.quoted name)
  | .notKind .domain => "NotDomain"
  | .notKind .host => "NotHost"
  | .notKind .contact => "NotContact"
  | .invalidFrameLength declared => shownWith "InvalidFrameLength" (toString declared)
  | .frameTooLarge size max =>
    shownRecord "FrameTooLarge" [("size", toString size), ("max", toString max)]
  | .incompleteFrame needed => shownRecord "IncompleteFrame" [("needed", toString needed)]
  | .noTransactionId => "NoTransactionId"
  | .noServerTransactionId => "NoServerTransactionId"
  | .rejected code message =>
    shownRecord "Rejected" [("code", toString code.toNat), ("message", Text.quoted message)]

def ClientFault.shown : ClientFault → String
  | .transport fault => shownWith "Io" fault.shown
  | .protocol fault => shownWith "Protocol" fault.shown
  | .notConnected => "NotConnected"
  | .connectionClosed => "ConnectionClosed"
  | .timeout => "Timeout"
  | .unexpectedMessage what => shownWith "UnexpectedMessage" (Text.quoted what)
  | .rejected code message =>
    shownRecord "Rejected" [("code", toString code.toNat), ("message", Text.quoted message)]
  | .missingData what => shownWith "MissingResultData" (Text.quoted what)

end Provisioning
