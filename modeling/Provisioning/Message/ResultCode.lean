/-!
# Result codes

Every response carries a code of four digits. The first digit tells success from failure, the second
what the failure is about; the codes from 2500 to 2599 end the session.
-/

namespace Provisioning

/-- A code of a failed command. -/
def isErrorCode (code : UInt16) : Bool := 2000 ≤ code && code ≤ 2999

/-- A code that ends the session. -/
def isFatalCode (code : UInt16) : Bool := 2500 ≤ code && code ≤ 2599

/-- The codes that a server of this library may answer with. -/
inductive ResultCode where
  | commandSuccessful
  | commandSuccessfulPending
  | completedNoMessages
  | completedAckToDequeue
  | completedEndingSession
  | unknownCommand
  | commandSyntaxError
  | commandUseError
  | requiredParameterMissing
  | parameterValueRangeError
  | parameterValueSyntaxError
  | unimplementedProtocolVersion
  | unimplementedCommand
  | unimplementedOption
  | unimplementedExtension
  | billingFailure
  | objectNotEligibleForRenewal
  | objectNotEligibleForTransfer
  | authenticationError
  | authorizationError
  | invalidAuthorizationInformation
  | objectPendingTransfer
  | objectNotPendingTransfer
  | objectExists
  | objectDoesNotExist
  | objectStatusProhibitsOperation
  | objectAssociationProhibitsOperation
  | parameterValuePolicyError
  | unimplementedObjectService
  | dataManagementPolicyViolation
  | commandFailed
  | commandFailedClosing
  | authenticationErrorClosing
  | sessionLimitExceededClosing
  deriving DecidableEq, Repr

namespace ResultCode

/-- All codes, in ascending order. -/
def all : List ResultCode := [
  .commandSuccessful, .commandSuccessfulPending, .completedNoMessages, .completedAckToDequeue,
  .completedEndingSession, .unknownCommand, .commandSyntaxError, .commandUseError,
  .requiredParameterMissing, .parameterValueRangeError, .parameterValueSyntaxError,
  .unimplementedProtocolVersion, .unimplementedCommand, .unimplementedOption,
  .unimplementedExtension, .billingFailure, .objectNotEligibleForRenewal,
  .objectNotEligibleForTransfer, .authenticationError, .authorizationError,
  .invalidAuthorizationInformation, .objectPendingTransfer, .objectNotPendingTransfer,
  .objectExists, .objectDoesNotExist, .objectStatusProhibitsOperation,
  .objectAssociationProhibitsOperation, .parameterValuePolicyError, .unimplementedObjectService,
  .dataManagementPolicyViolation, .commandFailed, .commandFailedClosing,
  .authenticationErrorClosing, .sessionLimitExceededClosing]

/-- The number of a code. -/
def code : ResultCode → UInt16
  | .commandSuccessful => 1000
  | .commandSuccessfulPending => 1001
  | .completedNoMessages => 1300
  | .completedAckToDequeue => 1301
  | .completedEndingSession => 1500
  | .unknownCommand => 2000
  | .commandSyntaxError => 2001
  | .commandUseError => 2002
  | .requiredParameterMissing => 2003
  | .parameterValueRangeError => 2004
  | .parameterValueSyntaxError => 2005
  | .unimplementedProtocolVersion => 2100
  | .unimplementedCommand => 2101
  | .unimplementedOption => 2102
  | .unimplementedExtension => 2103
  | .billingFailure => 2104
  | .objectNotEligibleForRenewal => 2105
  | .objectNotEligibleForTransfer => 2106
  | .authenticationError => 2200
  | .authorizationError => 2201
  | .invalidAuthorizationInformation => 2202
  | .objectPendingTransfer => 2300
  | .objectNotPendingTransfer => 2301
  | .objectExists => 2302
  | .objectDoesNotExist => 2303
  | .objectStatusProhibitsOperation => 2304
  | .objectAssociationProhibitsOperation => 2305
  | .parameterValuePolicyError => 2306
  | .unimplementedObjectService => 2307
  | .dataManagementPolicyViolation => 2308
  | .commandFailed => 2400
  | .commandFailedClosing => 2500
  | .authenticationErrorClosing => 2501
  | .sessionLimitExceededClosing => 2502

/-- The code of a number. -/
def ofCode? (n : UInt16) : Option ResultCode := all.find? (·.code == n)

/-- What a code says. -/
def message : ResultCode → String
  | .commandSuccessful => "Command completed successfully"
  | .commandSuccessfulPending => "Command completed successfully; action pending"
  | .completedNoMessages => "Command completed successfully; no messages"
  | .completedAckToDequeue => "Command completed successfully; ack to dequeue"
  | .completedEndingSession => "Command completed successfully; ending session"
  | .unknownCommand => "Unknown command"
  | .commandSyntaxError => "Command syntax error"
  | .commandUseError => "Command use error"
  | .requiredParameterMissing => "Required parameter missing"
  | .parameterValueRangeError => "Parameter value range error"
  | .parameterValueSyntaxError => "Parameter value syntax error"
  | .unimplementedProtocolVersion => "Unimplemented protocol version"
  | .unimplementedCommand => "Unimplemented command"
  | .unimplementedOption => "Unimplemented option"
  | .unimplementedExtension => "Unimplemented extension"
  | .billingFailure => "Billing failure"
  | .objectNotEligibleForRenewal => "Object is not eligible for renewal"
  | .objectNotEligibleForTransfer => "Object is not eligible for transfer"
  | .authenticationError => "Authentication error"
  | .authorizationError => "Authorization error"
  | .invalidAuthorizationInformation => "Invalid authorization information"
  | .objectPendingTransfer => "Object pending transfer"
  | .objectNotPendingTransfer => "Object not pending transfer"
  | .objectExists => "Object exists"
  | .objectDoesNotExist => "Object does not exist"
  | .objectStatusProhibitsOperation => "Object status prohibits operation"
  | .objectAssociationProhibitsOperation => "Object association prohibits operation"
  | .parameterValuePolicyError => "Parameter value policy error"
  | .unimplementedObjectService => "Unimplemented object service"
  | .dataManagementPolicyViolation => "Data management policy violation"
  | .commandFailed => "Command failed"
  | .commandFailedClosing => "Command failed; server closing connection"
  | .authenticationErrorClosing => "Authentication error; server closing connection"
  | .sessionLimitExceededClosing => "Session limit exceeded; server closing connection"

/-- The number and what it says. -/
def text (c : ResultCode) : String := toString c.code.toNat ++ " " ++ c.message

def isError (c : ResultCode) : Bool := isErrorCode c.code

def isFatal (c : ResultCode) : Bool := isFatalCode c.code

theorem mem_all (c : ResultCode) : c ∈ all := by cases c <;> decide

/-- No two codes have one number. -/
theorem ofCode?_code (c : ResultCode) : ofCode? c.code = some c := by cases c <;> decide

end ResultCode

/-- A code that ends the session is one of a failed command. -/
theorem isErrorCode_of_isFatalCode {code : UInt16} (h : isFatalCode code = true) :
    isErrorCode code = true := by
  simp only [isFatalCode, isErrorCode, Bool.and_eq_true, decide_eq_true_eq] at *
  exact ⟨UInt16.le_trans (by decide) h.1, UInt16.le_trans h.2 (by decide)⟩

end Provisioning
