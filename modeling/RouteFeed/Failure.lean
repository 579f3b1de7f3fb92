/-! Failures: a kind, which decides who catches it, and a message. -/
namespace RouteFeed

/-- What can go wrong between a client and a server. -/
inductive TransportFault where
  | connect
  | connectTimeout
  | read
  | readTimeout
  | protocol
  | decoding
  deriving DecidableEq

inductive FailureKind where
  | usage
  /-- A name or number that is no registered data interface. -/
  | backendNotFound
  | optionNotFound
  | optionMismatch
  | sessionState
  /-- A session started without a time window. -/
  | noWindow
  | backendInit
  /-- A source that failed while it was read. -/
  | backend
  /-- An element that does not fit the output buffer, with the part of its line that does. -/
  | render (truncated : String)
  | cancelled
  /-- A command-line value that cannot be converted. -/
  | badArgument
  | badUrl
  | hostName
  | hostCharacter
  /-- A character of a host name that may not stand beside its neighbours. -/
  | hostContext
  | hostDirection
  /-- Bytes that are no text in their character set. -/
  | undecodable
  /-- A text that a character set cannot hold. -/
  | unencodable
  /-- A condition that was taken for granted does not hold. -/
  | assertion
  | transport (fault : TransportFault)
  | badValue
  | wrongShape
  | noOperation
  | noPosition
  | noKey
  | overflow
  | tooDeep
  | runtime
  | system
  | timeout
  /-- The end of a sequence where more was asked for. -/
  | endOfSequence
  deriving DecidableEq

/-- A failure, with the text that reports it. -/
structure Failure where
  kind : FailureKind
  message : String
  deriving DecidableEq

namespace Failure

def usage (message : String) : Failure := ⟨.usage, message⟩
def badValue (message : String) : Failure := ⟨.badValue, message⟩
def wrongShape (message : String) : Failure := ⟨.wrongShape, message⟩
def noOperation (message : String) : Failure := ⟨.noOperation, message⟩

def cancelled : Failure := ⟨.cancelled, ""⟩

def backendNotFound (name : String) : Failure :=
  ⟨.backendNotFound, s!"Invalid data interface name '{name}'"⟩

def optionNotFound (backend option : String) : Failure :=
  ⟨.optionNotFound, s!"Invalid option '{option}' for data interface '{backend}'"⟩

/-- An option of one data interface, set on another. -/
def optionMismatch (option owner active : String) : Failure :=
  ⟨.optionMismatch, s!"Option '{option}' belongs to data interface '{owner}', not '{active}'"⟩

def noWindow : Failure := ⟨.noWindow, "At least one time window must be specified using -w"⟩

def elementTooLong (truncated : String) : Failure :=
  ⟨.render truncated, "Failed to construct elem string"⟩

def backendInit (message : String) : Failure := ⟨.backendInit, message⟩

/-- The source failed while it was read. -/
def backend (message : String) : Failure := ⟨.backend, message⟩

/-- Failures of the exchange with a server. -/
def isTransport (f : Failure) : Bool :=
  match f.kind with
  | .transport _ => true
  | _ => false

end Failure
end RouteFeed
