/-
  ScriptDiagnosis/Failure.lean
  ============================
  What can go wrong, as data.  Failures come in kinds, and a kind can be a special case of
  another: who handles one handles all its special cases.  A failure keeps its text and,
  when it was made from another, the kind of that one.

  The kinds below `review` are this library's own.  Only one of them, a failure on the way
  to the reviewer, is worth another attempt.
-/
import ScriptDiagnosis.Text.Basic

namespace ScriptDiagnosis

inductive FailureKind
  /- every failure that a caller may handle -/
  | any
  /- asking the reviewer -/
  | diagnosis
  | unexpected
  | review
  | missingCredential
  | accessDenied
  | transport
  | malformedReply
  /- the provider's client -/
  | provider
  | connection
  | commandNotFound
  | process
  | undecodableLine
  | unreadableMessage
  /- the operating system -/
  | system
  | socket
  | socketReset
  | fileNotFound
  | permission
  | timeout
  | isDirectory
  | notDirectory
  /- values -/
  | value
  | text
  | undecodableBytes
  | unencodableText
  | undecodableReply
  | lookup
  | key
  | index
  | arithmetic
  | zeroDivision
  | overflow
  | wrongType
  | noAttribute
  | assertion
  | runtime
  | recursion
  /-- Any other kind, by its name. -/
  | other (name : Text)
  /-- Not a failure of the work but the end of it: nobody handles this one. -/
  | cancelled
  deriving DecidableEq, Repr

namespace FailureKind

def name : FailureKind → Text
  | any => "Exception"
  | diagnosis => "DiagnosisError"
  | unexpected => "UnexpectedError"
  | review => "AnalysisError"
  | missingCredential => "MissingCredentialError"
  | accessDenied => "AccessDeniedError"
  | transport => "TransportError"
  | malformedReply => "MalformedResponseError"
  | provider => "ClaudeSDKError"
  | connection => "CLIConnectionError"
  | commandNotFound => "CLINotFoundError"
  | process => "ProcessError"
  | undecodableLine => "CLIJSONDecodeError"
  | unreadableMessage => "MessageParseError"
  | system => "OSError"
  | socket => "ConnectionError"
  | socketReset => "ConnectionResetError"
  | fileNotFound => "FileNotFoundError"
  | permission => "PermissionError"
  | timeout => "TimeoutError"
  | isDirectory => "IsADirectoryError"
  | notDirectory => "NotADirectoryError"
  | value => "ValueError"
  | text => "UnicodeError"
  | undecodableBytes => "UnicodeDecodeError"
  | unencodableText => "UnicodeEncodeError"
  | undecodableReply => "JSONDecodeError"
  | lookup => "LookupError"
  | key => "KeyError"
  | index => "IndexError"
  | arithmetic => "ArithmeticError"
  | zeroDivision => "ZeroDivisionError"
  | overflow => "OverflowError"
  | wrongType => "TypeError"
  | noAttribute => "AttributeError"
  | assertion => "AssertionError"
  | runtime => "RuntimeError"
  | recursion => "RecursionError"
  | other n => n
  | cancelled => "CancelledError"

/-- What the kind is a special case of, from the narrowest to the widest. -/
def above : FailureKind → List FailureKind
  | any | cancelled => []
  | diagnosis | provider | system | value | lookup | arithmetic | wrongType | noAttribute
  | assertion | runtime | other _ => [any]
  | unexpected | review => [diagnosis, any]
  | missingCredential | accessDenied | transport | malformedReply => [review, diagnosis, any]
  | connection | process | undecodableLine | unreadableMessage => [provider, any]
  | commandNotFound => [connection, provider, any]
  | socket | fileNotFound | permission | timeout | isDirectory | notDirectory => [system, any]
  | socketReset => [socket, system, any]
  | text | undecodableReply => [value, any]
  | undecodableBytes | unencodableText => [text, value, any]
  | key | index => [lookup, any]
  | zeroDivision | overflow => [arithmetic, any]
  | recursion => [runtime, any]

def lineage (k : FailureKind) : List FailureKind := k :: k.above

/-- Is the kind the given one or a special case of it? -/
def isA (k general : FailureKind) : Bool := k.lineage.contains general

/-- Can a caller handle it? -/
def handled (k : FailureKind) : Bool := k.isA any

/-- Is it a failure to get a review? -/
def ofReview (k : FailureKind) : Bool := k.isA review

/-- Is another attempt worth while?  A failure of the review that is nothing more special
    counts as one on the way. -/
def retryable (k : FailureKind) : Bool := k = transport || k = review

def label : FailureKind → Text
  | missingCredential => "missing_credential"
  | accessDenied => "access_denied"
  | malformedReply => "malformed_response"
  | _ => "transport"

end FailureKind

/-- A failure that has happened. -/
structure Failure where
  kind : FailureKind
  text : Text
  /-- The kind of the failure that this one was made from. -/
  cause : Option FailureKind := none
  deriving DecidableEq, Repr

end ScriptDiagnosis
