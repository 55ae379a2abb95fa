import DevEnv.Container.Payload
import DevEnv.Json.Misuse
import DevEnv.Text.Quoted
import DevEnv.Time.Display
import DevEnv.Workspace

/-!
What can go wrong between the program and a container engine. Failures of the engine layer form a
small tree and carry a message for the user; all others are shown as if the engine had not answered.
-/

namespace DevEnv

set_option autoImplicit false

/-- A failure of the engine layer. -/
inductive EngineFailure
  | plain (message : String)
  /-- The engine answered, and the answer is a failure. -/
  | answered (message : String) (status : Option Int)
  | docker (message : String) (status : Option Int)
  | imageMissing (message : String)
  | containerMissing (message : String)
  /-- A build that failed, with the output it had produced by then. -/
  | buildFailed (message : String) (logs : List Json) (status : Option Int)
  /-- A draft of which no build file can be made. -/
  | incomplete (message : String)
  | unreachable (message : String)
  /-- A request that does not fit the stage at hand. -/
  | notNow (message : String)
deriving DecidableEq, Repr

namespace EngineFailure

def message : EngineFailure → String
  | plain m | answered m _ | docker m _ | imageMissing m | containerMissing m | buildFailed m _ _
  | incomplete m | unreachable m | notNow m => m

/-- Failures that are answers of the engine. -/
def isAnswer : EngineFailure → Bool
  | plain _ | unreachable _ | notNow _ => false
  | _ => true

/-- Answers that come from the container daemon. -/
def isDocker : EngineFailure → Bool
  | docker .. | imageMissing _ | containerMissing _ | buildFailed .. => true
  | _ => false

/-- The status of an answer. -/
def status : EngineFailure → Option Int
  | answered _ s | docker _ s | buildFailed _ _ s => s
  | imageMissing _ | containerMissing _ => some 404
  | incomplete _ => some 400
  | _ => none

/-- The build output that a failure carries. -/
def logs : EngineFailure → List Json
  | buildFailed _ logs _ => logs
  | _ => []

end EngineFailure

/-- A failure that the engine layer does not foresee. -/
inductive Unforeseen
  | runtime (message : String)
  | value (message : String)
  /-- The connection to the daemon broke. -/
  | connection (message : String)
  /-- A value of a draft was used as one of another type. -/
  | misuse (m : Json.Misuse)
  | payload (fault : PayloadFault)
  | display (fault : Timestamp.DisplayFault)
  /-- A state file that ends the program. -/
  | stateFile (fault : StateFile.Fault)
  | file (fault : FileFault)
  /-- Half of a surrogate pair where a text is printed or written. -/
  | unencodable
  /-- Half of a surrogate pair where a state is kept. -/
  | unkeepable
  /-- A path with a null character in it. -/
  | nullInPath
deriving DecidableEq, Repr

inductive Failure
  | engine (e : EngineFailure)
  | unforeseen (u : Unforeseen)
deriving DecidableEq, Repr

/-- The wording for a failure of a payload. -/
def PayloadFault.message : PayloadFault → String
  | wrongUse operation type => "'" ++ type ++ "' object has no attribute '" ++ operation ++ "'"
  | notIterable type => "'" ++ type ++ "' object is not iterable"
  | notIndexable type => "'" ++ type ++ "' object is not subscriptable"
  | noFirstItem => "0"
  | notNumber type =>
    "int() argument must be a string, a bytes-like object or a real number, not '" ++ type ++ "'"
  | notPattern => "expected string or bytes-like object"
  | unreadableInteger => "invalid literal for int()"
  | infinite => "cannot convert float infinity to integer"
  | invalid misfit => misfit.report

namespace Unforeseen

def message : Unforeseen → String
  | runtime m | value m | connection m => m
  | misuse m => m.message
  | payload fault => fault.message
  | display .tooWide => "timestamp out of range for platform time_t"
  | display .noYear => "Value too large for defined data type"
  | display .yearOutOfRange => "year is out of range"
  | stateFile fault => fault.message
  | file fault => fault.message
  | unencodable | unkeepable => "surrogates not allowed"
  | nullInPath => "embedded null byte"

/-- The kind of a failure to use a value, as the log names it. -/
def misuseKind : Json.Misuse → String
  | .noKey _ | .noText _ => "TypeError"
  | .noOperation .. => "AttributeError"

/-- The kind of a failure to use a file, as the log names it. -/
def fileKind : FileFault → String
  | .isDirectory => "IsADirectoryError"
  | .missing => "FileNotFoundError"
  | .notDirectory => "NotADirectoryError"
  | .occupied => "FileExistsError"
  | .nameTooLong => "OSError"

/-- The kind of a failure, as the log names it. -/
def kind : Unforeseen → String
  | runtime _ => "RuntimeError"
  | value _ | payload .unreadableInteger | display .yearOutOfRange | stateFile .integerTooLong
  | nullInPath => "ValueError"
  | connection _ => "ConnectionError"
  | misuse m => misuseKind m
  | payload (.wrongUse ..) => "AttributeError"
  | payload .noFirstItem => "KeyError"
  | payload (.invalid _) => "ValidationError"
  | payload .infinite | display .tooWide => "OverflowError"
  | payload _ => "TypeError"
  | display .noYear => "OSError"
  | stateFile .undecodable => "UnicodeDecodeError"
  | stateFile (.tooDeep _) => "RecursionError"
  | file fault => fileKind fault
  | unencodable => "UnicodeEncodeError"
  | unkeepable => "PydanticSerializationError"

/-- The failure with its kind, as it stands in the log. -/
def logText (u : Unforeseen) : String := u.kind ++ "(" ++ Text.quoted u.message ++ ")"

end Unforeseen

namespace Failure

/-- What a user is told when the engine gave no answer. -/
def noAnswer : String := "Unable to reach the container engine. Please try again."

/-- What a user is told. -/
def describe : Failure → String
  | .engine (.unreachable _) => noAnswer
  | .engine e => e.message
  | .unforeseen _ => noAnswer

end Failure

inductive LogLevel
  | warning
  | error
deriving DecidableEq, Repr

structure LogEntry where
  level : LogLevel
  message : String
deriving DecidableEq, Repr

end DevEnv
