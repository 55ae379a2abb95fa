import DevEnv.Json.Basic

/-!
The container daemon as its client library shows it: operations on a state of its own, any of which
may raise one of the library's faults.
-/

namespace DevEnv.Daemon

set_option autoImplicit false

inductive ResponseKind
  | general
  | notFound
  | imageNotFound
deriving DecidableEq, Repr

/-- A response of the daemon that reports an error. -/
structure ErrorResponse where
  kind : ResponseKind
  message : String
  status : Option Int
  reason : Option String
  url : Option String
  explanation : Option String
deriving DecidableEq, Repr

namespace ErrorResponse

/-- The status line of a client or server error, the bare message for any other status. -/
def headline (r : ErrorResponse) : String :=
  let blamed (side : String) (n : Int) : String :=
    toString n ++ " " ++ side ++ " Error for " ++ r.url.getD "None" ++ ": " ++ r.reason.getD "None"
  match r.status with
  | some n =>
    if 400 ≤ n ∧ n < 500 then blamed "Client" n
    else if 500 ≤ n ∧ n < 600 then blamed "Server" n
    else r.message
  | none => r.message

/-- The whole text, with the explanation if there is one. -/
def text (r : ErrorResponse) : String :=
  match r.explanation with
  | some e => if e.isEmpty then r.headline else r.headline ++ " (\"" ++ e ++ "\")"
  | none => r.headline

/-- The explanation, or the whole text for want of one. -/
def reading (r : ErrorResponse) : String :=
  match r.explanation with
  | some e => if e.isEmpty then r.text else e
  | none => r.text

end ErrorResponse

/-- What the client library raises. -/
inductive Fault
  | response (r : ErrorResponse)
  | build (message : String) (log : List Json)
  | library (message : String)
  /-- The connection broke; not one of the library's own errors. -/
  | connection (message : String)
  | runtime (message : String)
  /-- The user ended the program. -/
  | interrupt
deriving Repr

def Fault.text : Fault → String
  | .response r => r.text
  | .build m _ | .library m | .connection m | .runtime m => m
  | .interrupt => ""

structure BuildOrder where
  /-- The text of the build file. -/
  dockerfile : String
  tag : String
  nocache : Bool
  pull : Bool
deriving DecidableEq, Repr

/-- A file of a build context. -/
structure ContextFile where
  name : String
  mode : Nat
  content : ByteArray

/-- The files that the daemon gets to build from. -/
def BuildOrder.context (o : BuildOrder) : List ContextFile :=
  [⟨"Dockerfile", 0o644, o.dockerfile.toUTF8⟩]

structure RunOrder where
  image : String
  name : String
  /-- Host ports by container port; none where no port is published. -/
  ports : Option (List (String × Json))
  env : Option (List String)
deriving DecidableEq, Repr

/-- An operation of a client with state `σ`. -/
abbrev Operation (σ α : Type) := StateM σ (Except Fault α)

structure Client (σ : Type) where
  connect : Operation σ Unit
  ping : Operation σ Unit
  /-- The output of a build, in chunks. -/
  build : BuildOrder → Operation σ (List Json)
  /-- The id of a started container. -/
  run : RunOrder → Operation σ String
  /-- The payloads of all containers, or only of those that run. -/
  list : Bool → Operation σ (List Json)
  get : String → Operation σ Json
  start : Operation σ Unit
  stop : Operation σ Unit
  remove : Bool → Operation σ Unit

end DevEnv.Daemon
