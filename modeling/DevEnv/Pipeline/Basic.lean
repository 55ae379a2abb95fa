import DevEnv.Daemon.Service
import DevEnv.Dockerfile.Generation
import DevEnv.ImageName

/-!
The way of one environment from its draft to a running container: generate a build file, build an
image, run a container. Every request takes a token of its kind, and an answer counts only while its
token is the latest one; a new draft outdates whatever is under way.
-/

namespace DevEnv

set_option autoImplicit false

inductive Stage
  | idle
  | generating
  | ready
  | generateError
  | building
  | built
  | buildError
  | running
  | ran
  | runError
deriving DecidableEq, Repr

def Stage.name : Stage → String
  | idle => "idle"
  | generating => "generating"
  | ready => "ready"
  | generateError => "generate_error"
  | building => "building"
  | built => "built"
  | buildError => "build_error"
  | running => "running"
  | ran => "ran"
  | runError => "run_error"

/-- The kinds of requests to the engine. -/
inductive Task
  | generate
  | build
  | run
deriving DecidableEq, Repr

def Task.name : Task → String
  | generate => "generate"
  | build => "build"
  | run => "run"

/-- What a caller may say about the container to run. -/
structure RunOptions where
  name : Option String
  env : List String
deriving DecidableEq, Repr

/-- The latest token of each kind. -/
structure Tokens where
  generate : Nat
  build : Nat
  run : Nat
deriving DecidableEq, Repr

namespace Tokens

def latest (t : Tokens) : Task → Nat
  | .generate => t.generate
  | .build => t.build
  | .run => t.run

def issue (t : Tokens) : Task → Tokens
  | .generate => { t with generate := t.generate + 1 }
  | .build => { t with build := t.build + 1 }
  | .run => { t with run := t.run + 1 }

end Tokens

structure Pipeline where
  stage : Stage
  draft : Option Draft
  document : Option Dockerfile
  tag : Option String
  logs : List Json
  containerId : Option String
  error : Option String
  tokens : Tokens
deriving DecidableEq, Repr

/-- A pipeline after a step, with the stages that were announced on the way. -/
structure Move where
  pipeline : Pipeline
  announced : List Stage
deriving DecidableEq, Repr

namespace Pipeline

def initial : Pipeline := ⟨.idle, none, none, none, [], none, none, ⟨0, 0, 0⟩⟩

def enter (p : Pipeline) (s : Stage) : Move := ⟨{ p with stage := s }, [s]⟩

/-- No step at all. -/
def stay (p : Pipeline) : Move := ⟨p, []⟩

/-- What the log says of a failure that the engine layer did not foresee. -/
def logOf (task : Task) : Failure → List LogEntry
  | .engine _ => []
  | .unforeseen u =>
    [⟨.error, "Unexpected error during " ++ task.name ++ ": " ++ u.logText⟩]

/-! ### Generating -/

/-- Starts over with a draft; all that belonged to the previous one is discarded. -/
def generate (p : Pipeline) (draft : Draft) : Move :=
  enter { p with
    draft := some draft
    document := none
    tag := none
    logs := []
    containerId := none
    error := none
    tokens := ((p.tokens.issue .generate).issue .build).issue .run } .generating

def generated (p : Pipeline) (token : Nat) (answer : Except Failure String) : Move :=
  if p.tokens.generate ≠ token then p.stay
  else match answer with
    | .ok text => enter { p with document := some (.ofText text) } .ready
    | .error f => enter { p with error := some f.describe } .generateError

/-- What the caller of a generation gets back. -/
def generatedValue (p : Pipeline) (token : Nat) : Except Failure String → Option Dockerfile
  | .ok text => if p.tokens.generate ≠ token then none else some (.ofText text)
  | .error _ => none

/-! ### Building -/

/-- Stages in which an image can be built. -/
def canBuild (p : Pipeline) : Bool := p.stage == .ready || p.stage == .buildError

/-- The text of the build file at hand. -/
def documentText (p : Pipeline) : String := ((p.document).map Dockerfile.text).getD ""

/-- The name of the draft at hand. -/
def nameOf (p : Pipeline) : Except Json.Misuse (Option String) :=
  ImageName.ofValue ((p.draft.map Draft.name).getD .null)

/-- What is given, or what the name of the draft at hand gives for want of it. An empty text is no
more than none. -/
def givenOr (p : Pipeline) (given : Option String) (make : Option String → String) :
    Except Json.Misuse String :=
  match given with
  | some s => if s.isEmpty then p.nameOf.map make else .ok s
  | none => p.nameOf.map make

/-- The tag of a build: a given one, or that of the draft's name. -/
def tagFor (p : Pipeline) (given : Option String) : Except Json.Misuse String :=
  p.givenOr given ImageName.tag

/-- A request that takes its token and comes to nothing. -/
def waste (p : Pipeline) (task : Task) : Pipeline := { p with tokens := p.tokens.issue task }

/-- Starts to build under a tag. -/
def build (p : Pipeline) (tag : String) : Move :=
  enter { p with
    tag := some tag
    logs := []
    error := none
    tokens := p.tokens.issue .build } .building

def built (p : Pipeline) (token : Nat) (answer : Except Failure BuildResult) : Move :=
  if p.tokens.build ≠ token then p.stay
  else match answer with
    | .ok result =>
      enter { p with logs := p.logs ++ result.logs, tag := some result.tag } .built
    | .error (.engine e) =>
      enter
        { p with logs := p.logs ++ e.logs, error := some (Failure.engine e).describe } .buildError
    | .error f => enter { p with error := some f.describe } .buildError

/-- Whether the caller of a build learns that it succeeded. -/
def builtValue (p : Pipeline) (token : Nat) : Except Failure BuildResult → Bool
  | .ok _ => p.tokens.build == token
  | .error _ => false

/-! ### Running -/

def canRun (p : Pipeline) : Bool := p.stage == .built

/-- The name of a container: a given one, or one made of the draft's name and a suffix. -/
def containerName (p : Pipeline) (suffix : String) (given : Option String) :
    Except Json.Misuse String :=
  p.givenOr given fun name => ImageName.container name suffix

/-- The port that a draft publishes for remote logins. -/
def publishedPorts (d : Draft) : Except Json.Misuse (List (Json × Int)) :=
  match d.ssh with
  | some a =>
    if a.enabled then a.port.lookedUp.map fun _ => [(a.port, Catalog.sshContainerPort)] else .ok []
  | none => .ok []

def runRequest (p : Pipeline) (options : RunOptions) (suffix : String) :
    Except Json.Misuse RunRequest := do
  let name ← p.containerName suffix options.name
  let ports ← match p.draft with
    | some d => publishedPorts d
    | none => .ok []
  return ⟨p.tag.getD "", name, ports, options.env⟩

def run (p : Pipeline) : Move :=
  enter { p with error := none, tokens := p.tokens.issue .run } .running

def ran (p : Pipeline) (token : Nat) (answer : Except Failure String) : Move :=
  if p.tokens.run ≠ token then p.stay
  else match answer with
    | .ok id => enter { p with containerId := some id } .ran
    | .error f => enter { p with error := some f.describe } .runError

/-- What the caller of a run gets back. -/
def ranValue (p : Pipeline) (token : Nat) : Except Failure String → Option String
  | .ok id => if p.tokens.run ≠ token then none else some id
  | .error _ => none

/-- The failure of a request in the wrong stage. -/
def refusal (p : Pipeline) (task : Task) : EngineFailure :=
  .notNow ("Cannot " ++ task.name ++ " while " ++ p.stage.name)

end Pipeline

end DevEnv
