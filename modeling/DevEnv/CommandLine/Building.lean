import DevEnv.CommandLine.Session
import DevEnv.Container.Display
import DevEnv.Pipeline.Basic

/-!
The commands that lead from the configuration to a build file, an image and a container.
-/

namespace DevEnv.CommandLine

set_option autoImplicit false

variable {σ : Type}

/-- What is said of the stage in which a pipeline failed. -/
def failedStep : Stage → String
  | .generateError => "Generation failed"
  | .buildError => "Build failed"
  | .runError => "Run failed"
  | _ => "Failed"

/-- Ends with the failure of a pipeline. -/
def reportFailure {α : Type} (p : Pipeline) : CommandM σ α := do
  complain (failedStep p.stage ++ ": " ++ p.error.getD "None")
  throw (.status 1)

/-- What the log says of an answer. -/
def logOf {α : Type} (task : Task) : Except Failure α → List LogEntry
  | .ok _ => []
  | .error f => Pipeline.logOf task f

/-- Generates the build file of an environment. -/
def generation (e : Environment) : CommandM σ Pipeline := do
  let p := (Pipeline.initial.generate e.toDraft).pipeline
  let (log, answer) := e.toDraft.generate
  record (log ++ logOf .generate answer)
  return (p.generated p.tokens.generate answer).pipeline

/-- Writes a build file under a path. A text that cannot be written leaves an empty file. -/
def writeFile (path text : String) : CommandM σ Unit := do
  match (← get).files.target path with
  | .error fault => crash (.file fault)
  | .ok place =>
    let broken ← isBroken text
    let content := if broken then .empty else text.toUTF8
    modify fun t => { t with files := t.files.put place (.file content) }
    if broken then crash .unencodable

/-- Prints a build file. -/
def printFile (text : String) : CommandM σ Unit := do
  if ← isBroken text then crash .unencodable
  write text

def generate (output : Option String) : CommandM σ Unit := do
  let p ← generation (← environment)
  match p.document with
  | none => reportFailure p
  | some document =>
    let path := output.getD ""
    if path.isEmpty then printFile document.text
    else
      writeFile path document.text
      echo ("Dockerfile written to " ++ path)

/-- The value, unless a draft makes it impossible. -/
def orMisuse {α : Type} : Except Json.Misuse α → CommandM σ α
  | .ok a => return a
  | .error misuse => crash (.misuse misuse)

/-- Prints output of a build; a null prints nothing. -/
def writeOutput (v : Json) : CommandM σ Unit := if v = .null then return () else write v.display

/-- Generates and builds, and prints what the build prints. -/
def buildImage (client : Daemon.Client σ) (e : Environment) (tag : Option String) :
    CommandM σ Pipeline := do
  let p ← generation e
  if p.document.isNone then reportFailure p
  else
    let tag ← orMisuse (p.tagFor tag)
    echo ("Building image " ++ tag ++ "...")
    let text := p.documentText
    let p := (p.build tag).pipeline
    let answer ← request client (client.buildText (← get).standIns text tag)
    record (logOf .build answer)
    let p := (p.built p.tokens.build answer).pipeline
    p.logs.forM writeOutput
    if p.stage = .built then return p else reportFailure p

def build (client : Daemon.Client σ) (tag : Option String) : CommandM σ Unit := do
  let p ← buildImage client (← environment) tag
  echo ("Image built: " ++ p.tag.getD "")

def run (client : Daemon.Client σ) (suffix : String) (options : RunOptions)
    (tag : Option String) : CommandM σ Unit := do
  let e ← environment
  let p ← buildImage client e tag
  echo ("Image built: " ++ p.tag.getD "")
  let order ← orMisuse (p.runRequest options suffix)
  let p := p.run.pipeline
  let answer ← request client (client.runContainer order)
  record (logOf .run answer)
  let p := (p.ran p.tokens.run answer).pipeline
  match p.containerId with
  | none => reportFailure p
  | some id =>
    echo ("Container started: " ++ Container.shortId id)
    match e.ssh with
    | some a =>
      if a.enabled then echo ("Connect with: " ++ Container.sshCommandAt a.port)
    | none => return ()

end DevEnv.CommandLine
