import DevEnv.Daemon.Service
import DevEnv.Text.Escape
import DevEnv.Workspace

/-!
One run of the program: the daemon and the files that it works on, what it prints, and how it ends.
The daemon is connected to when it is first needed.
-/

namespace DevEnv.CommandLine

set_option autoImplicit false

/-- What is shown with markup. -/
inductive Shown
  | table (title : String) (rows : List (String × String))
  | text (markup : String)
  | question (text : String)
deriving DecidableEq, Repr

/-- How a command ends before its last step. -/
inductive Ending
  | status (code : Nat)
  /-- A failure that the command does not handle. -/
  | crash (f : Failure)
  /-- The user ended the program. -/
  | interrupted
deriving DecidableEq, Repr

structure Session (σ : Type) where
  daemon : σ
  files : Workspace
  connected : Bool
  /-- The characters of the command line. -/
  spoken : List Char
  /-- The stand-ins in the progress that was loaded. -/
  standIns : Text.StandIns
  out : String
  err : String
  shown : List Shown
  log : List LogEntry

/-- Steps of a command. -/
abbrev CommandM (σ : Type) := ExceptT Ending (StateM (Session σ))

/-! ### Printing -/

variable {σ : Type}

def crash {α : Type} (u : Unforeseen) : CommandM σ α := throw (.crash (.unforeseen u))

/-- Whether a text made of what was loaded and what the command line says holds halves of
characters. -/
def isBroken (s : String) : CommandM σ Bool := do return (← get).standIns.occurIn s

/-- Prints a text. Escape sequences are left out, as files and pipes do not get them. -/
def write (s : String) : CommandM σ Unit :=
  modify fun t => { t with out := t.out ++ Text.withoutCodes s }

/-- Prints a line. -/
def echo (s : String) : CommandM σ Unit := write (s ++ "\n")

/-- Prints a line on the error channel. -/
def complain (s : String) : CommandM σ Unit :=
  modify fun t => { t with err := t.err ++ Text.withoutCodes (s ++ "\n") }

def present (s : Shown) : CommandM σ Unit :=
  modify fun t => { t with shown := t.shown ++ [s] }

def record (entries : List LogEntry) : CommandM σ Unit :=
  modify fun t => { t with log := t.log ++ entries }

/-- Ends with the message of a failure. -/
def fail {α : Type} (f : Failure) : CommandM σ α := do
  complain ("Error: " ++ f.describe)
  throw (.status 1)

/-! ### Files -/

def unreadableState : LogEntry := ⟨.warning, "Ignoring unreadable state file"⟩

/-- The progress that is kept, if any of use is. -/
def load : CommandM σ (Option Progress) := do
  let loaded := (← get).files.stateFile.load (← get).spoken
  record (List.replicate loaded.warnings unreadableState)
  modify fun t => { t with standIns := loaded.standIns }
  match loaded.progress? with
  | .ok p => return p
  | .error fault => crash (.stateFile fault)

/-- The environment that is kept, or the one assumed for want of any. -/
def environment : CommandM σ Environment := do return StateFile.environmentOf (← load)

/-- Replaces the files unless that failed. -/
def setFiles (files : Except FileFault Workspace) : CommandM σ Unit :=
  match files with
  | .ok w => modify fun t => { t with files := w }
  | .error fault => crash (.file fault)

/-- Keeps progress. Halves of characters cannot be kept. -/
def save (p : Progress) : CommandM σ Unit := do
  if ← isBroken (StateFile.textOf p) then crash .unkeepable
  setFiles ((← get).files.saveProgress p)

/-- Keeps an environment together with the page on which the user was. -/
def saveEnvironment (e : Environment) : CommandM σ Unit := do
  save (StateFile.withEnvironment (← load) e)

/-! ### The daemon -/

/-- Runs a service on the daemon of the session. -/
def onDaemon {α : Type} (service : Daemon.Service σ α) :
    CommandM σ (Except Daemon.Escape α) := do
  let t ← get
  let (answer, daemon) := service t.daemon
  set { t with daemon := daemon }
  return answer

/-- The failure of a service; an interruption ends the command. -/
def settle {α : Type} : Except Daemon.Escape α → CommandM σ (Except Failure α)
  | .ok a => return .ok a
  | .error (.failed f) => return .error f
  | .error .interrupted => throw .interrupted

/-- Runs a service on the connected daemon. -/
def request {α : Type} (client : Daemon.Client σ) (service : Daemon.Service σ α) :
    CommandM σ (Except Failure α) := do
  if (← get).connected then settle (← onDaemon service)
  else match ← settle (← onDaemon client.open) with
    | .error f => return .error f
    | .ok () =>
      modify fun t => { t with connected := true }
      settle (← onDaemon service)

end DevEnv.CommandLine
