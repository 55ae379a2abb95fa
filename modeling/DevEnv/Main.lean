import DevEnv.CommandLine.Program

/-!
The command itself: it works on the files of the working directory. It has no way to a container
daemon, so whatever needs one is told that none is running.
-/

set_option autoImplicit false

-- Powers of core, whatever other instances are in scope.
attribute [local instance (2000)] instPowNat

namespace DevEnv.CommandLine

/-- What every call to an absent daemon raises. -/
def absence : Daemon.Fault := .library "Cannot connect to the container daemon"

def absent {α : Type} : Daemon.Operation Unit α := fun s => (.error absence, s)

/-- The client of a daemon that is not there. -/
def absentDaemon : Daemon.Client Unit where
  connect := absent
  ping := absent
  build _ := absent
  run _ := absent
  list _ := absent
  get _ := absent
  start := absent
  stop := absent
  remove _ := absent

/-- What stands under a path. -/
def nodeAt? (path : String) : IO (Option Node) := do
  try
    let place ← IO.FS.realPath path
    if ← place.isDir then return some .directory
    return some (.file (← IO.FS.readBinFile path))
  catch _ => return none

/-- All places that a path leads through. -/
def way (path : String) : List Path :=
  let parts := path.splitOn "/"
  (List.range parts.length).map fun n => Workspace.pathOf ("/".intercalate (parts.take (n + 1)))

/-- What stands on the way of these paths. -/
def workspaceAt (paths : List String) : IO Workspace := do
  let mut nodes : List (Path × Node) := []
  for path in (paths.flatMap way).eraseDups do
    if let some node ← nodeAt? ("/".intercalate path) then nodes := nodes ++ [(path, node)]
  return ⟨nodes⟩

/-- Makes the differences between two states of the files, directories before what they hold. -/
def store (old new : Workspace) : IO Unit := do
  for (path, _) in old.nodes do
    if (new.find? path).isNone then IO.FS.removeFile ("/".intercalate path)
  for (path, node) in new.nodes.mergeSort fun a b => a.1.length ≤ b.1.length do
    if old.find? path != some node then
      match node with
      | .directory => IO.FS.createDirAll ("/".intercalate path)
      | .file content => IO.FS.writeBinFile ("/".intercalate path) content

def Shown.lines : Shown → List String
  | table title rows => title :: rows.map fun r => r.1 ++ ": " ++ r.2
  | text markup => [markup]
  | question _ => []

/-- What is said of a failure that no command handles. -/
def report : Failure → String
  | .engine e => e.message
  | .unforeseen u => u.kind ++ ": " ++ u.message

/-- The question that was asked back, if one was. -/
def question? (shown : List Shown) : Option String :=
  shown.findSome? fun s =>
    match s with
    | .question text => some text
    | _ => none

/-- Asks for a yes. -/
def isConfirmed (question : String) : IO Bool := do
  IO.print (question ++ " [y/n]: ")
  (← IO.getStdout).flush
  let answer ← (← IO.getStdin).getLine
  return answer.startsWith "y"

/-- A suffix for the names of new containers. -/
def freshSuffix : IO String := do
  let n ← IO.rand 0 (16 ^ (8 : Nat) - 1)
  return String.ofList (Text.hex 8 n)

/-- Runs the program on the files and settings around it. A question is put to the user before the
run that depends on the answer. An endless watch ends after one look, as no daemon will appear. -/
def runHere (args : List String) : IO UInt32 := do
  let interval ← IO.getEnv intervalVariable
  let suffix ← freshSuffix
  let files ← workspaceAt ("/".intercalate Workspace.statePath :: args)
  let run (confirmed : Bool) : Outcome Unit :=
    let setting : Setting :=
      ⟨fun name => if name = intervalVariable then interval else none, confirmed, suffix, 1⟩
    runProgram absentDaemon setting () files args
  let mut outcome := run false
  if let some question := question? outcome.shown then
    outcome := run (← isConfirmed question)
  store files outcome.files
  IO.print outcome.out
  for line in outcome.shown.flatMap Shown.lines do IO.println line
  for entry in outcome.log do IO.eprintln entry.message
  IO.eprint outcome.err
  if outcome.exit = 2 then IO.eprintln ""
  if let some failure := outcome.crash then IO.eprintln (report failure)
  return UInt32.ofNat outcome.exit

end DevEnv.CommandLine

def main (args : List String) : IO UInt32 := DevEnv.CommandLine.runHere args
