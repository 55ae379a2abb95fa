import DevEnv.CommandLine.Session
import DevEnv.Container.Table
import DevEnv.PortProbe.Machine
import DevEnv.Roster.Machine

/-!
The commands that look at containers and host ports, and act on containers.
-/

namespace DevEnv.CommandLine

set_option autoImplicit false

variable {σ : Type}

/-! ### Ports -/

/-- One port is asked for, its timer runs out at once, and the query is answered. -/
def portCheck (client : Daemon.Client σ) (port : Int) : CommandM σ Unit := do
  let probe := PortProbe.Machine.initial.check port
  let asked := (probe.react (.expire 0)).machine
  let answer ← request client (client.isPortInUse port)
  let reaction := asked.react (.answer 0 answer)
  record reaction.log
  if reaction.machine.inUse = some true then
    echo ("Port " ++ toString port ++ " is in use by a running container")
  else echo ("Port " ++ toString port ++ " is available")

/-! ### Containers -/

/-- Asks for a fresh list. -/
def refresh (client : Daemon.Client σ) (r : Roster) :
    CommandM σ (Roster × Except Failure (List Container)) := do
  let r := r.request
  let answer ← request client (client.listContainers true)
  return (r.receive r.token answer, answer)

/-- Prints a list as a table. -/
def printTable (cs : List Container) : CommandM σ Unit :=
  if cs.isEmpty then echo "No containers found"
  else match Container.table cs with
    | .ok text => echo text
    | .error fault => crash (.display fault)

/-- The result, unless it is a failure; one that the engine layer foresees is shown. -/
def orFail {α : Type} : Except Failure α → CommandM σ α
  | .ok a => return a
  | .error (.engine e) => fail (.engine e)
  | .error f => throw (.crash f)

def list (client : Daemon.Client σ) (state : StateFilter) (query : String) :
    CommandM σ Unit := do
  let (r, answer) ← refresh client .initial
  discard <| orFail answer
  printTable (Container.search query (Container.inState state r.snapshot))

/-- Lines of a cell, a hyphen for want of any. -/
def lines (ss : List String) : String :=
  let text := "\n".intercalate ss
  if text.isEmpty then "-" else text

def mountText (m : Mount) : String :=
  m.source ++ " -> " ++ m.destination ++ " (" ++ m.mode ++ ")"

/-- Everything that is shown of one container. -/
def detailRows (c : Container) (created : String) : List (String × String) := [
  ("ID", c.id), ("Image", c.image), ("State", c.state.name), ("Created", created),
  ("Ports", c.portsText), ("Environment", lines c.env), ("Mounts", lines (c.mounts.map mountText))]

def details (client : Daemon.Client σ) (id : String) : CommandM σ Unit := do
  let c ← orFail (← request client (client.getContainer id))
  match Timestamp.display c.created with
  | .error fault => crash (.display fault)
  | .ok created =>
    present (.table ("Container " ++ c.name) (detailRows c created))
    present (.text ("Shell: [green]" ++ c.execCommand ++ "[/green]"))
    match c.sshCommand? with
    | some command => present (.text ("SSH:   [green]" ++ command ++ "[/green]"))
    | none => return ()

def service (client : Daemon.Client σ) (id : String) : Roster.Action → Daemon.Service σ Unit
  | .start => client.startContainer id
  | .stop => client.stopContainer id
  | .remove => client.removeContainer id true

def pastTense : Roster.Action → String
  | .start => "started"
  | .stop => "stopped"
  | .remove => "removed"

/-- Acts on a container and refreshes the list; a failure to do so is only logged. -/
def act (client : Daemon.Client σ) (action : Roster.Action) (id : String) : CommandM σ Unit := do
  orFail (← request client (service client id action))
  match (← refresh client .initial).2 with
  | .ok _ => pure ()
  | .error (.engine e) => record [Roster.warning "refresh" e]
  | .error f => throw (.crash f)
  echo ("Container " ++ id ++ " " ++ pastTense action)

/-- Removes a container, after asking back unless told not to. -/
def remove (client : Daemon.Client σ) (confirmed : Bool) (id : String) (yes : Bool) :
    CommandM σ Unit := do
  if yes then act client .remove id
  else
    present (.question ("Remove container '" ++ id ++ "'?"))
    if confirmed then act client .remove id else present (.text "[yellow]Cancelled[/yellow]")

/-! ### Watching -/

/-- A watch: the roster, and the list that was printed last. -/
structure Watch where
  roster : Roster
  printed : Option (List Container)
deriving DecidableEq, Repr

def Watch.initial : Watch := ⟨.initial, none⟩

/-- A tick of the polling loop. -/
def Watch.poll (client : Daemon.Client σ) (w : Watch) : CommandM σ Watch := do
  let (r, answer) ← refresh client w.roster
  match answer with
  | .error (.engine e) => record [Roster.warning "fetch" e]
  | _ => pure ()
  return { w with roster := r }

/-- The error of the latest poll, if it failed. -/
def Watch.error? (w : Watch) : Option String := w.roster.lastError.filter fun e => !e.isEmpty

/-- A refresh of the screen: the error of the latest poll, or the list if it has changed. -/
def Watch.show (state : StateFilter) (w : Watch) : CommandM σ Watch := do
  match w.error? with
  | some e =>
    complain ("Error: " ++ e)
    return w
  | none =>
    let cs := Container.inState state w.roster.snapshot
    if w.printed = some cs then return w
    else
      printTable cs
      echo ""
      return { w with printed := some cs }

/-- So many refreshes, each after a poll. Where no time passes between polls the screen is ahead of
them: every refresh but the last one comes before a poll. -/
def Watch.rounds (client : Daemon.Client σ) (waits : Bool) (state : StateFilter) :
    Nat → Watch → CommandM σ Unit
  | 0, _ => return ()
  | n + 1, w => do
    if waits then
      let w ← w.poll client
      let w ← w.show state
      Watch.rounds client waits state n w
    else
      let w ← w.show state
      if n = 0 then return ()
      else
        let w ← w.poll client
        Watch.rounds client waits state n w

/-- Watches until the count is reached; a count of zero means for as long as `patience` lasts, or
until the user ends it. -/
def watch (client : Daemon.Client σ) (patience : Nat) (waits : Bool) (count : Int)
    (state : StateFilter) : CommandM σ Unit := do
  let n := if count = 0 then patience else count.toNat
  try Watch.rounds client waits state n .initial
  catch
    | .interrupted => echo "Stopped watching"
    | e => throw e

end DevEnv.CommandLine
