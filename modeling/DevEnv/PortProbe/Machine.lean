import DevEnv.Failure

/-!
Asking whether a host port is taken, only after requests have come to rest. A request starts a timer
and stops the one that the probe holds; a timer that runs out asks the engine. An answer counts if
its port is the one requested last, and a failed query counts as a free port.
-/

namespace DevEnv.PortProbe

set_option autoImplicit false

/-- A timer that will still run out, or a query that waits for its answer, with its port. -/
structure Numbered where
  number : Nat
  port : Int
deriving DecidableEq, Repr

structure Machine where
  requested : Option Int
  /-- The port that the stored answer is about. -/
  port : Option Int
  inUse : Option Bool
  /-- The timer that the probe holds. -/
  held : Option Nat
  timers : List Numbered
  queries : List Numbered
  /-- How many timers have been started. -/
  started : Nat
  /-- How many queries have been issued. -/
  issued : Nat
  /-- Closings that wait for the timer that they stopped. -/
  closing : Nat
deriving DecidableEq, Repr

inductive Event
  | check (port : Int)
  /-- A timer runs out. -/
  | expire (timer : Nat)
  | answer (query : Nat) (answer : Except Failure Bool)
  | close
  /-- A closing that had to wait ends. -/
  | closed

/-- All that one event brings about. -/
structure Reaction where
  machine : Machine
  /-- The query that it issues. -/
  called : Option Numbered
  log : List LogEntry

/-- What the log says of a failed query. -/
def logOf (port : Int) : Failure → LogEntry
  | .engine e =>
    ⟨.warning,
      "Port check for " ++ toString port ++ " failed, assuming available: " ++ e.message⟩
  | .unforeseen u =>
    ⟨.error, "Unexpected error checking port " ++ toString port ++ ", assuming available: " ++
      u.logText⟩

/-- Whether an answer says that the port is taken. -/
def meansInUse : Except Failure Bool → Bool
  | .ok b => b
  | .error _ => false

namespace Machine

def initial : Machine := ⟨none, none, none, none, [], [], 0, 0, 0⟩

/-- Whether a timer is held or a query under way. -/
def checking (m : Machine) : Bool := m.held.isSome || !m.queries.isEmpty

def available (m : Machine) : Option Bool := m.inUse.map (!·)

/-- The timers without the one that the probe holds. -/
def otherTimers (m : Machine) : List Numbered :=
  m.timers.filter fun t => m.held != some t.number

def quiet (m : Machine) : Reaction := ⟨m, none, []⟩

def check (m : Machine) (port : Int) : Machine :=
  { m with
    requested := some port
    timers := m.otherTimers ++ [⟨m.started, port⟩]
    held := some m.started
    started := m.started + 1 }

/-- A timer runs out: the probe lets go of whatever timer it holds, and a query leaves. -/
def query (m : Machine) (timer : Numbered) : Reaction :=
  let q : Numbered := ⟨m.issued, timer.port⟩
  { machine := { m with
      held := none
      timers := m.timers.filter fun t => t.number != timer.number
      queries := m.queries ++ [q]
      issued := m.issued + 1 }
    called := some q
    log := [] }

def answered (m : Machine) (q : Numbered) (answer : Except Failure Bool) : Machine :=
  let m := { m with queries := m.queries.filter fun p => p.number != q.number }
  if m.requested = some q.port then
    { m with port := some q.port, inUse := some (meansInUse answer) }
  else m

def logOfAnswer (q : Numbered) : Except Failure Bool → List LogEntry
  | .ok _ => []
  | .error f => [logOf q.port f]

def react (m : Machine) : Event → Reaction
  | .check port => (m.check port).quiet
  | .expire timer =>
    match m.timers.find? fun t => t.number == timer with
    | some t => m.query t
    | none => m.quiet
  | .answer number answer =>
    match m.queries.find? fun q => q.number == number with
    | some q => ⟨m.answered q answer, none, logOfAnswer q answer⟩
    | none => m.quiet
  | .close =>
    if m.held.isNone then m.quiet
    else { m with timers := m.otherTimers, closing := m.closing + 1 }.quiet
  | .closed =>
    if m.closing = 0 then m.quiet
    else { m with held := none, closing := m.closing - 1 }.quiet

/-- The machine after a list of events. -/
def after (m : Machine) (events : List Event) : Machine :=
  events.foldl (fun m e => (m.react e).machine) m

end Machine

end DevEnv.PortProbe
