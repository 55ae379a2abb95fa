import DevEnv.Roster.Machine

/-!
The tasks behind the polling of a roster. A loop is a task that makes a tick as soon as it begins and
after every interval, and a tick is a task of its own. Closing cancels the loop that is held and every
tick that has not ended, and waits for them. A cancelled task ends at its next turn, whatever it was
waiting for.
-/

namespace DevEnv.Roster

set_option autoImplicit false

structure Loop where
  number : Nat
  begun : Bool
  cancelled : Bool
deriving DecidableEq, Repr

structure Tick where
  number : Nat
  /-- The call that it waits for, once it has begun. -/
  call : Option Nat
  cancelled : Bool
deriving DecidableEq, Repr

/-- A closing that has not returned, and the tasks that it waits for. -/
structure Closing where
  number : Nat
  tasks : List Nat
deriving DecidableEq, Repr

structure Tasks where
  roster : Roster
  waiting : List Waiting
  /-- How many calls have been issued. -/
  issued : Nat
  /-- Calls of ticks that were cancelled and have not ended. -/
  cancelled : List Waiting
  /-- The loop that the next closing will cancel. -/
  held : Option Nat
  loops : List Loop
  ticks : List Tick
  closings : List Closing
  /-- How many loops, ticks and closings there have been. -/
  created : Nat
deriving DecidableEq, Repr

inductive Turn
  /-- A caller asks for something, a caller is cancelled, or the engine answers. -/
  | outside (e : Event)
  | startPolling
  /-- A loop begins. -/
  | begin (loop : Nat)
  /-- The interval of a loop is over. -/
  | wake (loop : Nat)
  | beginTick (tick : Nat)
  | close
  /-- A cancelled task gets its turn. -/
  | notice (task : Nat)
  /-- A closing looks whether its tasks have ended. -/
  | closed (closing : Nat)

/-- All that one turn brings about. -/
structure Response where
  tasks : Tasks
  called : Option (Nat × Call)
  returned : Option (Nat × Value)
  log : List LogEntry
  /-- The closing that returns. -/
  closed : Option Nat

/-- Whether callers or the engine bring this event about. -/
def Event.isOutside : Event → Bool
  | .startPolling | .wake | .beginTick | .close | .notice _ => false
  | _ => true

/-- Whether a tick is yet to begin. -/
def Tick.isDue (t : Tick) : Bool := t.call.isNone && !t.cancelled

/-- Whether a tick waits for this call. -/
def Tick.awaits (t : Tick) (w : Waiting) : Bool := t.call == some w.number

namespace Tasks

def initial : Tasks := ⟨.initial, [], 0, [], none, [], [], [], 0⟩

/-- The roster and the calls, without the tasks. -/
def machine (s : Tasks) : Machine :=
  ⟨s.roster, s.waiting, s.issued, s.held.isSome, s.ticks.countP Tick.isDue, s.cancelled⟩

def quiet (s : Tasks) : Response := ⟨s, none, none, [], none⟩

/-- The roster and the calls go on, and so do the tasks. -/
def follow (s : Tasks) (r : Reaction) : Response where
  tasks := { s with
    roster := r.machine.roster
    waiting := r.machine.waiting
    issued := r.machine.issued
    cancelled := r.machine.cancelled }
  called := r.called
  returned := r.returned
  log := r.log
  closed := none

/-- Whether the call of a tick, if it has one, is still under way. -/
def keeps (s : Tasks) (t : Tick) : Bool :=
  t.call.isNone || (s.waiting ++ s.cancelled).any t.awaits

/-- Ticks end with their calls. -/
def endTicks (r : Response) : Response :=
  { r with tasks := { r.tasks with ticks := r.tasks.ticks.filter r.tasks.keeps } }

def startLoop (s : Tasks) : Tasks :=
  { s with
    held := some s.created
    loops := s.loops ++ [⟨s.created, false, false⟩]
    created := s.created + 1 }

/-- A loop makes a tick. -/
def makeTick (s : Tasks) (loop : Nat) : Tasks :=
  { s with
    loops := s.loops.map fun l => { l with begun := l.begun || l.number == loop }
    ticks := s.ticks ++ [⟨s.created, none, false⟩]
    created := s.created + 1 }

/-- Whether this loop is there to make ticks: one that is yet to begin, or one that has begun. -/
def hasLoop (s : Tasks) (loop : Nat) (begun : Bool) : Bool :=
  s.loops.any fun l => l.number == loop && l.begun == begun && !l.cancelled

def withoutTick (s : Tasks) (t : Tick) : Tasks := { s with ticks := s.ticks.erase t }

/-- A tick waits for a call. -/
def waitFor (s : Tasks) (t : Tick) (call : Nat) : Tasks :=
  { s with ticks := s.ticks.erase t ++ [{ t with call := some call }] }

/-- A tick begins: it makes a call and waits for the answer, or it ends. -/
def beginTick (s : Tasks) (t : Tick) : Response :=
  let r := s.machine.beginTick .loop none
  match r.called with
  | some (call, _) => (s.waitFor t call).follow r
  | none => (s.withoutTick t).follow r

def awaited (s : Tasks) (w : Waiting) : Bool := s.ticks.any fun t => t.awaits w

def close (s : Tasks) : Tasks :=
  { s with
    waiting := s.waiting.filter fun w => !s.awaited w
    cancelled := s.cancelled ++ s.waiting.filter s.awaited
    held := none
    loops := s.loops.map fun l =>
      { l with cancelled := l.cancelled || s.held == some l.number }
    ticks := s.ticks.map fun t => { t with cancelled := true }
    closings := s.closings ++ [⟨s.created, s.ticks.map Tick.number ++ s.held.toList⟩]
    created := s.created + 1 }

/-- Whether this task has ended. -/
def hasEnded (s : Tasks) (task : Nat) : Bool :=
  s.loops.all (fun l => l.number != task) && s.ticks.all fun t => t.number != task

/-- A cancelled tick ends, and its call with it. -/
def endTick (s : Tasks) (t : Tick) : Response :=
  match t.call with
  | some call => (s.withoutTick t).follow (s.machine.react (.notice call))
  | none => (s.withoutTick t).quiet

/-- A loop ends if it is cancelled. -/
def endLoop (s : Tasks) (loop : Nat) : Tasks :=
  { s with loops := s.loops.filter fun l => !(l.number == loop && l.cancelled) }

def react (s : Tasks) : Turn → Response
  | .outside e => if e.isOutside then endTicks (s.follow (s.machine.react e)) else s.quiet
  | .startPolling =>
    if s.held.isSome then s.quiet
    else s.startLoop.quiet
  | .begin loop => if s.hasLoop loop false then (s.makeTick loop).quiet else s.quiet
  | .wake loop => if s.hasLoop loop true then (s.makeTick loop).quiet else s.quiet
  | .beginTick tick =>
    match s.ticks.find? fun t => t.number == tick && t.isDue with
    | some t => s.beginTick t
    | none => s.quiet
  | .close => s.close.quiet
  | .notice task =>
    match s.ticks.find? fun t => t.number == task && t.cancelled with
    | some t => s.endTick t
    | none => (s.endLoop task).quiet
  | .closed closing =>
    match s.closings.find? fun c => c.number == closing with
    | some c =>
      if c.tasks.all s.hasEnded then
        ⟨{ s with closings := s.closings.erase c }, none, none, [], some closing⟩
      else s.quiet
    | none => s.quiet

end Tasks

end DevEnv.Roster
