import DevEnv.Rehearsal.Script
import DevEnv.Roster.Machine

/-!
Rehearsals of rosters, with a clock that only moves when told to.
-/

namespace DevEnv.Roster

set_option autoImplicit false

open Rehearsal (Reply Scene)

/-- A reply as an answer to a call. -/
def answer (number : Nat) (reply : Reply) : Call → Event
  | .list => .listed number (reply.answer reply.containers)
  | .details id =>
    .detailed number (reply.answer (reply.container.getD ⟨id, "", "", .other, "", 0, [], [], []⟩))
  | .act .. => .acted number (reply.answer ())

def role : Rehearsal.Role Machine Event Call Reaction where
  react := Machine.react
  machine := Reaction.machine
  called := Reaction.called
  log := Reaction.log
  operation
    | .list => .list
    | .details _ => .details
    | .act .start _ => .start
    | .act .stop _ => .stop
    | .act .remove _ => .remove
  answer number call reply := ([], answer number reply call)

/-- A rehearsal and its clock. -/
structure Rehearsed where
  rehearsal : Rehearsal Machine Call
  now : Nat
  /-- When the polling loop wakes, if there is one. -/
  next : Option Nat
  /-- The time from one waking to the next. -/
  interval : Nat

namespace Rehearsed

def initial (interval : Nat) : Rehearsed := ⟨⟨.initial, [], []⟩, 0, none, interval⟩

def machine (r : Rehearsed) : Machine := r.rehearsal.machine

def conclude (r : Rehearsed)
    (played : List (Rehearsal.Beat Reaction) × Rehearsal Machine Call) :
    Scene Call Value × Rehearsed :=
  (.ofBeats role Reaction.returned played.1, { r with rehearsal := played.2 })

/-- A step that is one event. -/
def perform (r : Rehearsed) (event : Event) : Scene Call Value × Rehearsed :=
  r.conclude (r.rehearsal.feedAll role [event])

/-- A step that releases a reply. -/
def release (r : Rehearsed) (number : Nat) (reply : Reply) : Scene Call Value × Rehearsed :=
  r.conclude (r.rehearsal.release role number reply)

/-- What the loop does when it wakes. -/
def waking : List Event := [.wake, .beginTick]

/-- Starts the loop, which wakes at once, unless there is one. -/
def startPolling (r : Rehearsed) : Scene Call Value × Rehearsed :=
  if r.machine.polling then r.conclude ([], r.rehearsal)
  else
    { r with next := some (r.now + r.interval) }.conclude
      (r.rehearsal.feedAll role (.startPolling :: waking))

/-- Closes the roster and waits until all cancelled ticks have noticed. -/
def close (r : Rehearsed) (step : Nat) : Scene Call Value × Rehearsed :=
  let notices : List Event := r.machine.close.cancelled.map fun w => .notice w.number
  let (scene, r) := { r with next := none }.conclude
    (r.rehearsal.feedAll role (.close :: notices))
  ({ scene with returned := scene.returned ++ [(step, Value.done)] }, r)

/-- How often the loop wakes up to some time, that time included. -/
def wakings (r : Rehearsed) (time : Nat) : Nat :=
  match r.next with
  | some next => if next ≤ time then (time - next) / r.interval + 1 else 0
  | none => 0

/-- Moves the clock on; the loop wakes on the way. -/
def advance (r : Rehearsed) (time : Nat) : Scene Call Value × Rehearsed :=
  let now := r.now + time
  let n := r.wakings now
  { r with now := now, next := r.next.map fun next => next + n * r.interval }.conclude
    (r.rehearsal.feedAll role ((List.replicate n waking).flatten))

end Rehearsed

end DevEnv.Roster
