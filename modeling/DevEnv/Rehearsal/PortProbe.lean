import DevEnv.PortProbe.Machine
import DevEnv.Rehearsal.Script

/-!
Rehearsals of port probes, with a clock that only moves when told to.
-/

namespace DevEnv.PortProbe

set_option autoImplicit false

open Rehearsal (Reply Scene)

def role : Rehearsal.Role Machine Event Numbered Reaction where
  react := Machine.react
  machine := Reaction.machine
  called r := r.called.map fun q => (q.number, q)
  log := Reaction.log
  operation _ := .checkPort
  answer number _ reply := ([], .answer number (reply.answer reply.inUse))

/-- A timer and when it runs out. -/
structure Alarm where
  timer : Nat
  time : Nat
deriving DecidableEq, Repr

/-- A rehearsal and its clock. -/
structure Rehearsed where
  rehearsal : Rehearsal Machine Numbered
  now : Nat
  /-- How long a timer runs. -/
  quiet : Nat
  /-- The alarm of the timer that the probe holds. -/
  alarm : Option Alarm
  /-- The steps that wait until nothing is being checked. -/
  waiting : List Nat

namespace Rehearsed

def initial (quiet : Nat) : Rehearsed := ⟨⟨.initial, [], []⟩, 0, quiet, none, []⟩

def machine (r : Rehearsed) : Machine := r.rehearsal.machine

/-- The event of an alarm that is due, if there is one. -/
def dueEvents (r : Rehearsed) : List Event :=
  match r.alarm with
  | some alarm => if alarm.time ≤ r.now then [.expire alarm.timer] else []
  | none => []

/-- Ends a step after these events: an alarm that is due goes off, and waiting ends when nothing is
being checked any more. -/
def conclude (r : Rehearsed) (returned : List (Nat × Unit))
    (played : List (Rehearsal.Beat Reaction) × Rehearsal Machine Numbered) :
    Scene Numbered Unit × Rehearsed :=
  let (beats, rehearsal) := played
  let (more, rehearsal) := rehearsal.feedAll role r.dueEvents
  let scene : Scene Numbered Unit := .ofBeats role (fun _ => none) (beats ++ more)
  let alarm := if r.dueEvents.isEmpty then r.alarm else none
  let (ended, waiting) := if rehearsal.machine.checking then ([], r.waiting) else (r.waiting, [])
  ({ scene with returned := ended.map (fun step => (step, ())) ++ returned },
    { r with rehearsal := rehearsal, alarm := alarm, waiting := waiting })

/-- Requests checks of ports, one right after the other. -/
def check (r : Rehearsed) (ports : List Int) : Scene Numbered Unit × Rehearsed :=
  let played := r.rehearsal.feedAll role (ports.map .check)
  let alarm := played.2.machine.held.map fun timer => ⟨timer, r.now + r.quiet⟩
  { r with alarm := if ports.isEmpty then r.alarm else alarm }.conclude [] played

def release (r : Rehearsed) (number : Nat) (reply : Reply) : Scene Numbered Unit × Rehearsed :=
  r.conclude [] (r.rehearsal.release role number reply)

/-- Moves the clock on. -/
def advance (r : Rehearsed) (time : Nat) : Scene Numbered Unit × Rehearsed :=
  { r with now := r.now + time }.conclude [] ([], r.rehearsal)

def wait (r : Rehearsed) (step : Nat) : Scene Numbered Unit × Rehearsed :=
  { r with waiting := r.waiting ++ [step] }.conclude [] ([], r.rehearsal)

/-- Closes the probe, which waits for the timer that it stops. -/
def close (r : Rehearsed) (step : Nat) : Scene Numbered Unit × Rehearsed :=
  { r with alarm := none }.conclude [(step, ())] (r.rehearsal.feedAll role [.close, .closed])

end Rehearsed

end DevEnv.PortProbe
