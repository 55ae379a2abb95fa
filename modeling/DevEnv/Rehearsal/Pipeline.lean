import DevEnv.Pipeline.Machine
import DevEnv.Rehearsal.Script

/-!
Rehearsals of pipelines.
-/

namespace DevEnv.Pipeline

set_option autoImplicit false

open Rehearsal (Reply)

/-- The id of a reply that says nothing about it. -/
def usualId : String := "abc123def456789"

/-- A reply as an answer to a call. A build file that is not given is generated after all. -/
def answer (number : Nat) (reply : Reply) : Call → List LogEntry × Event
  | .generate draft =>
    match reply.failure, reply.text with
    | some f, _ => ([], .generated number (.error f))
    | none, some text => ([], .generated number (.ok text))
    | none, none =>
      let (log, text) := draft.generate
      (log, .generated number text)
  | .build _ tag =>
    ([], .built number (reply.answer ⟨reply.tag.getD tag, reply.logs⟩))
  | .run _ => ([], .ran number (reply.answer (reply.id.getD usualId)))

def role : Rehearsal.Role Machine Event Call Reaction where
  react := Machine.react
  machine := Reaction.machine
  called := Reaction.called
  log := Reaction.log
  operation
    | .generate _ => .generate
    | .build .. => .build
    | .run _ => .run
  answer number call reply := answer number reply call

/-- A rehearsal, with the step that each call was made in. -/
structure Rehearsed where
  rehearsal : Rehearsal Machine Call
  callers : List (Nat × Nat)

/-- What a step brings about, with the stages announced. -/
structure Scene extends Rehearsal.Scene Call Value where
  announced : List Stage

namespace Rehearsed

def initial : Rehearsed := ⟨⟨.initial, [], []⟩, []⟩

def pipeline (r : Rehearsed) : Pipeline := r.rehearsal.machine.pipeline

/-- The step that gets a result. -/
def receiver (callers : List (Nat × Nat)) (step : Nat) (reaction : Reaction) :
    Option (Nat × Value) :=
  match reaction.returned with
  | some (some number, value) => (callers.lookup number).map fun caller => (caller, value)
  | some (none, value) => some (step, value)
  | none => none

/-- Ends a step: the calls made in it are its own. -/
def conclude (r : Rehearsed) (step : Nat)
    (played : List (Rehearsal.Beat Reaction) × Rehearsal Machine Call) : Scene × Rehearsed :=
  let (beats, rehearsal) := played
  let made := beats.filterMap fun b => b.reaction.called.map fun c => (c.1, step)
  let callers := r.callers ++ made
  (⟨.ofBeats role (receiver callers step) beats, beats.flatMap fun b => b.reaction.announced⟩,
    ⟨rehearsal, callers⟩)

/-- A step that is one event. -/
def perform (r : Rehearsed) (step : Nat) (event : Event) : Scene × Rehearsed :=
  r.conclude step (r.rehearsal.feedAll role [event])

/-- A step that releases a reply. -/
def release (r : Rehearsed) (step number : Nat) (reply : Reply) : Scene × Rehearsed :=
  r.conclude step (r.rehearsal.release role number reply)

/-- A step that does nothing. -/
def pause (r : Rehearsed) (step : Nat) : Scene × Rehearsed := r.conclude step ([], r.rehearsal)

end Rehearsed

end DevEnv.Pipeline
