import DevEnv.Container.Basic
import DevEnv.Failure

/-!
Rehearsals: a machine that reacts to events meets an engine that follows a script. The script says
for every call whether the engine replies at once or holds its reply back until it is released.
-/

namespace DevEnv

set_option autoImplicit false

namespace Rehearsal

/-- The operations of an engine. -/
inductive Operation
  | generate
  | build
  | run
  | list
  | details
  | start
  | stop
  | remove
  | checkPort
deriving DecidableEq, Repr

/-- A reply in the words of a script. A call takes what it has a use for, and a default for what is
left out. -/
structure Reply where
  failure : Option Failure
  text : Option String
  tag : Option String
  logs : List Json
  id : Option String
  containers : List Container
  container : Option Container
  inUse : Bool
deriving DecidableEq, Repr

namespace Reply

/-- The build output of an engine whose script is silent. -/
def usualLogs : List Json := [.text "Step 1/2\n", .text "Step 2/2\n"]

/-- The reply of an engine whose script is silent. -/
def plain : Reply := ⟨none, none, none, usualLogs, none, [], none, false⟩

/-- The failure of the reply, or else a value. -/
def answer {α : Type} (r : Reply) (value : α) : Except Failure α :=
  match r.failure with
  | some f => .error f
  | none => .ok value

end Reply

inductive Cue
  | hold
  | reply (r : Reply)
deriving DecidableEq, Repr

/-- Cues in the order in which they come up for each operation. -/
abbrev Script := List (Operation × Cue)

/-- The next cue of an operation, and what is left of the script. Where the script is silent the
engine replies plainly. -/
def Script.next (op : Operation) : Script → Cue × Script
  | [] => (.reply .plain, [])
  | (o, cue) :: rest =>
    if o = op then (cue, rest)
    else
      let (found, left) := Script.next op rest
      (found, (o, cue) :: left)

end Rehearsal

/-- A machine, the script, and the calls whose replies are held back. -/
structure Rehearsal (μ κ : Type) where
  machine : μ
  script : Rehearsal.Script
  held : List (Nat × κ)

namespace Rehearsal

/-- What a rehearsal has to know of machines `μ` with events `ε`, calls `κ` and reactions `ρ`. -/
structure Role (μ ε κ ρ : Type) where
  react : μ → ε → ρ
  machine : ρ → μ
  called : ρ → Option (Nat × κ)
  log : ρ → List LogEntry
  operation : κ → Operation
  /-- What the engine writes into the log for a reply, and the event of its answer. -/
  answer : Nat → κ → Reply → List LogEntry × ε

/-- A reaction, with what the engine wrote into the log before it. -/
structure Beat (ρ : Type) where
  said : List LogEntry
  reaction : ρ

/-- What a step of a rehearsal brings about: calls, results by the step that asked for them, and the
log. -/
structure Scene (κ υ : Type) where
  calls : List κ
  returned : List (Nat × υ)
  log : List LogEntry

/-- How many replies may follow each other at once: an action has its reply, and so has the list
that it asks for. -/
def chain : Nat := 2

variable {μ ε κ ρ : Type}

def cue (r : Rehearsal μ κ) (cues : Script) : Rehearsal μ κ := { r with script := r.script ++ cues }

/-- Feeds an event, and after it the replies that come at once. -/
def feed (role : Role μ ε κ ρ) (said : List LogEntry) (event : ε) :
    Nat → Rehearsal μ κ → List (Beat ρ) × Rehearsal μ κ :=
  fun replies r =>
    let reaction := role.react r.machine event
    let beat : Beat ρ := ⟨said, reaction⟩
    let r := { r with machine := role.machine reaction }
    match role.called reaction with
    | none => ([beat], r)
    | some (number, call) =>
      let (cue, left) := r.script.next (role.operation call)
      match cue, replies with
      | .reply reply, replies + 1 =>
        let (said, event) := role.answer number call reply
        let (beats, r) := feed role said event replies { r with script := left }
        (beat :: beats, r)
      | _, _ => ([beat], { r with script := left, held := r.held ++ [(number, call)] })

/-- Feeds events one after the other. -/
def feedAll (role : Role μ ε κ ρ) : List ε → Rehearsal μ κ → List (Beat ρ) × Rehearsal μ κ
  | [], r => ([], r)
  | event :: events, r =>
    let (beats, r) := feed role [] event chain r
    let (more, r) := feedAll role events r
    (beats ++ more, r)

/-- Gives a call the reply that was held back. -/
def release (role : Role μ ε κ ρ) (number : Nat) (reply : Reply) (r : Rehearsal μ κ) :
    List (Beat ρ) × Rehearsal μ κ :=
  match r.held.lookup number with
  | none => ([], r)
  | some call =>
    let (said, event) := role.answer number call reply
    feed role said event chain { r with held := r.held.filter fun h => h.1 != number }

/-- The scene that beats make up, with the results that they return. -/
def Scene.ofBeats {υ : Type} (role : Role μ ε κ ρ) (returned : ρ → Option (Nat × υ))
    (beats : List (Beat ρ)) : Scene κ υ where
  calls := beats.filterMap fun b => (role.called b.reaction).map (·.2)
  returned := beats.filterMap fun b => returned b.reaction
  log := beats.flatMap fun b => b.said ++ role.log b.reaction

end Rehearsal

end DevEnv
