import DevEnv.Pipeline.Basic

/-!
Pipelines with the engine calls that are under way. Calls are numbered in order of issue, any number
of them may be waiting, and their answers come in any order. A run is a list of events.
-/

namespace DevEnv.Pipeline

set_option autoImplicit false

/-- A call to the engine. -/
inductive Call
  | generate (draft : Draft)
  | build (text tag : String)
  | run (request : RunRequest)
deriving DecidableEq, Repr

/-- A call that waits for its answer, with its token. -/
structure Waiting where
  number : Nat
  task : Task
  token : Nat
deriving DecidableEq, Repr

structure Machine where
  pipeline : Pipeline
  waiting : List Waiting
  /-- How many calls have been issued. -/
  issued : Nat
deriving DecidableEq, Repr

inductive Event
  | generate (draft : Draft)
  | build (tag : Option String)
  | run (options : RunOptions) (suffix : String)
  /-- Answers to the call of this number. -/
  | generated (number : Nat) (answer : Except Failure String)
  | built (number : Nat) (answer : Except Failure BuildResult)
  | ran (number : Nat) (answer : Except Failure String)

/-- What a caller gets back. -/
inductive Value
  | document (document : Option Dockerfile)
  | success (built : Bool)
  | container (id : Option String)
  | refused (failure : Failure)
deriving DecidableEq, Repr

/-- All that one event brings about. -/
structure Reaction where
  machine : Machine
  announced : List Stage
  /-- The call that it issues. -/
  called : Option (Nat × Call)
  /-- The caller that it answers, by the number of the call; none for a request refused at once. -/
  returned : Option (Option Nat × Value)
  log : List LogEntry

namespace Machine

def initial : Machine := ⟨.initial, [], 0⟩

/-- A call leaves, and its request becomes the latest of its kind. -/
def issue (m : Machine) (move : Move) (task : Task) (call : Call) : Reaction where
  machine := {
    pipeline := move.pipeline
    waiting := m.waiting ++ [⟨m.issued, task, move.pipeline.tokens.latest task⟩]
    issued := m.issued + 1 }
  announced := move.announced
  called := some (m.issued, call)
  returned := none
  log := []

/-- A request in the wrong stage. -/
def refuse (m : Machine) (task : Task) : Reaction :=
  ⟨m, [], none, some (none, .refused (.engine (m.pipeline.refusal task))), []⟩

/-- A request that the draft at hand makes impossible. -/
def fail (m : Machine) (task : Task) (misuse : Json.Misuse) : Reaction where
  machine := { m with pipeline := m.pipeline.waste task }
  announced := []
  called := none
  returned := some (none, .refused (.unforeseen (.misuse misuse)))
  log := []

/-- Nothing happens: no such call waits. -/
def ignore (m : Machine) : Reaction := ⟨m, [], none, none, []⟩

/-- The waiting call of this number and kind. -/
def find? (m : Machine) (number : Nat) (task : Task) : Option Waiting :=
  m.waiting.find? fun w => w.number == number && w.task == task

/-- An answer arrives and its caller goes on. -/
def conclude (m : Machine) (w : Waiting) (move : Move) (value : Value) (log : List LogEntry) :
    Reaction where
  machine := { m with
    pipeline := move.pipeline
    waiting := m.waiting.filter fun v => v.number != w.number }
  announced := move.announced
  called := none
  returned := some (some w.number, value)
  log := log

/-- What the log says of an answer. -/
def logOfAnswer {α : Type} (task : Task) : Except Failure α → List LogEntry
  | .ok _ => []
  | .error f => Pipeline.logOf task f

def react (m : Machine) : Event → Reaction
  | .generate draft => m.issue (m.pipeline.generate draft) .generate (.generate draft)
  | .build tag =>
    if m.pipeline.canBuild then
      match m.pipeline.tagFor tag with
      | .ok tag => m.issue (m.pipeline.build tag) .build (.build m.pipeline.documentText tag)
      | .error misuse => m.fail .build misuse
    else m.refuse .build
  | .run options suffix =>
    if m.pipeline.canRun then
      match m.pipeline.runRequest options suffix with
      | .ok request => m.issue m.pipeline.run .run (.run request)
      | .error misuse => m.fail .run misuse
    else m.refuse .run
  | .generated number answer =>
    match m.find? number .generate with
    | some w =>
      m.conclude w (m.pipeline.generated w.token answer)
        (.document (m.pipeline.generatedValue w.token answer)) (logOfAnswer .generate answer)
    | none => m.ignore
  | .built number answer =>
    match m.find? number .build with
    | some w =>
      m.conclude w (m.pipeline.built w.token answer)
        (.success (m.pipeline.builtValue w.token answer)) (logOfAnswer .build answer)
    | none => m.ignore
  | .ran number answer =>
    match m.find? number .run with
    | some w =>
      m.conclude w (m.pipeline.ran w.token answer)
        (.container (m.pipeline.ranValue w.token answer)) (logOfAnswer .run answer)
    | none => m.ignore

/-- The machine after a list of events. -/
def after (m : Machine) (events : List Event) : Machine :=
  events.foldl (fun m e => (m.react e).machine) m

end Machine

end DevEnv.Pipeline
