import DevEnv.Pipeline.Machine

/-!
All that one event can do to a pipeline with calls under way: it is granted and a call leaves, it is
refused, it comes to nothing, or it answers a call that counts or one that is superseded. The
theorems about runs rest on this list and do not open the machine again.
-/

namespace DevEnv

set_option autoImplicit false

namespace Task

/-- The stage in which an answer of this kind is awaited. -/
def stage : Task → Stage
  | generate => .generating
  | build => .building
  | run => .running

end Task

namespace Stage

/-- The kind of answer that is awaited in a stage. -/
def awaited? : Stage → Option Task
  | generating => some .generate
  | building => some .build
  | running => some .run
  | _ => none

theorem awaited?_eq_some_iff {s : Stage} {t : Task} : s.awaited? = some t ↔ s = t.stage := by
  cases s <;> cases t <;> simp [awaited?, Task.stage]

@[simp] theorem awaited?_stage (t : Task) : t.stage.awaited? = some t :=
  awaited?_eq_some_iff.mpr rfl

theorem awaited?_eq_none_iff {s : Stage} : s.awaited? = none ↔ ∀ t : Task, s ≠ t.stage := by
  constructor
  · intro h t he
    simp [he] at h
  · intro h
    cases ht : s.awaited? with
    | none => rfl
    | some t => exact absurd (awaited?_eq_some_iff.mp ht) (h t)

end Stage

/-- The build output that comes with a failure. -/
def Failure.logs : Failure → List Json
  | .engine e => e.logs
  | .unforeseen _ => []

namespace Tokens

theorem latest_issue (t : Tokens) (k l : Task) :
    (t.issue k).latest l = if k = l then t.latest l + 1 else t.latest l := by
  cases k <;> cases l <;> simp [issue, latest]

theorem latest_le_latest_issue (t : Tokens) (k l : Task) : t.latest l ≤ (t.issue k).latest l := by
  rw [latest_issue]
  split <;> omega

end Tokens

namespace Pipeline

/-- What the caller of a superseded call gets back. -/
def Value.nothing : Task → Value
  | .generate => .document none
  | .build => .success false
  | .run => .container none

/-- The kind of request that an event is; answers are none. -/
def Event.request? : Event → Option Task
  | .generate _ => some .generate
  | .build _ => some .build
  | .run .. => some .run
  | _ => none

/-- The call that an event answers, by number and kind; requests answer none. -/
def Event.answers? : Event → Option (Nat × Task)
  | .generated number _ => some (number, .generate)
  | .built number _ => some (number, .build)
  | .ran number _ => some (number, .run)
  | _ => none

theorem Event.answers?_of_request? {e : Event} {t : Task} (h : e.request? = some t) :
    e.answers? = none := by
  cases e <;> simp_all [request?, answers?]

theorem Event.request?_of_answers? {e : Event} {call : Nat × Task} (h : e.answers? = some call) :
    e.request? = none := by
  cases e <;> simp_all [request?, answers?]

/-- Whether the stage at hand admits a request. -/
def admits (p : Pipeline) : Task → Bool
  | .generate => true
  | .build => p.canBuild
  | .run => p.canRun

/-- Builds and runs are admitted only while nothing is awaited. -/
theorem awaited?_of_admits {p : Pipeline} {t : Task} (h : p.admits t = true) (ht : t ≠ .generate) :
    p.stage.awaited? = none := by
  cases t with
  | generate => exact absurd rfl ht
  | build =>
    simp only [admits, canBuild, Bool.or_eq_true, beq_iff_eq] at h
    rcases h with h | h <;> simp [h, Stage.awaited?]
  | run =>
    simp only [admits, canRun, beq_iff_eq] at h
    simp [h, Stage.awaited?]

/-- A request that is granted, the move that it makes and the call that it issues. -/
inductive Grants (p : Pipeline) : Event → Task → Move → Call → Prop
  | generate (draft : Draft) :
    Grants p (.generate draft) .generate (p.generate draft) (.generate draft)
  | build {given : Option String} {tag : String} (can : p.canBuild = true)
    (chosen : p.tagFor given = .ok tag) :
    Grants p (.build given) .build (p.build tag) (.build p.documentText tag)
  | run {options : RunOptions} {suffix : String} {request : RunRequest} (can : p.canRun = true)
    (made : p.runRequest options suffix = .ok request) :
    Grants p (.run options suffix) .run p.run (.run request)

/-- A request that the stage admits and the draft at hand makes impossible. -/
inductive Precludes (p : Pipeline) : Event → Task → Json.Misuse → Prop
  | build {given : Option String} {misuse : Json.Misuse} (can : p.canBuild = true)
    (bad : p.tagFor given = .error misuse) : Precludes p (.build given) .build misuse
  | run {options : RunOptions} {suffix : String} {misuse : Json.Misuse} (can : p.canRun = true)
    (bad : p.runRequest options suffix = .error misuse) :
    Precludes p (.run options suffix) .run misuse

/-- An answer that counts, the move that it makes and what its caller gets back. -/
inductive Counts (p : Pipeline) (number : Nat) : Event → Task → Move → Value → Prop
  | generated (text : String) :
    Counts p number (.generated number (.ok text)) .generate
      (enter { p with document := some (.ofText text) } .ready) (.document (some (.ofText text)))
  | notGenerated (f : Failure) :
    Counts p number (.generated number (.error f)) .generate
      (enter { p with error := some f.describe } .generateError) (.document none)
  | built (result : BuildResult) :
    Counts p number (.built number (.ok result)) .build
      (enter { p with logs := p.logs ++ result.logs, tag := some result.tag } .built)
      (.success true)
  | notBuilt (f : Failure) :
    Counts p number (.built number (.error f)) .build
      (enter { p with logs := p.logs ++ f.logs, error := some f.describe } .buildError)
      (.success false)
  | ran (id : String) :
    Counts p number (.ran number (.ok id)) .run
      (enter { p with containerId := some id } .ran) (.container (some id))
  | notRan (f : Failure) :
    Counts p number (.ran number (.error f)) .run
      (enter { p with error := some f.describe } .runError) (.container none)

namespace Machine

/-- Whether no later request has outdated the call. -/
def isCurrent (m : Machine) (w : Waiting) : Bool := w.token == m.pipeline.tokens.latest w.task

/-- The calls under way whose answers will count. -/
def current (m : Machine) : List Waiting := m.waiting.filter m.isCurrent

theorem mem_current_iff {m : Machine} {w : Waiting} :
    w ∈ m.current ↔ w ∈ m.waiting ∧ w.token = m.pipeline.tokens.latest w.task := by
  simp [current, isCurrent]

/-- An event and what it can bring about. -/
inductive Reacts (m : Machine) (e : Event) : Reaction → Prop
  | issue {task : Task} {move : Move} {call : Call} (granted : Grants m.pipeline e task move call) :
    Reacts m e (m.issue move task call)
  /-- The stage does not admit the request. -/
  | refuse {task : Task} (asked : e.request? = some task) (closed : m.pipeline.admits task = false) :
    Reacts m e (m.refuse task)
  | fail {task : Task} {misuse : Json.Misuse} (precluded : Precludes m.pipeline e task misuse) :
    Reacts m e (m.fail task misuse)
  | count {w : Waiting} {move : Move} {value : Value} (log : List LogEntry) (waits : w ∈ m.current)
    (counts : Counts m.pipeline w.number e w.task move value) :
    Reacts m e (m.conclude w move value log)
  | supersede {w : Waiting} (log : List LogEntry) (waits : w ∈ m.waiting) (late : w ∉ m.current)
    (answers : e.answers? = some (w.number, w.task)) :
    Reacts m e (m.conclude w m.pipeline.stay (.nothing w.task) log)
  /-- No such call is under way. -/
  | ignore {number : Nat} {task : Task} (answers : e.answers? = some (number, task))
    (missing : ∀ w ∈ m.waiting, ¬ (w.number = number ∧ w.task = task)) :
    Reacts m e m.ignore

theorem find?_eq_some {m : Machine} {number : Nat} {task : Task} {w : Waiting}
    (h : m.find? number task = some w) : w ∈ m.waiting ∧ w.number = number ∧ w.task = task := by
  refine ⟨List.mem_of_find?_eq_some h, ?_⟩
  simpa using List.find?_some h

theorem find?_eq_none {m : Machine} {number : Nat} {task : Task}
    (h : m.find? number task = none) : ∀ w ∈ m.waiting, ¬ (w.number = number ∧ w.task = task) := by
  simpa [find?] using h

/-- The three kinds of answers are taken alike: by a call whose token is the latest, or in vain. -/
theorem reacts_of_answers {m : Machine} {e : Event} {number : Nat} {task : Task}
    (move : Nat → Move) (value : Nat → Value) (log : List LogEntry)
    (answers : e.answers? = some (number, task))
    (counts : Counts m.pipeline number e task (move (m.pipeline.tokens.latest task))
      (value (m.pipeline.tokens.latest task)))
    (late : ∀ token, m.pipeline.tokens.latest task ≠ token →
      move token = m.pipeline.stay ∧ value token = .nothing task) :
    Reacts m e (match m.find? number task with
      | some w => m.conclude w (move w.token) (value w.token) log
      | none => m.ignore) := by
  cases hf : m.find? number task with
  | none => exact .ignore answers (find?_eq_none hf)
  | some w =>
    obtain ⟨hw, rfl, rfl⟩ := find?_eq_some hf
    by_cases hc : m.pipeline.tokens.latest w.task = w.token
    · rw [hc] at counts
      exact .count log (mem_current_iff.mpr ⟨hw, hc.symm⟩) counts
    · obtain ⟨hmove, hvalue⟩ := late w.token hc
      simp only [hmove, hvalue]
      exact .supersede log hw (fun h => hc (mem_current_iff.mp h).2.symm) answers

theorem reacts (m : Machine) (e : Event) : Reacts m e (m.react e) := by
  cases e with
  | generate draft => exact .issue (.generate draft)
  | build given =>
    simp only [react]
    split
    · rename_i can
      cases result : m.pipeline.tagFor given with
      | ok tag => exact .issue (.build can result)
      | error misuse => exact .fail (.build can result)
    · rename_i cannot
      exact .refuse rfl (by simpa [admits] using cannot)
  | run options suffix =>
    simp only [react]
    split
    · rename_i can
      cases result : m.pipeline.runRequest options suffix with
      | ok request => exact .issue (.run can result)
      | error misuse => exact .fail (.run can result)
    · rename_i cannot
      exact .refuse rfl (by simpa [admits] using cannot)
  | generated number answer =>
    refine reacts_of_answers (fun t => m.pipeline.generated t answer)
      (fun t => .document (m.pipeline.generatedValue t answer)) _ rfl ?_ ?_
    · cases answer with
      | ok text => simpa [Pipeline.generated, generatedValue, Tokens.latest] using Counts.generated text
      | error f =>
        simpa [Pipeline.generated, generatedValue, Tokens.latest] using Counts.notGenerated f
    · intro token h
      cases answer <;> simp_all [Tokens.latest, Pipeline.generated, generatedValue, Value.nothing]
  | built number answer =>
    refine reacts_of_answers (fun t => m.pipeline.built t answer)
      (fun t => .success (m.pipeline.builtValue t answer)) _ rfl ?_ ?_
    · cases answer with
      | ok result => simpa [Pipeline.built, builtValue, Tokens.latest] using Counts.built result
      | error f =>
        have h : Counts m.pipeline number (.built number (.error f)) .build _ _ := .notBuilt f
        cases f <;> simpa [Pipeline.built, builtValue, Tokens.latest, Failure.logs] using h
    · intro token h
      cases answer <;> simp_all [Tokens.latest, Pipeline.built, builtValue, Value.nothing]
  | ran number answer =>
    refine reacts_of_answers (fun t => m.pipeline.ran t answer)
      (fun t => .container (m.pipeline.ranValue t answer)) _ rfl ?_ ?_
    · cases answer with
      | ok id => simpa [Pipeline.ran, ranValue, Tokens.latest] using Counts.ran id
      | error f => simpa [Pipeline.ran, ranValue, Tokens.latest] using Counts.notRan f
    · intro token h
      cases answer <;> simp_all [Tokens.latest, Pipeline.ran, ranValue, Value.nothing]

/-! ### The other way round -/

theorem react_of_grants {m : Machine} {e : Event} {task : Task} {move : Move} {call : Call}
    (h : Grants m.pipeline e task move call) : m.react e = m.issue move task call := by
  cases h with
  | generate draft => rfl
  | build can chosen => simp [react, can, chosen]
  | run can made => simp [react, can, made]

theorem react_of_precludes {m : Machine} {e : Event} {task : Task} {misuse : Json.Misuse}
    (h : Precludes m.pipeline e task misuse) : m.react e = m.fail task misuse := by
  cases h with
  | build can bad => simp [react, can, bad]
  | run can bad => simp [react, can, bad]

theorem react_of_not_admits {m : Machine} {e : Event} {task : Task} (asked : e.request? = some task)
    (closed : m.pipeline.admits task = false) : m.react e = m.refuse task := by
  cases e <;> simp only [Event.request?, Option.some.injEq, reduceCtorEq] at asked <;> subst asked
  · simp [admits] at closed
  · simp_all [react, admits]
  · simp_all [react, admits]

/-- What a log says is the only thing that this does not tell of an answer that counts. -/
theorem react_of_counts {m : Machine} {e : Event} {w : Waiting} {move : Move} {value : Value}
    (found : m.find? w.number w.task = some w) (waits : w ∈ m.current)
    (h : Counts m.pipeline w.number e w.task move value) :
    ∃ log, m.react e = m.conclude w move value log := by
  obtain ⟨number, task, token⟩ := w
  have latest := (mem_current_iff.mp waits).2
  cases h with
  | generated | notGenerated =>
    exact ⟨_, by simp_all [react, Pipeline.generated, generatedValue, Tokens.latest]; rfl⟩
  | built => exact ⟨_, by simp_all [react, Pipeline.built, builtValue, Tokens.latest]; rfl⟩
  | notBuilt f =>
    cases f <;>
      exact ⟨_, by simp_all [react, Pipeline.built, builtValue, Tokens.latest, Failure.logs]; rfl⟩
  | ran | notRan => exact ⟨_, by simp_all [react, Pipeline.ran, ranValue, Tokens.latest]; rfl⟩

end Machine

end Pipeline

end DevEnv
