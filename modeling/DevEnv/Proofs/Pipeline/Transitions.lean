import DevEnv.Proofs.Pipeline.Requests
import DevEnv.Proofs.Pipeline.Superseded

/-!
The order of the stages. What a listener is told over a run is a path from the first stage to the one at
hand, and a build or a run is taken up in its own stages only.

An answer comes long after the stage was looked at. That it finds the stage in which its call was made
is no check of the machine but the invariant of runs: the answers of all other calls are superseded.
-/

namespace DevEnv

set_option autoImplicit false

/-- The stages that may come next. -/
inductive Stage.LeadsTo : Stage → Stage → Prop
  | generating (s : Stage) : LeadsTo s .generating
  | ready : LeadsTo .generating .ready
  | generateError : LeadsTo .generating .generateError
  | building : LeadsTo .ready .building
  | rebuilding : LeadsTo .buildError .building
  | built : LeadsTo .building .built
  | buildError : LeadsTo .building .buildError
  | running : LeadsTo .built .running
  | ran : LeadsTo .running .ran
  | runError : LeadsTo .running .runError

namespace Pipeline

variable {p : Pipeline} {e : Event} {t : Task}

/-- The stages in which requests of a kind are taken up. -/
def admitting : Task → List Stage
  | .generate => [.idle, .generating, .ready, .generateError, .building, .built, .buildError,
      .running, .ran, .runError]
  | .build => [.ready, .buildError]
  | .run => [.built]

theorem admits_iff : p.admits t = true ↔ p.stage ∈ admitting t := by
  cases t with
  | generate => cases h : p.stage <;> simp [admits, admitting]
  | build => simp [admits, admitting, canBuild]
  | run => simp [admits, admitting, canRun]

theorem Grants.admits {move : Move} {call : Call} (h : Grants p e t move call) :
    p.admits t = true := by
  cases h with
  | generate draft => rfl
  | build can _ => exact can
  | run can _ => exact can

theorem Precludes.admits {misuse : Json.Misuse} (h : Precludes p e t misuse) :
    p.admits t = true := by
  cases h with
  | build can _ => exact can
  | run can _ => exact can

theorem Grants.announced {move : Move} {call : Call} (h : Grants p e t move call) :
    move.announced = [t.stage] := by
  cases h <;> rfl

theorem leadsTo_of_admits (h : p.admits t = true) : p.stage.LeadsTo t.stage := by
  rw [admits_iff] at h
  cases t with
  | generate => exact .generating _
  | build =>
    rcases List.mem_cons.mp h with h | h
    · exact h ▸ .building
    · exact List.mem_singleton.mp h ▸ .rebuilding
  | run => exact List.mem_singleton.mp h ▸ .running

theorem Counts.announced {number : Nat} {move : Move} {value : Value}
    (h : Counts p number e t move value) : move.announced = [move.pipeline.stage] := by
  cases h <;> rfl

theorem Counts.leadsTo {number : Nat} {move : Move} {value : Value}
    (h : Counts p number e t move value) : t.stage.LeadsTo move.pipeline.stage := by
  cases h with
  | generated => exact .ready
  | notGenerated => exact .generateError
  | built => exact .built
  | notBuilt => exact .buildError
  | ran => exact .ran
  | notRan => exact .runError

namespace Machine

variable {m : Machine} {r : Reaction}

/-- A step announces the stage that it leads to, or stays where it is. -/
theorem Inv.announced (h : m.Inv) (hr : Reacts m e r) :
    (r.announced = [] ∧ r.machine.pipeline.stage = m.pipeline.stage) ∨
      (r.announced = [r.machine.pipeline.stage] ∧
        m.pipeline.stage.LeadsTo r.machine.pipeline.stage) := by
  cases hr with
  | @issue task move call granted =>
    have stage : (m.issue move task call).machine.pipeline.stage = task.stage := granted.stage
    rw [stage]
    exact .inr ⟨granted.announced, leadsTo_of_admits granted.admits⟩
  | refuse | fail | ignore => exact .inl ⟨rfl, rfl⟩
  | supersede => exact .inl ⟨rfl, rfl⟩
  | count log waits counts =>
    refine .inr ⟨counts.announced, ?_⟩
    -- The call is current, so that the stage is the one in which it was made.
    rw [(current_eq_singleton h waits).2]
    exact counts.leadsTo

theorem announcements_append_singleton (m : Machine) (es : List Event) (e : Event) :
    m.announcements (es ++ [e]) = m.announcements es ++ ((m.after es).react e).announced := by
  simp [announcements, steps_append_singleton]

/-- All that is announced in a run is a path that ends in the stage at hand. -/
theorem announcements_path (es : List Event) :
    (Stage.idle :: initial.announcements es).IsChain Stage.LeadsTo ∧
      (Stage.idle :: initial.announcements es).getLast? =
        some (initial.after es).pipeline.stage := by
  -- The path so far ends in the stage at hand, from which the last step leads on.
  induction es using List.reverseRecOn with
  | nil => exact ⟨.singleton _, rfl⟩
  | append_singleton es e ih =>
    obtain ⟨path, last⟩ := ih
    rw [announcements_append_singleton, after_append_singleton, ← List.cons_append]
    rcases (inv_initial.after es).announced (reacts _ e) with ⟨silent, same⟩ | ⟨told, leads⟩
    · rw [silent, same, List.append_nil]
      exact ⟨path, last⟩
    · rw [told]
      refine ⟨path.append (.singleton _) ?_, List.getLast?_concat⟩
      intro x hx y hy
      rw [last] at hx
      obtain rfl := Option.some.inj hx
      obtain rfl := Option.some.inj hy
      exact leads

/-- In a run over drafts of valid environments no other draft is ever at hand. -/
theorem described_of_mem_steps {es : List Event} {s : Step}
    (described : ∀ d, Event.generate d ∈ es → ∃ e : Environment, d = e.toDraft)
    {m : Machine} (h : ∀ d, m.pipeline.draft = some d → ∃ e : Environment, d = e.toDraft)
    (hs : s ∈ m.steps es) :
    ∀ d, s.before.pipeline.draft = some d → ∃ e : Environment, d = e.toDraft := by
  induction es generalizing m with
  | nil => cases hs
  | cons e es ih =>
    rcases List.mem_cons.mp hs with rfl | hs
    · exact h
    · refine ih (fun d hd => described d (List.mem_cons_of_mem e hd)) ?_ hs
      have hr := m.reacts e
      generalize m.react e = r at hr
      cases hr with
      | issue granted =>
        cases granted with
        | generate draft =>
          intro d hd
          obtain rfl := Option.some.inj hd
          exact described _ List.mem_cons_self
        | build | run => exact h
      | @count w _ _ log waits counts =>
        obtain ⟨number, task, token⟩ := w
        cases counts <;> exact h
      | refuse | fail | supersede | ignore => exact h

end Machine

/-! ### Requests -/

/-- The request of the step is taken up: it gets a new token, a call leaves, and the stage in which its
answer is awaited is announced. -/
structure Step.Begins (s : Step) (t : Task) : Prop where
  token : s.pipeline.tokens.latest t = s.before.pipeline.tokens.latest t + 1
  called : ∃ call, s.reaction.called = some (s.before.issued, call)
  announced : s.reaction.announced = [t.stage]
  returned : s.reaction.returned = none

/-- The request is admitted, and the draft at hand turns out to be of no use for it. -/
def Step.Precluded (s : Step) (t : Task) : Prop :=
  ∃ misuse, Precludes s.before.pipeline s.event t misuse

def Step.Accepts (s : Step) (t : Task) : Prop := s.Begins t ∨ s.Precluded t

/-- The request is turned away in the stage at hand, and that is all that happens. -/
structure Step.Rejects (s : Step) (t : Task) : Prop where
  returned : s.reaction.returned = some (none, .refused (.engine
    (.notNow ("Cannot " ++ t.name ++ " while " ++ s.before.pipeline.stage.name))))
  machine : s.reaction.machine = s.before
  announced : s.reaction.announced = []
  called : s.reaction.called = none
  log : s.reaction.log = []

section Requests
variable {s : Step}

theorem Grants.token {move : Move} {call : Call} (h : Grants p e t move call) :
    move.pipeline.tokens.latest t = p.tokens.latest t + 1 := by
  cases h <;> simp [Pipeline.generate, Pipeline.build, Pipeline.run, enter, Tokens.latest,
    Tokens.issue]

theorem Step.accepts_of_admits (reacts : s.reaction = s.before.react s.event)
    (asked : s.event.request? = some t) (open_ : s.before.pipeline.admits t = true) :
    s.Accepts t := by
  have hr := s.before.reacts s.event
  rw [← reacts] at hr
  obtain ⟨before, event, reaction⟩ := s
  dsimp only at reacts asked open_ hr
  cases hr with
  | issue granted =>
    obtain rfl := Option.some.inj (asked.symm.trans granted.request?)
    exact .inl ⟨granted.token, ⟨_, rfl⟩, granted.announced, rfl⟩
  | refuse asked' closed =>
    obtain rfl := Option.some.inj (asked.symm.trans asked')
    rw [open_] at closed
    cases closed
  | fail precluded =>
    obtain rfl := Option.some.inj (asked.symm.trans precluded.request?)
    exact .inr ⟨_, precluded⟩
  | count log waits counts =>
    rw [Event.request?_of_answers? counts.answers?] at asked
    cases asked
  | supersede log waits late answers =>
    rw [Event.request?_of_answers? answers] at asked
    cases asked
  | ignore answers missing =>
    rw [Event.request?_of_answers? answers] at asked
    cases asked

theorem Step.rejects_of_not_admits (reacts : s.reaction = s.before.react s.event)
    (asked : s.event.request? = some t) (closed : s.before.pipeline.admits t = false) :
    s.Rejects t := by
  obtain ⟨before, event, reaction⟩ := s
  obtain rfl : reaction = before.refuse t := reacts.trans (Machine.react_of_not_admits asked closed)
  exact ⟨rfl, rfl, rfl, rfl, rfl⟩

theorem Step.Rejects.not_accepts (h : s.Rejects t) (closed : s.before.pipeline.admits t = false) :
    ¬ s.Accepts t := by
  rintro (begins | ⟨misuse, precluded⟩)
  · have none := begins.returned
    rw [h.returned] at none
    cases none
  · rw [precluded.admits] at closed
    cases closed

theorem Step.accepts_iff (reacts : s.reaction = s.before.react s.event)
    (asked : s.event.request? = some t) :
    (s.Accepts t ↔ s.before.pipeline.stage ∈ admitting t) ∧ (¬ s.Accepts t → s.Rejects t) := by
  cases admitted : s.before.pipeline.admits t with
  | true =>
    have accepts := Step.accepts_of_admits reacts asked admitted
    exact ⟨⟨fun _ => admits_iff.mp admitted, fun _ => accepts⟩, fun none => absurd accepts none⟩
  | false =>
    have rejects := Step.rejects_of_not_admits reacts asked admitted
    refine ⟨⟨fun accepts => absurd accepts (rejects.not_accepts admitted), ?_⟩, fun _ => rejects⟩
    intro stage
    rw [admits_iff.mpr stage] at admitted
    cases admitted

/-- No draft of a valid environment is of no use. -/
theorem Step.not_precluded
    (h : ∀ d, s.before.pipeline.draft = some d → ∃ e : Environment, d = e.toDraft)
    (coherent : s.before.pipeline.Coherent) : ¬ s.Precluded t := by
  obtain ⟨before, event, reaction⟩ := s
  dsimp only at h coherent
  rintro ⟨misuse, precluded⟩
  dsimp only at precluded
  have awake : before.pipeline.stage ≠ .idle := by
    intro idle
    have admitted := precluded.admits
    rw [admits_iff, idle] at admitted
    cases precluded <;> simp [admitting] at admitted
  obtain ⟨d, draft⟩ := Option.isSome_iff_exists.mp (coherent.draft.mpr awake)
  obtain ⟨e, rfl⟩ := h d draft
  cases precluded with
  | build can bad =>
    rw [tagFor_toDraft draft] at bad
    cases bad
  | run can bad =>
    rw [runRequest_toDraft draft] at bad
    cases bad

end Requests

/-- How the stages of a run follow one another, and which requests they let pass. -/
structure Staged (es : List Event) : Prop where
  path : (Stage.idle :: Machine.initial.announcements es).IsChain Stage.LeadsTo
  last : (Stage.idle :: Machine.initial.announcements es).getLast? =
    some (Machine.initial.after es).pipeline.stage
  generations : ∀ s ∈ Machine.initial.steps es, ∀ d, s.event = .generate d → s.Begins .generate
  builds : ∀ s ∈ Machine.initial.steps es, ∀ given, s.event = .build given →
    (s.Accepts .build ↔ s.before.pipeline.stage = .ready ∨ s.before.pipeline.stage = .buildError) ∧
    (¬ s.Accepts .build → s.Rejects .build)
  runs : ∀ s ∈ Machine.initial.steps es, ∀ options suffix, s.event = .run options suffix →
    (s.Accepts .run ↔ s.before.pipeline.stage = .built) ∧ (¬ s.Accepts .run → s.Rejects .run)
  /-- With drafts of valid environments only, what is accepted begins. -/
  begins : (∀ d, Event.generate d ∈ es → ∃ e : Environment, d = e.toDraft) →
    ∀ s ∈ Machine.initial.steps es, ∀ t, s.Accepts t → s.Begins t

theorem stages_followed (es : List Event) : Staged es where
  path := (Machine.announcements_path es).1
  last := (Machine.announcements_path es).2
  generations s hs d asked := by
    obtain ⟨-, reacts⟩ := Machine.inv_initial.before_of_mem_steps hs
    have request : s.event.request? = some .generate := by rw [asked]; rfl
    rcases Step.accepts_of_admits reacts request rfl with begins | ⟨misuse, precluded⟩
    · exact begins
    · rw [asked] at precluded
      cases precluded
  builds s hs given asked := by
    obtain ⟨-, reacts⟩ := Machine.inv_initial.before_of_mem_steps hs
    have request : s.event.request? = some .build := by rw [asked]; rfl
    simpa [admitting] using Step.accepts_iff reacts request
  runs s hs options suffix asked := by
    obtain ⟨-, reacts⟩ := Machine.inv_initial.before_of_mem_steps hs
    have request : s.event.request? = some .run := by rw [asked]; rfl
    simpa [admitting] using Step.accepts_iff reacts request
  begins described s hs t accepts := by
    obtain ⟨inv, -⟩ := Machine.inv_initial.before_of_mem_steps hs
    have drafts := Machine.described_of_mem_steps described
      (m := Machine.initial) nofun hs
    exact accepts.resolve_right (Step.not_precluded drafts inv.coherent)

/-- A first draft is built and fails, is built again and run, while requests in other stages come to
nothing. -/
example :
    let d : Draft := ⟨.null, ⟨.text "debian", .text "bookworm"⟩, [], none⟩
    Machine.initial.announcements [.build none, .generate d, .generated 0 (.ok "FROM x\n"),
      .run ⟨none, []⟩ "0123abcd", .build none, .built 1 (.error (.unforeseen (.runtime "x"))),
      .build none, .built 2 (.ok ⟨"x", []⟩), .run ⟨none, []⟩ "0123abcd"] =
    [.generating, .ready, .building, .buildError, .building, .built, .running] := rfl

end Pipeline

end DevEnv
