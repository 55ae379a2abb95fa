import DevEnv.Proofs.Pipeline.Reaction
import Mathlib.Data.List.Nodup

/-!
What holds of a pipeline at every point of every run: the stage tells which results are at hand, and
it awaits an answer exactly if one call under way is current.

The stage alone does not carry an induction over runs. A superseded answer leaves the stage alone
only because no two calls share a number, and a new call makes all earlier ones superseded only
because no call is ahead of the latest token of its kind.
-/

namespace DevEnv.Pipeline

set_option autoImplicit false

/-- Which fields are set in which stage. -/
structure Coherent (p : Pipeline) : Prop where
  draft : p.draft.isSome ↔ p.stage ≠ .idle
  document : p.document.isSome ↔ p.stage ∉ [.idle, .generating, .generateError]
  tag : p.tag.isSome ↔ p.stage ∈ [.building, .built, .buildError, .running, .ran, .runError]
  error : p.error.isSome ↔ p.stage ∈ [.generateError, .buildError, .runError]
  containerId : p.containerId.isSome ↔ p.stage = .ran
  logs : p.stage ∈ [.idle, .generating, .generateError, .ready, .building] → p.logs = []

theorem coherent_initial : initial.Coherent := by
  constructor <;> simp [initial]

/-! ### Requests that are granted and answers that count -/

section Moves

variable {p : Pipeline} {e : Event} {t : Task} {move : Move} {call : Call} {number : Nat}
  {value : Value}

theorem Grants.request? (h : Grants p e t move call) : e.request? = some t := by
  cases h <;> rfl

theorem Grants.stage (h : Grants p e t move call) : move.pipeline.stage = t.stage := by
  cases h <;> rfl

/-- A granted request makes every earlier call superseded: it outdates them all, or none of them was
current before. -/
theorem Grants.outdates (h : Grants p e t move call) (k : Task) :
    p.tokens.latest k < move.pipeline.tokens.latest k ∨
      p.stage.awaited? = none ∧ p.tokens.latest k ≤ move.pipeline.tokens.latest k := by
  cases h with
  | generate draft =>
    left
    cases k <;> simp [Pipeline.generate, enter, Tokens.latest, Tokens.issue]
  | build can _ =>
    right
    exact ⟨awaited?_of_admits (t := .build) can (by simp), Tokens.latest_le_latest_issue ..⟩
  | run can _ =>
    right
    exact ⟨awaited?_of_admits (t := .run) can (by simp), Tokens.latest_le_latest_issue ..⟩

theorem Precludes.request? {misuse : Json.Misuse} (h : Precludes p e t misuse) :
    e.request? = some t := by
  cases h <;> rfl

theorem Precludes.awaited? {misuse : Json.Misuse} (h : Precludes p e t misuse) :
    p.stage.awaited? = none := by
  cases h with
  | build can _ => exact awaited?_of_admits (t := .build) can (by simp)
  | run can _ => exact awaited?_of_admits (t := .run) can (by simp)

theorem Counts.answers? (h : Counts p number e t move value) : e.answers? = some (number, t) := by
  cases h <;> rfl

theorem Counts.tokens (h : Counts p number e t move value) : move.pipeline.tokens = p.tokens := by
  cases h <;> rfl

theorem Counts.awaited? (h : Counts p number e t move value) :
    move.pipeline.stage.awaited? = none := by
  cases h <;> rfl

theorem Coherent.grants (hp : p.Coherent) (h : Grants p e t move call) :
    move.pipeline.Coherent := by
  cases h with
  | generate draft => constructor <;> simp [generate, enter]
  | build can _ =>
    simp only [canBuild, Bool.or_eq_true, beq_iff_eq] at can
    have hdocument := hp.document
    have hdraft := hp.draft
    have hid := hp.containerId
    constructor <;> rcases can with can | can <;> simp_all [build, enter]
  | run can _ =>
    simp only [canRun, beq_iff_eq] at can
    have hdocument := hp.document
    have hdraft := hp.draft
    have htag := hp.tag
    have hid := hp.containerId
    constructor <;> simp_all [run, enter]

/-- An answer that counts finds the stage that awaits it. -/
theorem Coherent.counts (hp : p.Coherent) (hs : p.stage = t.stage)
    (h : Counts p number e t move value) : move.pipeline.Coherent := by
  obtain ⟨hdraft, hdocument, htag, herror, hid, hlogs⟩ := hp
  cases h <;> constructor <;> simp_all [enter, Task.stage]

theorem Coherent.waste (hp : p.Coherent) (t : Task) : (p.waste t).Coherent :=
  ⟨hp.draft, hp.document, hp.tag, hp.error, hp.containerId, hp.logs⟩

end Moves

namespace Machine

/-- Calls have numbers of their own, and none is ahead of the latest token of its kind. -/
structure Tidy (m : Machine) : Prop where
  bounded : ∀ w ∈ m.waiting, w.token ≤ m.pipeline.tokens.latest w.task
  numbered : ∀ w ∈ m.waiting, w.number < m.issued
  distinct : (m.waiting.map Waiting.number).Nodup

/-- The invariant of runs. -/
structure Inv (m : Machine) : Prop where
  tidy : m.Tidy
  calls : m.current.map Waiting.task = m.pipeline.stage.awaited?.toList
  coherent : m.pipeline.Coherent

theorem inv_initial : initial.Inv where
  tidy := ⟨by simp [initial], by simp [initial], by simp [initial]⟩
  calls := rfl
  coherent := coherent_initial

variable {m : Machine} {e : Event} {r : Reaction}

theorem current_eq_nil (h : m.Inv) (hs : m.pipeline.stage.awaited? = none) : m.current = [] := by
  simpa [hs] using h.calls

/-- At most one call is current, and the stage awaits its answer. -/
theorem current_eq_singleton (h : m.Inv) {w : Waiting} (hw : w ∈ m.current) :
    m.current = [w] ∧ m.pipeline.stage = w.task.stage := by
  have hc := h.calls
  cases hs : m.pipeline.stage.awaited? with
  | none => simp [current_eq_nil h hs] at hw
  | some t =>
    rw [hs, Option.toList_some, List.map_eq_singleton_iff] at hc
    obtain ⟨v, hv, rfl⟩ := hc
    have hwv : w = v := by simpa [hv] using hw
    subst hwv
    exact ⟨hv, Stage.awaited?_eq_some_iff.mp hs⟩

/-- Calls of one number are one call. -/
theorem Tidy.eq_of_number_eq (h : m.Tidy) {v w : Waiting} (hv : v ∈ m.waiting) (hw : w ∈ m.waiting)
    (he : v.number = w.number) : v = w :=
  List.inj_on_of_nodup_map h.distinct hv hw he

theorem Tidy.token_lt (h : m.Tidy) {w : Waiting} (hw : w ∈ m.waiting) (hn : w ∉ m.current) :
    w.token < m.pipeline.tokens.latest w.task := by
  have hle := h.bounded w hw
  have hne : w.token ≠ m.pipeline.tokens.latest w.task := fun he =>
    hn (mem_current_iff.mpr ⟨hw, he⟩)
  omega

/-- After a granted request all calls of before are behind the latest tokens. -/
theorem token_lt_of_grants (h : m.Inv) {t : Task} {move : Move} {call : Call}
    (hg : Grants m.pipeline e t move call) :
    ∀ w ∈ m.waiting, w.token < move.pipeline.tokens.latest w.task := by
  intro w hw
  rcases hg.outdates w.task with hlt | ⟨hs, hmono⟩
  · have hle := h.tidy.bounded w hw
    omega
  · have hlt := h.tidy.token_lt hw (by simp [current_eq_nil h hs])
    omega

/-- The call of a granted request is the only current one. -/
theorem current_issue (h : m.Inv) {t : Task} {move : Move} {call : Call}
    (hg : Grants m.pipeline e t move call) :
    (m.issue move t call).machine.current =
      [⟨m.issued, t, move.pipeline.tokens.latest t⟩] := by
  have hold : m.waiting.filter (isCurrent (m.issue move t call).machine) = [] := by
    apply List.filter_eq_nil_iff.mpr
    intro w hw
    have := token_lt_of_grants h hg w hw
    simp only [isCurrent, issue, beq_iff_eq]
    omega
  have hnew : isCurrent (m.issue move t call).machine
      ⟨m.issued, t, move.pipeline.tokens.latest t⟩ = true := by
    simp [isCurrent, issue]
  simp only [current]
  simp only [issue, List.filter_append] at hold hnew ⊢
  simp [hold, hnew]

/-- An answer that leaves the tokens alone makes nothing current or superseded. -/
theorem current_conclude {w : Waiting} {move : Move} {value : Value} {log : List LogEntry}
    (ht : move.pipeline.tokens = m.pipeline.tokens) :
    (m.conclude w move value log).machine.current =
      m.current.filter fun v => v.number != w.number := by
  simp only [current, conclude, List.filter_filter]
  congr 1
  funext v
  simp [isCurrent, ht, Bool.and_comm]

theorem current_fail (h : m.Inv) {t : Task} {misuse : Json.Misuse}
    (hs : m.pipeline.stage.awaited? = none) : (m.fail t misuse).machine.current = [] := by
  apply List.filter_eq_nil_iff.mpr
  intro w hw
  have hlt := h.tidy.token_lt hw (by simp [current_eq_nil h hs])
  have hmono := Tokens.latest_le_latest_issue m.pipeline.tokens t w.task
  simp only [isCurrent, fail, waste, beq_iff_eq]
  omega

/-- Taking a superseded call away leaves the current ones. -/
theorem current_supersede (h : m.Tidy) {w : Waiting} {value : Value} {log : List LogEntry}
    (hw : w ∈ m.waiting) (late : w ∉ m.current) :
    (m.conclude w m.pipeline.stay value log).machine.current = m.current := by
  rw [current_conclude rfl, List.filter_eq_self]
  intro v hv
  have hne : v.number ≠ w.number := fun he =>
    late (h.eq_of_number_eq (mem_current_iff.mp hv).1 hw he ▸ hv)
  simpa using hne

/-- Taking the current call away leaves none. -/
theorem current_count (h : m.Inv) {w : Waiting} {move : Move} {value : Value}
    {log : List LogEntry} (hw : w ∈ m.current)
    (hc : Counts m.pipeline w.number e w.task move value) :
    (m.conclude w move value log).machine.current = [] := by
  rw [current_conclude hc.tokens, (current_eq_singleton h hw).1]
  simp

/-! ### Steps and runs -/

theorem tidy_issue (h : m.Inv) {t : Task} {move : Move} {call : Call}
    (hg : Grants m.pipeline e t move call) : (m.issue move t call).machine.Tidy where
  bounded := by
    intro w hw
    rcases List.mem_append.mp hw with hold | hnew
    · exact Nat.le_of_lt (token_lt_of_grants h hg w hold)
    · rw [List.mem_singleton.mp hnew]
      exact Nat.le_refl _
  numbered := by
    intro w hw
    rcases List.mem_append.mp hw with hold | hnew
    · exact Nat.lt_succ_of_lt (h.tidy.numbered w hold)
    · rw [List.mem_singleton.mp hnew]
      exact Nat.lt_succ_self _
  distinct := by
    simp only [issue, List.map_append, List.map_cons, List.map_nil, List.nodup_append]
    refine ⟨h.tidy.distinct, by simp, ?_⟩
    intro a ha b hb
    obtain ⟨w, hw, rfl⟩ := List.mem_map.mp ha
    have hlt := h.tidy.numbered w hw
    rw [List.mem_singleton.mp hb]
    exact Nat.ne_of_lt hlt

theorem Tidy.conclude (h : m.Tidy) {w : Waiting} {move : Move} {value : Value}
    {log : List LogEntry} (ht : move.pipeline.tokens = m.pipeline.tokens) :
    (m.conclude w move value log).machine.Tidy where
  bounded := by
    intro v hv
    simp only [Machine.conclude, ht]
    exact h.bounded v (List.mem_filter.mp hv).1
  numbered := fun v hv => h.numbered v (List.mem_filter.mp hv).1
  distinct := h.distinct.sublist (List.filter_sublist.map _)

theorem Tidy.fail (h : m.Tidy) (t : Task) (misuse : Json.Misuse) :
    (m.fail t misuse).machine.Tidy where
  bounded := fun w hw =>
    Nat.le_trans (h.bounded w hw) (Tokens.latest_le_latest_issue m.pipeline.tokens t w.task)
  numbered := h.numbered
  distinct := h.distinct

theorem Inv.reacts (h : m.Inv) (hr : Reacts m e r) : r.machine.Inv := by
  cases hr with
  | issue hg =>
    refine ⟨tidy_issue h hg, ?_, h.coherent.grants hg⟩
    rw [current_issue h hg]
    simp [issue, hg.stage]
  | refuse _ _ => exact h
  | fail hp =>
    refine ⟨h.tidy.fail _ _, ?_, h.coherent.waste _⟩
    rw [current_fail h hp.awaited?]
    simp [Machine.fail, waste, hp.awaited?]
  | count log hw hc =>
    refine ⟨h.tidy.conclude hc.tokens, ?_, h.coherent.counts (current_eq_singleton h hw).2 hc⟩
    rw [current_count h hw hc]
    simp [conclude, hc.awaited?]
  | supersede log hw late _ =>
    refine ⟨h.tidy.conclude rfl, ?_, h.coherent⟩
    rw [current_supersede h.tidy hw late]
    exact h.calls
  | ignore _ _ => exact h

theorem Inv.react (h : m.Inv) (e : Event) : (m.react e).machine.Inv := h.reacts (m.reacts e)

theorem Inv.after (h : m.Inv) (events : List Event) : (m.after events).Inv := by
  induction events generalizing m with
  | nil => exact h
  | cons e es ih => exact ih (h.react e)

/-- What a stage says of the calls under way and of the results at hand. -/
structure Sound (m : Machine) : Prop where
  /-- An answer is awaited exactly if one call alone is current, and it is of the kind awaited. -/
  awaits : ∀ t : Task, m.pipeline.stage = t.stage ↔ ∃ w, m.current = [w] ∧ w.task = t
  /-- In all other stages no call is current. -/
  rests : (∀ t : Task, m.pipeline.stage ≠ t.stage) → m.current = []
  coherent : m.pipeline.Coherent

theorem Inv.sound (h : m.Inv) : m.Sound where
  awaits := by
    intro t
    constructor
    · intro hs
      have hc := h.calls
      rwa [hs, Stage.awaited?_stage, Option.toList_some, List.map_eq_singleton_iff] at hc
    · rintro ⟨w, hw, rfl⟩
      exact (current_eq_singleton h (by simp [hw])).2
  rests := fun hs => current_eq_nil h (Stage.awaited?_eq_none_iff.mpr hs)
  coherent := h.coherent

/-- Every run, whatever is asked and whatever is answered in whatever order, keeps a pipeline
sound. -/
theorem sound_after (events : List Event) : (initial.after events).Sound :=
  (inv_initial.after events).sound

end Machine

end DevEnv.Pipeline
