import DevEnv.Proofs.Roster.Answers

/-!
What becomes of lists that fail. The list at hand stays, and a failure that the engine layer foresees is
shown if its request is the latest one; ticks and actions keep it from their callers and warn of it. A
failure that nobody foresees goes past all of this: it is not shown, and whoever waits for it gets it.
-/

namespace DevEnv.Roster

set_option autoImplicit false

/-- What the caller of a list that failed gets back. -/
def Value.ofFailed (origin : Origin) : Failure → Value
  | .engine e => if origin = .refresh then .failed (.engine e) else .done
  | .unforeseen u => .failed (.unforeseen u)

/-- What the log says of a list that failed. -/
def warnings : Origin → Failure → List LogEntry
  | .tick, .engine e | .loop, .engine e => [warning "fetch" e]
  | .action, .engine e => [warning "refresh" e]
  | .refresh, _ | _, .unforeseen _ => []

/-- The error that is shown once the latest list has failed. -/
def shownAfter (lastError : Option String) : Failure → Option String
  | .engine e => some (Failure.engine e).describe
  | .unforeseen _ => lastError

theorem Machine.listEnded_error (m : Machine) (origin : Origin) (caller : Option Nat)
    (f : Failure) :
    m.listEnded origin caller (.error f) = m.give caller (.ofFailed origin f) (warnings origin f) := by
  cases f <;> cases origin <;> rfl

theorem Machine.give_returned_eq_some_iff {m : Machine} {caller : Option Nat} {value v : Value}
    {log : List LogEntry} {c : Nat} :
    (m.give caller value log).returned = some (c, v) ↔ caller = some c ∧ value = v := by
  cases caller <;> simp [give]

/-- Only refreshes hand on what is foreseen. -/
theorem Machine.failed_of_listEnded {m : Machine} {origin : Origin} {caller : Option Nat}
    {answer : Except Failure (List Container)} {c : Nat} {f : Failure}
    (h : (m.listEnded origin caller answer).returned = some (c, .failed f)) :
    caller = some c ∧ answer = .error f ∧ (origin = .refresh ∨ ∃ u, f = .unforeseen u) := by
  rcases answer with f' | cs
  · rw [listEnded_error, give_returned_eq_some_iff] at h
    obtain ⟨waits, value⟩ := h
    cases f' with
    | unforeseen u =>
      obtain rfl := Value.failed.inj value
      exact ⟨waits, rfl, .inr ⟨u, rfl⟩⟩
    | engine e =>
      simp only [Value.ofFailed] at value
      split at value
      · obtain rfl := Value.failed.inj value
        exact ⟨waits, rfl, .inl ‹_›⟩
      · cases value
  · obtain ⟨-, value⟩ := give_returned_eq_some_iff.mp h
    split at value <;> cases value

theorem receive_error_snapshot (r : Roster) (token : Nat) (f : Failure) :
    (r.receive token (.error f)).snapshot = r.snapshot := by
  simp only [receive]
  split
  · rfl
  · cases f <;> rfl

theorem receive_error_lastError (r : Roster) (token : Nat) (f : Failure) :
    (r.receive token (.error f)).lastError =
      if token = r.token then shownAfter r.lastError f else r.lastError := by
  by_cases latest : token = r.token
  · subst latest
    cases f <;> simp [receive_latest, shownAfter]
  · simp [receive_of_ne latest, latest]

namespace Step
variable {es : List Event} {s : Step} {w : Waiting} {origin : Origin} {token : Nat} {f : Failure}

/-- A failed list is contained: the list at hand stays, the latest failure is shown, and only the
caller of a refresh gets it. -/
def Contained (s : Step) : Prop :=
  ∀ w origin token f, s.Answers w origin token (.error f) →
    (token = s.before.roster.token → s.roster.lastError = some f.describe) ∧
    s.roster.snapshot = s.before.roster.snapshot ∧
    (origin ≠ .refresh → s.reaction.returned = w.caller.map fun c => (c, .done))

/-- Why a caller gets a failure: it is that of its own request, or nobody foresees it. -/
inductive Fails (s : Step) (caller : Nat) : Failure → Prop
  | refresh {w : Waiting} {token : Nat} {f : Failure}
    (answers : s.Answers w .refresh token (.error f)) (waits : w.caller = some caller) :
    Fails s caller f
  | unforeseen {w : Waiting} {origin : Origin} {token : Nat} {u : Unforeseen}
    (answers : s.Answers w origin token (.error (.unforeseen u))) (waits : w.caller = some caller) :
    Fails s caller (.unforeseen u)
  | details {w : Waiting} {f : Failure} (event : s.event = .detailed w.number (.error f))
    (asks : w.purpose = .details) (waits : w.caller = some caller) : Fails s caller f
  | act {w : Waiting} {f : Failure} (acts : s.Acts w (.error f)) (waits : w.caller = some caller) :
    Fails s caller f

theorem Answers.failed_reaction (h : s.Answers w origin token (.error f)) (hs : s ∈ history es) :
    s.reaction.returned = w.caller.map (fun c => (c, .ofFailed origin f)) ∧
      s.reaction.log = warnings origin f ∧ s.reaction.called = none := by
  rw [h.reaction_eq hs, Machine.listEnded_error]
  exact ⟨rfl, rfl, rfl⟩

theorem Answers.failed_snapshot (h : s.Answers w origin token (.error f)) (hs : s ∈ history es) :
    s.roster.snapshot = s.before.roster.snapshot := by
  rw [h.roster_eq hs, receive_error_snapshot]

theorem Answers.failed_lastError (h : s.Answers w origin token (.error f)) (hs : s ∈ history es) :
    s.roster.lastError =
      if token = s.before.roster.token then shownAfter s.before.roster.lastError f
      else s.before.roster.lastError := by
  rw [h.roster_eq hs, receive_error_lastError]

/-- The polling loop goes on as before. -/
theorem Answers.failed_polling (h : s.Answers w origin token (.error f)) (hs : s ∈ history es) :
    s.reaction.machine.polling = s.before.polling ∧ s.reaction.machine.due = s.before.due := by
  rw [h.reaction_eq hs, Machine.listEnded_machine]
  exact ⟨rfl, rfl⟩

theorem contained_iff (hs : s ∈ history es) :
    s.Contained ↔ ∀ w origin token u, s.Answers w origin token (.error (.unforeseen u)) →
      (token = s.before.roster.token → s.before.roster.lastError = some Failure.noAnswer) ∧
      (origin ≠ .refresh → w.caller = none) := by
  constructor
  · intro contained w origin token u answers
    obtain ⟨shown, -, swallowed⟩ := contained w origin token _ answers
    refine ⟨fun latest => ?_, fun other => ?_⟩
    · have now := shown latest
      rwa [answers.failed_lastError hs, if_pos latest] at now
    · have returned := (answers.failed_reaction hs).1.symm.trans (swallowed other)
      cases caller : w.caller with
      | none => rfl
      | some c => simp [caller, Value.ofFailed] at returned
  · intro foreseen w origin token f answers
    refine ⟨fun latest => ?_, answers.failed_snapshot hs, fun other => ?_⟩
    · rw [answers.failed_lastError hs, if_pos latest]
      cases f with
      | engine e => rfl
      | unforeseen u => exact (foreseen w origin token u answers).1 latest
    · rw [(answers.failed_reaction hs).1]
      cases f with
      | engine e => simp [Value.ofFailed, other]
      | unforeseen u => simp [(foreseen w origin token u answers).2 other]

theorem fails_of_returned (hs : s ∈ history es) {caller : Nat}
    (returned : s.reaction.returned = some (caller, .failed f)) : s.Fails caller f := by
  obtain ⟨-, reacts⟩ := before_orderly hs
  obtain ⟨m, e, r⟩ := s
  obtain rfl : r = m.react e := reacts
  have happens := m.reacts e
  generalize m.react e = r at happens returned ⊢
  cases happens with
  | ask | issue | startPolling | wake | close | notice | ignore => cases returned
  | pass | withdraw => cases (Machine.give_returned_eq_some_iff.mp returned).2
  | listed answer waits list =>
    obtain ⟨hc, rfl, rfl | ⟨u, rfl⟩⟩ := Machine.failed_of_listEnded returned
    · exact .refresh ⟨rfl, waits, list⟩ hc
    · exact .unforeseen ⟨rfl, waits, list⟩ hc
  | finish waits finishes =>
    obtain ⟨hc, value⟩ := Machine.give_returned_eq_some_iff.mp returned
    cases finishes with
    | detailed answer asks =>
      rcases answer with f' | c
      · obtain rfl := Value.failed.inj value
        exact .details rfl asks hc
      · cases value
    | notActed f' acts =>
      obtain rfl := Value.failed.inj value
      exact .act ⟨rfl, waits, acts⟩ hc
    | abandoned => cases value

end Step

/-! ### What stays shown -/

/-- Once the request of this token has been answered, what is shown stays as long as no other request
is made. -/
structure Machine.Shown (token : Nat) (r : Roster) (m : Machine) : Prop where
  orderly : m.Orderly
  spent : m.Spent token
  same : m.roster.token = token → m.roster.snapshot = r.snapshot ∧ m.roster.lastError = r.lastError

theorem Machine.Shown.react {token : Nat} {r : Roster} {m : Machine} (h : m.Shown token r)
    (e : Event) : (m.react e).machine.Shown token r where
  orderly := h.orderly.react e
  spent := h.spent.react e
  same latest := by
    have before : m.roster.token = token :=
      Nat.le_antisymm (latest ▸ m.token_le_react e) h.spent.1
    rcases h.orderly.react_latest e with ⟨w, origin, answer, answers, -⟩ | ⟨snapshot, lastError, -⟩
    · -- The answer to the request would have to come twice.
      have list := Waiting.token?_of_list answers.list
      exact absurd (list.trans (congrArg some before)) (h.spent.2 w answers.waits)
    · rw [snapshot, lastError]
      exact h.same before

theorem Step.Answers.shown {es : List Event} {s : Step} {w : Waiting} {origin : Origin}
    {token : Nat} {answer : Except Failure (List Container)}
    (h : s.Answers w origin token answer) (hs : s ∈ history es) :
    s.reaction.machine.Shown token s.roster where
  orderly := by
    obtain ⟨orderly, reacts⟩ := before_orderly hs
    exact reacts ▸ orderly.react s.event
  spent := by
    have spent := (before_orderly hs).1.spent h.waits (Waiting.token?_of_list h.list)
    rw [h.reaction_eq hs, Machine.listEnded_machine]
    refine ⟨?_, spent.2⟩
    show token ≤ (s.before.roster.receive token answer).token
    rw [receive_token]
    exact spent.1
  same _ := ⟨rfl, rfl⟩

/-- The answer to the latest request is shown to the end of the run. -/
theorem Step.Answers.lasts {es : List Event} {s : Step} {w : Waiting} {origin : Origin}
    {answer : Except Failure (List Container)}
    (h : s.Answers w origin (reached es).roster.token answer) (hs : s ∈ history es) :
    (reached es).roster.snapshot = s.roster.snapshot ∧
      (reached es).roster.lastError = s.roster.lastError := by
  have shown := Run.after_of_mem_steps (P := Machine.Shown (reached es).roster.token s.roster)
    (fun _ e shown => shown.react e) hs (h.shown hs)
  exact shown.same rfl

/-! ### Failures over whole runs -/

/-- What becomes of failed lists over all runs. -/
structure Failing (es : List Event) : Prop where
  kept : ∀ s ∈ history es, ∀ w origin token f, s.Answers w origin token (.error f) →
    s.roster.snapshot = s.before.roster.snapshot
  shown : ∀ s ∈ history es, ∀ w origin token f, s.Answers w origin token (.error f) →
    s.roster.lastError =
      if token = s.before.roster.token then shownAfter s.before.roster.lastError f
      else s.before.roster.lastError
  lasting : ∀ s ∈ history es, ∀ w origin f,
    s.Answers w origin (reached es).roster.token (.error f) →
      (reached es).roster.snapshot = s.roster.snapshot ∧
        (reached es).roster.lastError = s.roster.lastError
  returned : ∀ s ∈ history es, ∀ w origin token f, s.Answers w origin token (.error f) →
    s.reaction.returned = w.caller.map (fun c => (c, .ofFailed origin f)) ∧
      s.reaction.log = warnings origin f ∧ s.reaction.called = none
  polled : ∀ s ∈ history es, ∀ w origin token f, s.Answers w origin token (.error f) →
    s.reaction.machine.polling = s.before.polling ∧ s.reaction.machine.due = s.before.due
  /-- Whoever gets a failure asked for what failed, or nobody foresees it. -/
  blamed : ∀ s ∈ history es, ∀ caller f, s.reaction.returned = some (caller, .failed f) →
    s.Fails caller f
  /-- Failures are contained except those that nobody foresees. Such a one is not shown, and the
  caller of a tick or an action gets it. -/
  contained : ∀ s ∈ history es, s.Contained ↔
    ∀ w origin token u, s.Answers w origin token (.error (.unforeseen u)) →
      (token = s.before.roster.token → s.before.roster.lastError = some Failure.noAnswer) ∧
      (origin ≠ .refresh → w.caller = none)
  foreseen : (∀ number u, .listed number (.error (.unforeseen u)) ∉ es) →
    ∀ s ∈ history es, s.Contained

theorem failures_handled (es : List Event) : Failing es where
  kept _ hs _ _ _ _ answers := answers.failed_snapshot hs
  shown _ hs _ _ _ _ answers := answers.failed_lastError hs
  lasting _ hs _ _ _ answers := answers.lasts hs
  returned _ hs _ _ _ _ answers := answers.failed_reaction hs
  polled _ hs _ _ _ _ answers := answers.failed_polling hs
  blamed _ hs _ _ := Step.fails_of_returned hs
  contained _ hs := Step.contained_iff hs
  foreseen none s hs := by
    rw [Step.contained_iff hs]
    intro w origin token u answers
    have happened := Run.event_mem_of_mem_steps hs
    exact absurd (answers.event ▸ happened) (none w.number u)

/-- Lists that break down in a way that nobody foresees, after a tick and after an action that has
succeeded: the caller gets the failure, and nothing is shown. -/
theorem not_contained_boom :
    let boom : Failure := .unforeseen (.runtime "boom")
    let tick : List Event := [.tick 0, .listed 0 (.error boom)]
    let start : List Event := [.act 0 .start "c1", .acted 0 (.ok ()), .listed 1 (.error boom)]
    (history tick).map (fun s => s.reaction.returned) = [none, some (0, .failed boom)] ∧
      (history start).map (fun s => s.reaction.returned) = [none, none, some (0, .failed boom)] ∧
      (reached tick).roster.lastError = none ∧ ¬ ∀ s ∈ history tick, s.Contained := by
  refine ⟨by decide, by decide, by decide, fun contained => ?_⟩
  have last := contained _ (List.mem_cons_of_mem _ (List.mem_singleton_self _))
    ⟨0, .list .tick 1, some 0⟩ .tick 1 _ ⟨rfl, List.mem_singleton_self _, rfl⟩
  exact absurd (last.1 rfl) (by decide)

end DevEnv.Roster
