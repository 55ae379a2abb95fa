import DevEnv.Proofs.Roster.Reaction
import DevEnv.Proofs.Run
import Mathlib.Data.List.Induction
import Mathlib.Data.List.Pairwise

/-!
Runs of a roster. The calls under way differ in their numbers and in the tokens of their lists, and no
token is greater than that of the roster; a token that is spent never comes back.
-/

namespace DevEnv.Roster

set_option autoImplicit false

/-! ### Parts of a roster -/

@[simp] theorem request_token (r : Roster) : r.request.token = r.token + 1 := rfl

@[simp] theorem request_snapshot (r : Roster) : r.request.snapshot = r.snapshot := rfl

@[simp] theorem request_lastError (r : Roster) : r.request.lastError = r.lastError := rfl

@[simp] theorem withdraw_token (r : Roster) : r.withdraw.token = r.token := rfl

@[simp] theorem withdraw_snapshot (r : Roster) : r.withdraw.snapshot = r.snapshot := rfl

@[simp] theorem withdraw_lastError (r : Roster) : r.withdraw.lastError = r.lastError := rfl

@[simp] theorem receive_token (r : Roster) (token : Nat)
    (answer : Except Failure (List Container)) : (r.receive token answer).token = r.token := by
  simp only [receive]
  split
  · rfl
  · rcases answer with (_ | _) | _ <;> rfl

theorem receive_of_ne {r : Roster} {token : Nat} (late : token ≠ r.token)
    (answer : Except Failure (List Container)) : r.receive token answer = r.withdraw := by
  simp [receive, late]

/-- The answer to the latest request. -/
theorem receive_latest (r : Roster) (answer : Except Failure (List Container)) :
    r.receive r.token answer =
      match answer with
      | .ok cs => { r.withdraw with snapshot := cs, lastError := none }
      | .error (.engine e) => { r.withdraw with lastError := some (Failure.engine e).describe }
      | .error (.unforeseen _) => r.withdraw := by
  rcases answer with (_ | _) | _ <;> simp [receive]

/-! ### Calls under way -/

/-- Calls of different numbers, and of different tokens if both ask for lists. -/
def Waiting.Apart (v w : Waiting) : Prop :=
  v.number ≠ w.number ∧ ∀ token, v.token? = some token → w.token? ≠ some token

theorem Waiting.token?_of_list {w : Waiting} {origin : Origin} {token : Nat}
    (h : w.purpose = .list origin token) : w.token? = some token := by
  simp [token?, h]

theorem Waiting.exists_list_of_token? {w : Waiting} {token : Nat} (h : w.token? = some token) :
    ∃ origin, w.purpose = .list origin token := by
  cases purpose : w.purpose with
  | list origin token' =>
    rw [token?_of_list purpose, Option.some.injEq] at h
    exact ⟨origin, h ▸ rfl⟩
  | details | act => simp [token?, purpose] at h

instance : Std.Symm Waiting.Apart where
  symm _ _ h := ⟨h.1.symm, fun token hw hv => h.2 token hv hw⟩

namespace Machine

structure Orderly (m : Machine) : Prop where
  apart : m.waiting.Pairwise Waiting.Apart
  numbers : ∀ w ∈ m.waiting, w.number < m.issued
  tokens : ∀ w ∈ m.waiting, ∀ token, w.token? = some token → token ≤ m.roster.token

theorem orderly_initial : Orderly .initial := ⟨.nil, by simp [initial], by simp [initial]⟩

section Steps
variable {m n : Machine} {e : Event} {origin : Origin} {caller : Option Nat} {w : Waiting}

@[simp] theorem listEnded_machine (m : Machine) (origin : Origin) (caller : Option Nat)
    (answer : Except Failure (List Container)) :
    (m.listEnded origin caller answer).machine = m := by
  rcases answer with (_ | _) | _
  · cases origin <;> rfl
  · rfl
  · rfl

@[simp] theorem listEnded_called (m : Machine) (origin : Origin) (caller : Option Nat)
    (answer : Except Failure (List Container)) :
    (m.listEnded origin caller answer).called = none := by
  rcases answer with (_ | _) | _
  · cases origin <;> rfl
  · rfl
  · rfl

theorem Asks.roster_eq (h : Asks m e n origin caller) : n.roster = m.roster := by
  cases h <;> rfl

theorem Asks.issued_eq (h : Asks m e n origin caller) : n.issued = m.issued := by
  cases h <;> rfl

theorem Asks.waiting_sublist (h : Asks m e n origin caller) : n.waiting.Sublist m.waiting := by
  cases h with
  | action => exact List.filter_sublist
  | _ => exact .refl _

theorem Finishes.token? {value : Value} (h : Finishes w e value) :
    w.token? = none := by
  cases h with
  | detailed _ other | notActed _ other => simp [Waiting.token?, other]
  | abandoned other => exact other

theorem Passes.waiting_eq (h : Passes m e n caller) : n.waiting = m.waiting := by
  cases h <;> rfl

theorem Passes.issued_eq (h : Passes m e n caller) : n.issued = m.issued := by
  cases h <;> rfl

theorem Passes.roster_eq (h : Passes m e n caller) : n.roster = m.roster := by
  cases h <;> rfl

/-- Calls that end leave the others in order. -/
theorem Orderly.fewer (h : Orderly m) (fewer : n.waiting.Sublist m.waiting)
    (issued : n.issued = m.issued) (token : n.roster.token = m.roster.token) : Orderly n where
  apart := h.apart.sublist fewer
  numbers := by
    intro w hw
    rw [issued]
    exact h.numbers w (fewer.subset hw)
  tokens := by
    intro w hw
    rw [token]
    exact h.tokens w (fewer.subset hw)

theorem Orderly.issue (h : Orderly m) {purpose : Purpose} {caller : Option Nat} {call : Call}
    (fresh : ∀ token, Waiting.token? ⟨m.issued, purpose, caller⟩ = some token →
      token ≤ m.roster.token ∧ ∀ v ∈ m.waiting, v.token? ≠ some token) :
    Orderly (m.issue purpose caller call).machine where
  apart := by
    refine List.pairwise_append.mpr ⟨h.apart, List.pairwise_singleton _ _, ?_⟩
    intro v hv w hw
    rw [List.mem_singleton.mp hw]
    exact ⟨Nat.ne_of_lt (h.numbers v hv), fun token hv' hw' => (fresh token hw').2 v hv hv'⟩
  numbers := by
    intro w hw
    rcases List.mem_append.mp hw with hw | hw
    · exact Nat.lt_succ_of_lt (h.numbers w hw)
    · rw [List.mem_singleton.mp hw]
      exact Nat.lt_succ_self _
  tokens := by
    intro w hw token htoken
    rcases List.mem_append.mp hw with hw | hw
    · exact h.tokens w hw token htoken
    · rw [List.mem_singleton.mp hw] at htoken
      exact (fresh token htoken).1

theorem Orderly.ask (h : Orderly m) (origin : Origin) (caller : Option Nat) :
    Orderly (m.ask origin caller).machine := by
  have requested : Orderly { m with roster := m.roster.request } :=
    { h with tokens := fun w hw token htoken => Nat.le_succ_of_le (h.tokens w hw token htoken) }
  refine requested.issue fun token htoken => ?_
  obtain rfl : m.roster.token + 1 = token := Option.some.inj htoken
  refine ⟨Nat.le_refl _, fun v hv old => ?_⟩
  have := h.tokens v hv _ old
  omega

theorem Orderly.react (h : Orderly m) (e : Event) : Orderly (m.react e).machine := by
  have reacts := m.reacts e
  generalize m.react e = r at reacts ⊢
  cases reacts with
  | ask asks =>
    exact (h.fewer asks.waiting_sublist asks.issued_eq (congrArg token asks.roster_eq)).ask _ _
  | issue issues => exact h.issue (by cases issues <;> simp [Waiting.token?])
  | listed answer =>
    rw [listEnded_machine]
    exact h.fewer List.filter_sublist rfl (receive_token _ _ _)
  | withdraw | finish => exact h.fewer List.filter_sublist rfl rfl
  | pass passes =>
    refine h.fewer ?_ passes.issued_eq (congrArg token passes.roster_eq)
    exact passes.waiting_eq ▸ List.Sublist.refl _
  | close => exact h.fewer List.filter_sublist rfl rfl
  | startPolling | wake | notice | ignore => exact h.fewer (.refl _) rfl rfl

end Steps

end Machine

/-! ### Steps -/

abbrev Step := Run.Step Machine Event Reaction

/-- The steps of a run of a new roster. -/
def history (es : List Event) : List Step :=
  Run.steps Machine.react Reaction.machine .initial es

/-- A new roster after a run. -/
def reached (es : List Event) : Machine := Machine.initial.after es

namespace Step

/-- The roster that a step leaves behind. -/
def roster (s : Step) : Roster := s.reaction.machine.roster

/-- The step asks for a list by the call of this number, and with this token. -/
def Asks (s : Step) (number token : Nat) : Prop :=
  s.reaction.called = some (number, .list) ∧ s.roster.token = token

/-- The step brings the answer to a call for a list. -/
structure Answers (s : Step) (w : Waiting) (origin : Origin) (token : Nat)
    (answer : Except Failure (List Container)) : Prop where
  event : s.event = .listed w.number answer
  waits : w ∈ s.before.waiting
  list : w.purpose = .list origin token

/-- The step brings a list in answer to the latest request. -/
def Stores (s : Step) (w : Waiting) (token : Nat) (cs : List Container) : Prop :=
  token = s.before.roster.token ∧ ∃ origin, s.Answers w origin token (.ok cs)

/-- A call for a list is given up. -/
inductive Drops (s : Step) (token : Nat) : Prop
  | close {w : Waiting} (event : s.event = .close) (waits : w ∈ s.before.waiting)
    (list : w.purpose = .list .loop token)
  | abandon {w : Waiting} {origin : Origin} (event : s.event = .abandon w.number)
    (waits : w ∈ s.before.waiting) (list : w.purpose = .list origin token)

/-- An action ends in this way. -/
structure Acts (s : Step) (w : Waiting) (answer : Except Failure Unit) : Prop where
  event : s.event = .acted w.number answer
  waits : w ∈ s.before.waiting
  act : w.purpose = .act

end Step

theorem before_orderly {es : List Event} {s : Step} (hs : s ∈ history es) :
    s.before.Orderly ∧ s.reaction = s.before.react s.event :=
  Run.before_of_mem_steps (fun _ e h => h.react e) Machine.orderly_initial hs

theorem reached_append_singleton (es : List Event) (e : Event) :
    reached (es ++ [e]) = ((reached es).react e).machine :=
  Run.after_append_singleton _ _ _ _ _

theorem history_append_singleton (es : List Event) (e : Event) :
    history (es ++ [e]) = history es ++ [⟨reached es, e, (reached es).react e⟩] :=
  Run.steps_append_singleton _ _ _ _ _

/-! ### Tokens -/

namespace Machine
variable {m : Machine}

/-- Calls of one number are one call. -/
theorem Orderly.eq_of_number (h : Orderly m) {v w : Waiting} (hv : v ∈ m.waiting)
    (hw : w ∈ m.waiting) (same : v.number = w.number) : v = w := by
  by_contra differ
  exact (h.apart.forall hv hw differ).1 same

theorem Orderly.eq_of_token (h : Orderly m) {v w : Waiting} (hv : v ∈ m.waiting)
    (hw : w ∈ m.waiting) {token : Nat} (tv : v.token? = some token) (tw : w.token? = some token) :
    v = w := by
  by_contra differ
  exact (h.apart.forall hv hw differ).2 token tv tw

/-- An event makes a request for a list, with the next token, or none. -/
theorem react_token (m : Machine) (e : Event) :
    (∃ w ∈ (m.react e).machine.waiting, w.token? = some (m.roster.token + 1) ∧
        Step.Asks ⟨m, e, m.react e⟩ w.number (m.roster.token + 1)) ∨
      ((m.react e).machine.roster.token = m.roster.token ∧
        ∀ number, (m.react e).called ≠ some (number, .list)) := by
  generalize hr : m.react e = r
  have reacts := m.reacts e
  rw [hr] at reacts
  cases reacts with
  | ask asks =>
    rw [← asks.roster_eq]
    exact .inl ⟨_, List.mem_append_right _ (List.mem_singleton_self _), rfl, rfl, rfl⟩
  | issue issues => exact .inr ⟨rfl, by cases issues <;> simp [Machine.issue]⟩
  | listed answer => exact .inr ⟨by simp, by simp⟩
  | pass passes => exact .inr ⟨congrArg token passes.roster_eq, by simp [give]⟩
  | withdraw | finish => exact .inr ⟨rfl, by simp [give]⟩
  | startPolling | wake | close | notice | ignore => exact .inr ⟨rfl, by simp [quiet]⟩

theorem token_le_react (m : Machine) (e : Event) :
    m.roster.token ≤ (m.react e).machine.roster.token := by
  rcases m.react_token e with ⟨w, -, -, -, next⟩ | ⟨same, -⟩
  · exact next ▸ Nat.le_succ _
  · exact Nat.le_of_eq same.symm

/-- A call for a list that was not under way before is one that the event makes. -/
theorem react_waiting (m : Machine) (e : Event) {w : Waiting}
    (hw : w ∈ (m.react e).machine.waiting) :
    w ∈ m.waiting ∨ w.token? = none ∨
      (w.token? = some (m.roster.token + 1) ∧
        Step.Asks ⟨m, e, m.react e⟩ w.number (m.roster.token + 1)) := by
  generalize hr : m.react e = r at hw
  have reacts := m.reacts e
  rw [hr] at reacts
  cases reacts with
  | ask asks =>
    rcases List.mem_append.mp hw with hw | hw
    · exact .inl (asks.waiting_sublist.subset hw)
    · rw [List.mem_singleton.mp hw, ← asks.roster_eq]
      exact .inr (.inr ⟨rfl, rfl, rfl⟩)
  | issue issues =>
    rcases List.mem_append.mp hw with hw | hw
    · exact .inl hw
    · rw [List.mem_singleton.mp hw]
      exact .inr (.inl (by cases issues <;> rfl))
  | listed =>
    rw [listEnded_machine] at hw
    exact .inl (List.mem_filter.mp hw).1
  | withdraw | finish | close => exact .inl (List.mem_filter.mp hw).1
  | pass passes => exact .inl (passes.waiting_eq ▸ hw)
  | startPolling | wake | notice | ignore => exact .inl hw

end Machine

section Tokens
variable {es : List Event} {s : Step} {w : Waiting} {token : Nat}

theorem tokens_pairwise (es : List Event) :
    (history es).Pairwise fun s s' => s.roster.token ≤ s'.before.roster.token := by
  refine Run.pairwise_steps (P := fun _ => True) (fun _ _ _ => trivial) ?_ trivial
  intro m e _ es s' hs'
  have onwards := Run.before_of_mem_steps
    (P := fun n : Machine => (m.react e).machine.roster.token ≤ n.roster.token)
    (fun n d le => Nat.le_trans le (n.token_le_react d)) (Nat.le_refl _) hs'
  exact onwards.1

theorem token_le_reached (hs : s ∈ history es) : s.roster.token ≤ (reached es).roster.token :=
  Run.after_of_mem_steps (P := fun m : Machine => s.roster.token ≤ m.roster.token)
    (fun m e le => Nat.le_trans le (m.token_le_react e)) hs (Nat.le_refl _)

/-- Calls for lists that are under way have been made, with the tokens that they have. -/
theorem asked_of_waiting (hw : w ∈ (reached es).waiting) (hwt : w.token? = some token) :
    ∃ u ∈ history es, Step.Asks u w.number token := by
  induction es using List.reverseRecOn with
  | nil => cases hw
  | append_singleton es e ih =>
    rw [reached_append_singleton] at hw
    rw [history_append_singleton]
    rcases (reached es).react_waiting e hw with old | other | ⟨next, asks⟩
    · obtain ⟨u, hu, asks⟩ := ih old
      exact ⟨u, List.mem_append_left _ hu, asks⟩
    · rw [other] at hwt
      cases hwt
    · obtain rfl := Option.some.inj (next.symm.trans hwt)
      exact ⟨_, List.mem_append_right _ (List.mem_singleton_self _), asks⟩

theorem Step.Answers.asked {origin : Origin} {answer : Except Failure (List Container)}
    (h : s.Answers w origin token answer) (hs : s ∈ history es) :
    ∃ u ∈ history es, Step.Asks u w.number token := by
  induction es using List.reverseRecOn with
  | nil => cases hs
  | append_singleton es e ih =>
    rw [history_append_singleton] at hs ⊢
    have earlier : ∃ u ∈ history es, Step.Asks u w.number token := by
      rcases List.mem_append.mp hs with hs | hs
      · exact ih hs
      · have waits := h.waits
        rw [List.mem_singleton.mp hs] at waits
        exact asked_of_waiting waits (Waiting.token?_of_list h.list)
    obtain ⟨u, hu, asks⟩ := earlier
    exact ⟨u, List.mem_append_left _ hu, asks⟩

end Tokens

end DevEnv.Roster
