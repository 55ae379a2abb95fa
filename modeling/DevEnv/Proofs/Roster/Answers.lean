import DevEnv.Proofs.Roster.History

/-!
What answers to calls for lists do to a roster. Lists are stored in the order of the requests for them,
and the roster shows what became of the latest request: it waits, it has been given up, or its answer
is what is shown.
-/

namespace DevEnv.Roster

set_option autoImplicit false

/-! ### Answers -/

/-- What the caller of a refresh gets back: the list at hand, or the failure of its own request. -/
def Value.ofRefresh (snapshot : List Container) : Except Failure (List Container) → Value
  | .ok _ => .containers snapshot
  | .error f => .failed f

namespace Machine
variable {m : Machine} {w : Waiting}

theorem Orderly.find?_eq (h : Orderly m) (waits : w ∈ m.waiting) {p : Waiting → Bool}
    (holds : p w = true) (only : ∀ v, p v = true → v.number = w.number) :
    m.waiting.find? p = some w := by
  cases found : m.waiting.find? p with
  | none => exact absurd holds (List.find?_eq_none.mp found w waits)
  | some v =>
    have same := only v (List.find?_some found)
    rw [h.eq_of_number (List.mem_of_find?_eq_some found) waits same]

theorem Orderly.react_listed (h : Orderly m) (waits : w ∈ m.waiting) {origin : Origin}
    {token : Nat} (list : w.purpose = .list origin token)
    (answer : Except Failure (List Container)) :
    m.react (.listed w.number answer) =
      ({ m.without w with roster := m.roster.receive token answer }.listEnded origin w.caller
        answer) := by
  have found := h.find?_eq waits (p := fun v => v.number == w.number) (by simp) (by simp)
  simp only [Machine.react, found, list]

theorem Orderly.find?_acted (h : Orderly m) (waits : w ∈ m.waiting) (acts : w.purpose = .act) :
    m.waiting.find? (fun v => v.number == w.number && v.purpose == .act) = some w :=
  h.find?_eq waits (by simp [acts]) (by simp +contextual)

theorem Orderly.react_acted_ok (h : Orderly m) (waits : w ∈ m.waiting) (acts : w.purpose = .act) :
    m.react (.acted w.number (.ok ())) = (m.without w).ask .action w.caller := by
  simp only [Machine.react, h.find?_acted waits acts]

theorem Orderly.react_acted_error (h : Orderly m) (waits : w ∈ m.waiting)
    (acts : w.purpose = .act) (f : Failure) :
    m.react (.acted w.number (.error f)) = (m.without w).give w.caller (.failed f) [] := by
  simp only [Machine.react, h.find?_acted waits acts]

theorem listEnded_returned_refresh (m : Machine) (caller : Option Nat)
    (answer : Except Failure (List Container)) :
    (m.listEnded .refresh caller answer).returned =
      caller.map fun c => (c, .ofRefresh m.roster.snapshot answer) := by
  rcases answer with (_ | _) | _ <;> rfl

/-- Events other than answers to calls for lists change nothing of what is shown. -/
theorem react_shown (m : Machine) (e : Event)
    (silent : ∀ w origin token answer,
      ¬ Step.Answers ⟨m, e, m.react e⟩ w origin token answer) :
    (m.react e).machine.roster.snapshot = m.roster.snapshot ∧
      (m.react e).machine.roster.lastError = m.roster.lastError := by
  generalize hr : m.react e = r at silent
  have reacts := m.reacts e
  rw [hr] at reacts
  cases reacts with
  | listed answer waits list => exact absurd ⟨rfl, waits, list⟩ (silent _ _ _ answer)
  | ask asks => simp [ask, Machine.issue, asks.roster_eq]
  | pass passes => simp [give, passes.roster_eq]
  | issue | withdraw | finish | startPolling | wake | close | notice | ignore => exact ⟨rfl, rfl⟩

end Machine

section Answers
variable {es : List Event} {s : Step} {w : Waiting} {origin : Origin} {token : Nat}
  {answer : Except Failure (List Container)}

theorem Step.Answers.reaction_eq (h : s.Answers w origin token answer) (hs : s ∈ history es) :
    s.reaction = ({ s.before.without w with
      roster := s.before.roster.receive token answer }.listEnded origin w.caller answer) := by
  obtain ⟨orderly, reacts⟩ := before_orderly hs
  rw [reacts, h.event]
  exact orderly.react_listed h.waits h.list answer

theorem Step.Answers.roster_eq (h : s.Answers w origin token answer) (hs : s ∈ history es) :
    s.roster = s.before.roster.receive token answer := by
  rw [Step.roster, h.reaction_eq hs]
  simp

theorem Step.Answers.returned (h : s.Answers w .refresh token answer) (hs : s ∈ history es) :
    s.reaction.returned = w.caller.map fun c => (c, .ofRefresh s.roster.snapshot answer) := by
  rw [Step.roster, h.reaction_eq hs, Machine.listEnded_returned_refresh]
  simp

end Answers

/-! ### Spent tokens -/

namespace Machine
variable {m : Machine}

/-- No answer to the request of this token will come any more. -/
def Spent (token : Nat) (m : Machine) : Prop :=
  token ≤ m.roster.token ∧ ∀ w ∈ m.waiting, w.token? ≠ some token

theorem Spent.react {token : Nat} (h : Spent token m) (e : Event) :
    Spent token (m.react e).machine := by
  refine ⟨Nat.le_trans h.1 (m.token_le_react e), fun w hw hwt => ?_⟩
  rcases m.react_waiting e hw with old | other | ⟨new, -⟩
  · exact h.2 w old hwt
  · rw [other] at hwt
    cases hwt
  · have bound := h.1
    have := Option.some.inj (new.symm.trans hwt)
    omega

theorem Orderly.mem_without (h : Orderly m) {v w : Waiting} (hv : v ∈ m.waiting)
    (hw : w ∈ m.waiting) (differ : v ≠ w) : v ∈ (m.without w).waiting := by
  refine List.mem_filter.mpr ⟨hv, ?_⟩
  have numbers : v.number ≠ w.number := fun same => differ (h.eq_of_number hv hw same)
  simpa using numbers

theorem Orderly.spent (h : Orderly m) {w : Waiting} (hw : w ∈ m.waiting) {token : Nat}
    (hwt : w.token? = some token) : Spent token (m.without w) := by
  refine ⟨h.tokens w hw token hwt, fun v hv hvt => ?_⟩
  obtain ⟨hv, number⟩ := List.mem_filter.mp hv
  obtain rfl := h.eq_of_token hv hw hvt hwt
  simp at number

end Machine

section Stores
variable {es : List Event} {s s' : Step} {w w' : Waiting} {token token' : Nat}
  {cs cs' : List Container}

/-- The token of a list that is stored is spent. -/
theorem Step.Stores.spent (h : s.Stores w token cs) (orderly : s.before.Orderly)
    (reacts : s.reaction = s.before.react s.event) : s.reaction.machine.Spent token := by
  obtain ⟨-, origin, answers⟩ := h
  rw [reacts, answers.event, orderly.react_listed answers.waits answers.list,
    Machine.listEnded_machine]
  have spent := orderly.spent answers.waits (Waiting.token?_of_list answers.list)
  have bound : token ≤ s.before.roster.token := spent.1
  exact ⟨by simpa using bound, spent.2⟩

theorem Step.Stores.lt_of_spent (h : s'.Stores w' token' cs') (spent : s'.before.Spent token) :
    token < token' := by
  obtain ⟨latest, origin, answers⟩ := h
  have bound := spent.1
  have other : token' ≠ token := fun same =>
    spent.2 w' answers.waits (same ▸ Waiting.token?_of_list answers.list)
  omega

/-- Lists are stored in the order of the requests for them. -/
theorem stores_pairwise (es : List Event) :
    (history es).Pairwise fun s s' => ∀ w token cs w' token' cs', s.Stores w token cs →
      s'.Stores w' token' cs' → token < token' := by
  -- A token that has been stored stays spent, and tokens that count later are not below it.
  refine Run.pairwise_steps (fun _ e h => h.react e) ?_ Machine.orderly_initial
  intro m e orderly es s' hs' w token cs w' token' cs' stores stores'
  have spent := stores.spent orderly rfl
  have later := Run.before_of_mem_steps (P := Machine.Spent token)
    (fun _ e h => h.react e) spent hs'
  exact stores'.lt_of_spent later.1

end Stores

/-! ### What becomes of the latest request -/

/-- The roster shows this answer. A failure that nobody foresees shows nothing. -/
def Shows (r : Roster) : Except Failure (List Container) → Prop
  | .ok cs => r.snapshot = cs ∧ r.lastError = none
  | .error (.engine e) => r.lastError = some (Failure.engine e).describe
  | .error (.unforeseen _) => True

inductive Latest (h : List Step) (m : Machine) : Prop
  | unasked (token : m.roster.token = 0)
  | waiting {w : Waiting} (waits : w ∈ m.waiting) (latest : w.token? = some m.roster.token)
  | dropped {s : Step} (happened : s ∈ h) (drops : s.Drops m.roster.token)
  | answered {s : Step} {w : Waiting} {origin : Origin}
    {answer : Except Failure (List Container)} (happened : s ∈ h)
    (answers : s.Answers w origin m.roster.token answer) (shown : Shows m.roster answer)

namespace Machine
variable {m : Machine} {e : Event}

/-- A call for a list stays under way until it is answered or given up. -/
theorem Orderly.lost (h : Orderly m) (e : Event) {w : Waiting} (hw : w ∈ m.waiting) {token : Nat}
    (hwt : w.token? = some token) :
    w ∈ (m.react e).machine.waiting ∨ Step.Drops ⟨m, e, m.react e⟩ token ∨
      ∃ answer, e = .listed w.number answer := by
  obtain ⟨origin, list⟩ := Waiting.exists_list_of_token? hwt
  -- Calls that end otherwise are not for lists.
  have stays {v : Waiting} (hv : v ∈ m.waiting) (other : v.token? = none) :
      w ∈ (m.without v).waiting := by
    refine h.mem_without hw hv ?_
    rintro rfl
    rw [other] at hwt
    cases hwt
  generalize hr : m.react e = r
  have reacts := m.reacts e
  rw [hr] at reacts
  cases reacts with
  | ask asks =>
    refine .inl (List.mem_append_left _ ?_)
    cases asks with
    | action waits acts => exact stays waits (by simp [Waiting.token?, acts])
    | refresh | tick | loop => exact hw
  | issue => exact .inl (List.mem_append_left _ hw)
  | @listed v _ _ answer waits =>
    by_cases same : w = v
    · exact .inr (.inr ⟨answer, by rw [same]⟩)
    · rw [listEnded_machine]
      exact .inl (h.mem_without hw waits same)
  | @withdraw v _ _ waits list' =>
    by_cases same : w = v
    · exact .inr (.inl (.abandon (by rw [same]) hw list))
    · exact .inl (h.mem_without hw waits same)
  | finish waits finishes => exact .inl (stays waits finishes.token?)
  | pass passes =>
    refine .inl ?_
    rw [show (Machine.give _ _ _ _).machine.waiting = m.waiting from passes.waiting_eq]
    exact hw
  | close =>
    by_cases loops : ofLoop w = true
    · simp only [ofLoop, list] at loops
      cases origin with
      | loop => exact .inr (.inl (.close rfl hw list))
      | _ => simp at loops
    · exact .inl (List.mem_filter.mpr ⟨hw, by simpa using loops⟩)
  | startPolling | wake | notice | ignore => exact .inl hw

/-- An event brings the answer to the latest request, or leaves what is shown alone. -/
theorem Orderly.react_latest (h : Orderly m) (e : Event) :
    (∃ w origin answer, Step.Answers ⟨m, e, m.react e⟩ w origin m.roster.token answer ∧
        Shows (m.react e).machine.roster answer) ∨
      ((m.react e).machine.roster.snapshot = m.roster.snapshot ∧
        (m.react e).machine.roster.lastError = m.roster.lastError ∧
        ∀ w origin answer, ¬ Step.Answers ⟨m, e, m.react e⟩ w origin m.roster.token answer) := by
  by_cases answered : ∃ w origin token answer,
      Step.Answers ⟨m, e, m.react e⟩ w origin token answer
  · obtain ⟨w, origin, token, answer, rfl, waits, list⟩ := answered
    simp only [h.react_listed waits list, listEnded_machine]
    by_cases latest : token = m.roster.token
    · subst latest
      refine .inl ⟨w, origin, answer, ⟨rfl, waits, list⟩, ?_⟩
      rcases answer with (_ | _) | _ <;> simp [Shows, receive_latest]
    · refine .inr ⟨by simp [receive_of_ne latest], by simp [receive_of_ne latest], ?_⟩
      intro v origin' answer' answers
      have number : w.number = v.number := (Event.listed.inj answers.event).1
      obtain rfl := h.eq_of_number waits answers.waits number
      have tokens := (Waiting.token?_of_list list).symm.trans (Waiting.token?_of_list answers.list)
      exact latest (Option.some.inj tokens)
  · have silent : ∀ w origin token answer,
        ¬ Step.Answers ⟨m, e, m.react e⟩ w origin token answer :=
      fun w origin token answer answers => answered ⟨w, origin, token, answer, answers⟩
    obtain ⟨snapshot, lastError⟩ := m.react_shown e silent
    exact .inr ⟨snapshot, lastError, fun w origin => silent w origin _⟩

end Machine

theorem Shows.congr {r r' : Roster} {answer : Except Failure (List Container)}
    (h : Shows r answer) (snapshot : r'.snapshot = r.snapshot)
    (lastError : r'.lastError = r.lastError) : Shows r' answer := by
  rcases answer with (e | u) | cs
  · exact lastError.trans h
  · trivial
  · exact ⟨snapshot.trans h.1, lastError.trans h.2⟩

theorem Latest.react {h : List Step} {m : Machine} (orderly : m.Orderly) (latest : Latest h m)
    (e : Event) : Latest (h ++ [⟨m, e, m.react e⟩]) (m.react e).machine := by
  have now : (⟨m, e, m.react e⟩ : Step) ∈ h ++ [⟨m, e, m.react e⟩] :=
    List.mem_append_right _ (List.mem_singleton_self _)
  rcases m.react_token e with ⟨w, waits, token, -, next⟩ | ⟨same, -⟩
  · exact .waiting waits (token.trans (congrArg some next.symm))
  rcases orderly.react_latest e with ⟨w, origin, answer, answers, shown⟩ |
    ⟨snapshot, lastError, silent⟩
  · exact .answered now (same ▸ answers) shown
  cases latest with
  | unasked token => exact .unasked (same.trans token)
  | waiting waits token =>
    rcases orderly.lost e waits token with waits | drops | ⟨answer, rfl⟩
    · exact .waiting waits (same ▸ token)
    · exact .dropped now (same ▸ drops)
    · obtain ⟨origin, list⟩ := Waiting.exists_list_of_token? token
      exact absurd ⟨rfl, waits, list⟩ (silent _ origin answer)
  | dropped happened drops => exact .dropped (List.mem_append_left _ happened) (same ▸ drops)
  | answered happened answers shown =>
    exact .answered (List.mem_append_left _ happened) (same ▸ answers)
      (shown.congr snapshot lastError)

theorem reached_orderly (es : List Event) : (reached es).Orderly :=
  Run.after_of_preserved (fun _ e h => h.react e) Machine.orderly_initial es

theorem latest (es : List Event) : Latest (history es) (reached es) := by
  induction es using List.reverseRecOn with
  | nil => exact .unasked rfl
  | append_singleton es e ih =>
    rw [history_append_singleton, reached_append_singleton]
    exact ih.react (reached_orderly es) e

end DevEnv.Roster
