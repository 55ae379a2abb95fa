import DevEnv.Proofs.Roster.Answers

/-!
Which lists a roster shows. Lists are stored in the order of the requests for them, and only the
answer to the latest request counts. A roster at rest shows what became of that request; after an
action that is one made at or after the action, so that nothing older hides its effect.
-/

namespace DevEnv.Roster

set_option autoImplicit false

/-! ### Actions -/

section Acts
variable {es : List Event} {earlier later : List Step} {s : Step} {w : Waiting}

theorem Step.Acts.reaction_of_ok (h : s.Acts w (.ok ())) (hs : s ∈ history es) :
    s.reaction = (s.before.without w).ask .action w.caller := by
  obtain ⟨orderly, reacts⟩ := before_orderly hs
  rw [reacts, h.event]
  exact orderly.react_acted_ok h.waits h.act

theorem Step.Acts.reaction_of_error {f : Failure} (h : s.Acts w (.error f))
    (hs : s ∈ history es) :
    s.reaction = (s.before.without w).give w.caller (.failed f) [] := by
  obtain ⟨orderly, reacts⟩ := before_orderly hs
  rw [reacts, h.event]
  exact orderly.react_acted_error h.waits h.act f

theorem Step.Acts.asks (h : s.Acts w (.ok ())) (hs : s ∈ history es) :
    s.Asks s.before.issued (s.before.roster.token + 1) := by
  rw [Step.Asks, Step.roster, h.reaction_of_ok hs]
  exact ⟨rfl, rfl⟩

/-- Tokens above that of a step are asked for at the step or after it. -/
theorem mem_of_asks (h : history es = earlier ++ s :: later) {u : Step} (hu : u ∈ history es)
    {number token : Nat} (asks : u.Asks number token) (above : s.before.roster.token < token) :
    u ∈ s :: later := by
  have ordered := tokens_pairwise es
  rw [h] at hu ordered
  rcases List.mem_append.mp hu with hu | hu
  · have bound := (List.pairwise_append.mp ordered).2.2 u hu s List.mem_cons_self
    have := asks.2
    omega
  · exact hu

/-- What is stored after an action has succeeded was asked for at the action or later. -/
theorem Step.Stores.asked_since (h : history es = earlier ++ s :: later) (acts : s.Acts w (.ok ()))
    {s' : Step} (hs' : s' ∈ later) {v : Waiting} {token : Nat} {cs : List Container}
    (stores : s'.Stores v token cs) : ∃ u ∈ s :: later, Step.Asks u v.number token := by
  have hs : s ∈ history es := h ▸ List.mem_append_right _ List.mem_cons_self
  have known : s' ∈ history es := h ▸ List.mem_append_right _ (List.mem_cons_of_mem _ hs')
  obtain ⟨latest, origin, answers⟩ := stores
  obtain ⟨u, hu, asks⟩ := answers.asked known
  have ordered := tokens_pairwise es
  rw [h] at ordered
  have since := (List.pairwise_cons.mp (List.pairwise_append.mp ordered).2.1).1 s' hs'
  have next := (acts.asks hs).2
  exact ⟨u, mem_of_asks h hu asks (by omega), asks⟩

end Acts

/-! ### A roster at rest -/

/-- The latest request has been answered: it waits no longer, nobody has given it up, and its answer
was none that nobody foresees. -/
structure Settled (es : List Event) : Prop where
  asked : (reached es).roster.token ≠ 0
  ended : ∀ w ∈ (reached es).waiting, w.token? ≠ some (reached es).roster.token
  kept : ∀ s ∈ history es, ¬ s.Drops (reached es).roster.token
  foreseen : ∀ s ∈ history es, ∀ w origin u,
    ¬ s.Answers w origin (reached es).roster.token (.error (.unforeseen u))

theorem Settled.answered {es : List Event} (h : Settled es) :
    ∃ s ∈ history es, ∃ w origin answer,
      s.Answers w origin (reached es).roster.token answer ∧
      ((reached es).roster.lastError = none ↔ ∃ cs, answer = .ok cs) ∧
      ∀ cs, answer = .ok cs → (reached es).roster.snapshot = cs := by
  -- Three of the four things that can become of a request are excluded.
  cases latest es with
  | unasked token => exact absurd token h.asked
  | waiting waits token => exact absurd token (h.ended _ waits)
  | dropped happened drops => exact absurd drops (h.kept _ happened)
  | @answered s w origin answer happened answers shown =>
    refine ⟨s, happened, w, origin, answer, answers, ?_⟩
    rcases answer with (e | u) | cs
    · have failed : (reached es).roster.lastError = some _ := shown
      simp [failed]
    · exact absurd answers (h.foreseen s happened w origin u)
    · obtain ⟨snapshot, lastError⟩ := shown
      simp [snapshot, lastError]

/-- An action, and the list that follows it. -/
example : Settled [.act 0 .start "c1", .acted 0 (.ok ()), .listed 1 (.ok [])] where
  asked := by decide
  ended := by
    intro w hw
    cases hw
  kept := by
    intro s hs drops
    simp only [history, Run.steps, List.mem_cons, List.not_mem_nil, or_false] at hs
    rcases hs with rfl | rfl | rfl <;> cases drops <;> simp_all
  foreseen := by
    intro s hs w origin u answers
    simp only [history, Run.steps, List.mem_cons, List.not_mem_nil, or_false] at hs
    rcases hs with rfl | rfl | rfl <;> have event := answers.event <;> simp at event

/-- What rosters guarantee over all runs. -/
structure Disciplined (es : List Event) : Prop where
  /-- The token of a roster is that of the latest request, and calls keep the tokens that they were
  made with. -/
  numbered : ∀ s ∈ history es,
    (∃ number, s.Asks number (s.before.roster.token + 1)) ∨
      (s.roster.token = s.before.roster.token ∧
        ∀ number, s.reaction.called ≠ some (number, .list))
  asked : ∀ s ∈ history es, ∀ w origin token answer, s.Answers w origin token answer →
    ∃ u ∈ history es, Step.Asks u w.number token
  /-- Lists are stored in the order of the requests for them. -/
  increasing : (history es).Pairwise fun s s' => ∀ w token cs w' token' cs',
    s.Stores w token cs → s'.Stores w' token' cs' → token < token'
  untouched : ∀ s ∈ history es, (∀ w origin token answer, ¬ s.Answers w origin token answer) →
    s.roster.snapshot = s.before.roster.snapshot ∧
      s.roster.lastError = s.before.roster.lastError
  late : ∀ s ∈ history es, ∀ w origin token answer, s.Answers w origin token answer →
    token ≠ s.before.roster.token →
      s.roster.snapshot = s.before.roster.snapshot ∧
        s.roster.lastError = s.before.roster.lastError
  stored : ∀ s ∈ history es, ∀ w token cs, s.Stores w token cs →
    s.roster.snapshot = cs ∧ s.roster.lastError = none
  failed : ∀ s ∈ history es, ∀ w origin e,
    s.Answers w origin s.before.roster.token (.error (.engine e)) →
      s.roster.lastError = some (Failure.engine e).describe ∧
        s.roster.snapshot = s.before.roster.snapshot
  /-- The caller of a refresh gets the list at hand, or the failure of its own request. -/
  returned : ∀ s ∈ history es, ∀ w token answer, s.Answers w .refresh token answer →
    s.reaction.returned = w.caller.map fun c => (c, .ofRefresh s.roster.snapshot answer)
  settled : Settled es → ∃ s ∈ history es, ∃ w origin answer,
    s.Answers w origin (reached es).roster.token answer ∧
      ((reached es).roster.lastError = none ↔ ∃ cs, answer = .ok cs) ∧
      ∀ cs, answer = .ok cs → (reached es).roster.snapshot = cs
  failedAction : ∀ s ∈ history es, ∀ w f, s.Acts w (.error f) →
    s.reaction.returned = w.caller.map (fun c => (c, .failed f)) ∧ s.reaction.called = none ∧
      s.roster = s.before.roster
  /-- A successful action asks for a list. What is stored from then on was asked for by the action
  or later, and a roster at rest shows such a list unless the latest request failed. -/
  ownWrites : ∀ earlier s later w, history es = earlier ++ s :: later → s.Acts w (.ok ()) →
    (∃ number, s.Asks number (s.before.roster.token + 1)) ∧
    (∀ s' ∈ later, ∀ v token cs, s'.Stores v token cs →
      ∃ u ∈ s :: later, Step.Asks u v.number token) ∧
    (Settled es → (reached es).roster.lastError = none →
      ∃ u ∈ s :: later, ∃ s' ∈ history es, ∃ v origin,
        Step.Asks u v.number (reached es).roster.token ∧
        s'.Answers v origin (reached es).roster.token (.ok (reached es).roster.snapshot))

section Steps
variable {es : List Event} {s : Step} {w : Waiting} {origin : Origin}

theorem Step.Answers.late {token : Nat} {answer : Except Failure (List Container)}
    (h : s.Answers w origin token answer) (hs : s ∈ history es)
    (late : token ≠ s.before.roster.token) :
    s.roster.snapshot = s.before.roster.snapshot ∧
      s.roster.lastError = s.before.roster.lastError := by
  rw [h.roster_eq hs, receive_of_ne late]
  exact ⟨rfl, rfl⟩

theorem Step.Stores.stored {token : Nat} {cs : List Container} (h : s.Stores w token cs)
    (hs : s ∈ history es) : s.roster.snapshot = cs ∧ s.roster.lastError = none := by
  obtain ⟨rfl, origin, answers⟩ := h
  rw [answers.roster_eq hs, receive_latest]
  exact ⟨rfl, rfl⟩

theorem Step.Answers.failed {e : EngineFailure}
    (h : s.Answers w origin s.before.roster.token (.error (.engine e))) (hs : s ∈ history es) :
    s.roster.lastError = some (Failure.engine e).describe ∧
      s.roster.snapshot = s.before.roster.snapshot := by
  rw [h.roster_eq hs, receive_latest]
  exact ⟨rfl, rfl⟩

theorem Step.shown_of_silent (hs : s ∈ history es)
    (silent : ∀ w origin token answer, ¬ s.Answers w origin token answer) :
    s.roster.snapshot = s.before.roster.snapshot ∧
      s.roster.lastError = s.before.roster.lastError := by
  obtain ⟨-, reacts⟩ := before_orderly hs
  obtain ⟨before, event, reaction⟩ := s
  obtain rfl : reaction = before.react event := reacts
  exact before.react_shown event silent

/-- A roster at rest without an error shows a list that was asked for by the action or later. -/
theorem Settled.shows_own {earlier later : List Step} (settled : Settled es)
    (h : history es = earlier ++ s :: later) (acts : s.Acts w (.ok ()))
    (clear : (reached es).roster.lastError = none) :
    ∃ u ∈ s :: later, ∃ s' ∈ history es, ∃ v origin,
      Step.Asks u v.number (reached es).roster.token ∧
      s'.Answers v origin (reached es).roster.token (.ok (reached es).roster.snapshot) := by
  have hs : s ∈ history es := h ▸ List.mem_append_right _ List.mem_cons_self
  obtain ⟨s', hs', v, origin, answer, answers, fine, shown⟩ := settled.answered
  obtain ⟨cs, rfl⟩ := fine.mp clear
  obtain ⟨u, hu, asks⟩ := answers.asked hs'
  have next := (acts.asks hs).2
  have known := token_le_reached hs
  refine ⟨u, mem_of_asks h hu asks (by omega), s', hs', v, origin, asks, ?_⟩
  rw [shown cs rfl]
  exact answers

theorem Step.numbered (hs : s ∈ history es) :
    (∃ number, s.Asks number (s.before.roster.token + 1)) ∨
      (s.roster.token = s.before.roster.token ∧
        ∀ number, s.reaction.called ≠ some (number, .list)) := by
  obtain ⟨-, reacts⟩ := before_orderly hs
  obtain ⟨before, event, reaction⟩ := s
  obtain rfl : reaction = before.react event := reacts
  rcases before.react_token event with ⟨w, -, -, asks⟩ | same
  · exact .inl ⟨w.number, asks⟩
  · exact .inr same

end Steps

theorem disciplined (es : List Event) : Disciplined es where
  numbered _ hs := Step.numbered hs
  asked _ hs _ _ _ _ answers := answers.asked hs
  increasing := stores_pairwise es
  untouched _ hs := Step.shown_of_silent hs
  late _ hs _ _ _ _ answers := answers.late hs
  stored _ hs _ _ _ stores := stores.stored hs
  failed _ hs _ _ _ answers := answers.failed hs
  returned _ hs _ _ _ answers := answers.returned hs
  settled := Settled.answered
  failedAction _ hs _ _ acts := by
    rw [Step.roster, acts.reaction_of_error hs]
    exact ⟨rfl, rfl, rfl⟩
  ownWrites _ _ _ _ h acts :=
    ⟨⟨_, acts.asks (h ▸ List.mem_append_right _ List.mem_cons_self)⟩,
      fun _ hs' _ _ _ stores => stores.asked_since h acts hs',
      fun settled clear => settled.shows_own h acts clear⟩

end DevEnv.Roster
