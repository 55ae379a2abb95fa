import DevEnv.PortProbe.Waiting
import DevEnv.Proofs.PortProbe.Rest

/-!
What those who wait for a probe may rely on. A failed query is an answer like any other: the port is
taken to be free. What a probe shows is the answer that was stored last, and as long as nobody closes
the probe, callers that have waited find the port of the latest request answered.
-/

namespace DevEnv.PortProbe

set_option autoImplicit false

/-! ### Answers of a run -/

namespace Step

/-- The step issues this query. -/
def Issues (s : Step) (q : Numbered) : Prop := s.reaction.called = some q

/-- The step brings the answer to a query that waits for it. -/
structure Answers (s : Step) (q : Numbered) (answer : Except Failure Bool) : Prop where
  event : s.event = .answer q.number answer
  waits : q ∈ s.before.queries

/-- The step brings an answer about the port that is requested at that moment. -/
structure Stores (s : Step) (q : Numbered) (answer : Except Failure Bool) : Prop extends
    s.Answers q answer where
  current : s.before.requested = some q.port

end Step

section Queries
variable {l : Ledger} {m : Machine} {q : Numbered}

theorem find?_number {xs : List Numbered} {t : Numbered}
    (single : ∀ u ∈ xs, u.number = t.number → u.port = t.port) (ht : t ∈ xs) :
    xs.find? (fun u => u.number == t.number) = some t := by
  cases found : xs.find? fun u => u.number == t.number with
  | none => simpa using List.find?_eq_none.mp found t ht
  | some u =>
    have number : u.number = t.number := by simpa using List.find?_some found
    have port := single u (List.mem_of_find?_eq_some found) number
    cases u
    cases t
    simp_all

theorem Coherent.find?_query (h : Coherent l m) (waits : q ∈ m.queries) :
    m.queries.find? (fun p => p.number == q.number) = some q :=
  find?_number (fun _ hp same => h.port_eq hp waits same) waits

theorem Coherent.react_answer_of_requested (h : Coherent l m) (waits : q ∈ m.queries)
    (current : m.requested = some q.port) (answer : Except Failure Bool) :
    m.react (.answer q.number answer) = ⟨m.keep q answer, none, Machine.logOfAnswer q answer⟩ := by
  simp only [Machine.react, h.find?_query waits, Machine.answered_of_requested current]

theorem Coherent.react_answer_of_not_requested (h : Coherent l m) (waits : q ∈ m.queries)
    (late : m.requested ≠ some q.port) (answer : Except Failure Bool) :
    m.react (.answer q.number answer) = ⟨m.withoutQuery q, none, Machine.logOfAnswer q answer⟩ := by
  simp only [Machine.react, h.find?_query waits, Machine.answered_of_not_requested late]

/-- A failure does what an answer does that the port is free, and leaves a line in the log. -/
theorem Coherent.react_failure (h : Coherent l m) (waits : q ∈ m.queries) (f : Failure) :
    m.react (.answer q.number (.error f)) =
      { m.react (.answer q.number (.ok false)) with log := [logOf q.port f] } := by
  by_cases current : m.requested = some q.port
  · rw [h.react_answer_of_requested waits current, h.react_answer_of_requested waits current]
    rfl
  · rw [h.react_answer_of_not_requested waits current,
      h.react_answer_of_not_requested waits current]
    rfl

theorem Coherent.react_stores (h : Coherent l m) {e : Event} {answer : Except Failure Bool}
    (stores : Step.Stores ⟨m, e, m.react e⟩ q answer) :
    (m.react e).machine.port = some q.port ∧
      (m.react e).machine.inUse = some (meansInUse answer) := by
  obtain rfl : e = .answer q.number answer := stores.event
  rw [h.react_answer_of_requested stores.waits stores.current]
  exact ⟨rfl, rfl⟩

/-- An event stores an answer, or leaves what is shown alone. -/
theorem Coherent.react_shown (h : Coherent l m) (e : Event) :
    (∃ q answer, Step.Stores ⟨m, e, m.react e⟩ q answer ∧
        (m.react e).machine.port = some q.port ∧
        (m.react e).machine.inUse = some (meansInUse answer)) ∨
      ((m.react e).machine.port = m.port ∧ (m.react e).machine.inUse = m.inUse ∧
        ∀ q answer, ¬ Step.Stores ⟨m, e, m.react e⟩ q answer) := by
  by_cases stored : ∃ q answer, Step.Stores ⟨m, e, m.react e⟩ q answer
  · obtain ⟨q, answer, stores⟩ := stored
    exact .inl ⟨q, answer, stores, h.react_stores stores⟩
  · have silent : ∀ q answer, ¬ Step.Stores ⟨m, e, m.react e⟩ q answer :=
      fun q answer stores => stored ⟨q, answer, stores⟩
    refine .inr ⟨?_, ?_, silent⟩ <;>
    · have reacts := m.reacts e
      generalize m.react e = r at reacts silent ⊢
      cases reacts with
      | keep answer found current =>
        have number := by simpa using List.find?_some found
        have waits := List.mem_of_find?_eq_some found
        exact absurd ⟨⟨by rw [number], waits⟩, current⟩ (silent _ answer)
      | check | query | spent | discard | unasked | stop | unheld | letGo | notClosing => rfl

end Queries

theorem history_append_singleton (es : List Event) (e : Event) :
    history (es ++ [e]) = history es ++ [⟨reached es, e, (reached es).react e⟩] :=
  Run.steps_append_singleton _ _ _ _ _

/-- What a probe shows: nothing yet, or the answer that was stored last. -/
inductive Shows (h : List Step) (m : Machine) : Prop
  | nothing (port : m.port = none) (inUse : m.inUse = none)
    (unstored : ∀ s ∈ h, ∀ q answer, ¬ s.Stores q answer)
  | stored {earlier later : List Step} {s : Step} {q : Numbered} {answer : Except Failure Bool}
    (split : h = earlier ++ s :: later) (stores : s.Stores q answer)
    (last : ∀ u ∈ later, ∀ p answer, ¬ u.Stores p answer)
    (port : m.port = some q.port) (inUse : m.inUse = some (meansInUse answer))

theorem shows_reached (es : List Event) : Shows (history es) (reached es) := by
  induction es using List.reverseRecOn with
  | nil => exact .nothing rfl rfl (by simp [history, Run.steps])
  | append_singleton es e ih =>
    rw [history_append_singleton, reached_append_singleton]
    rcases (coherent es).react_shown e with ⟨q, answer, stores, port, inUse⟩ | ⟨port, inUse, silent⟩
    · exact .stored rfl stores (by simp) port inUse
    -- The event stores nothing, so what was shown before is shown still.
    cases ih with
    | nothing noPort noAnswer unstored =>
      refine .nothing (port.trans noPort) (inUse.trans noAnswer) fun s hs => ?_
      rcases List.mem_append.mp hs with hs | hs
      · exact unstored s hs
      · exact List.mem_singleton.mp hs ▸ silent
    | @stored earlier later s _ _ split stores last shown shownInUse =>
      have still : history es ++ [⟨reached es, e, (reached es).react e⟩] =
          earlier ++ s :: (later ++ [⟨reached es, e, (reached es).react e⟩]) := by simp [split]
      refine .stored still stores (fun u hu => ?_) (port.trans shown) (inUse.trans shownInUse)
      rcases List.mem_append.mp hu with hu | hu
      · exact last u hu
      · exact List.mem_singleton.mp hu ▸ silent

theorem Machine.checking_eq_false_iff {m : Machine} :
    m.checking = false ↔ m.held = none ∧ m.queries = [] := by
  simp [Machine.checking]

theorem meansInUse_eq_true_iff {answer : Except Failure Bool} :
    meansInUse answer = true ↔ answer = .ok true := by
  rcases answer with _ | b <;> simp [meansInUse]

section Runs
variable {es : List Event} {s : Step} {q : Numbered}

theorem exists_of_mem_history (hs : s ∈ history es) :
    ∃ before e later, es = before ++ e :: later ∧
      s = ⟨reached before, e, (reached before).react e⟩ := by
  obtain ⟨before, later, split, start, reacts⟩ := Run.exists_split_of_mem_steps hs
  obtain ⟨m, e, r⟩ := s
  obtain rfl : m = reached before := start
  obtain rfl : r = (reached before).react e := reacts
  exact ⟨before, e, later, split, rfl⟩

theorem mem_history_append (hs : s ∈ history es) (ds : List Event) : s ∈ history (es ++ ds) := by
  rw [history, Run.steps_append]
  exact List.mem_append_left _ hs

theorem issued_of_waits (waits : q ∈ (reached es).queries) : ∃ u ∈ history es, u.Issues q := by
  induction es using List.reverseRecOn with
  | nil => cases waits
  | append_singleton es e ih =>
    rw [reached_append_singleton] at waits
    rw [history_append_singleton]
    have old (waits : q ∈ (reached es).queries) :
        ∃ u ∈ history es ++ [⟨reached es, e, (reached es).react e⟩], u.Issues q := by
      obtain ⟨u, hu, issues⟩ := ih waits
      exact ⟨u, List.mem_append_left _ hu, issues⟩
    refine (?_ : q ∈ (reached es).queries ∨ ((reached es).react e).called = some q).elim old
      fun called => ⟨_, List.mem_append_right _ (List.mem_singleton_self _), called⟩
    have reacts := (reached es).reacts e
    generalize (reached es).react e = r at reacts waits ⊢
    cases reacts with
    | query =>
      rcases List.mem_append.mp waits with waits | waits
      · exact .inl waits
      · exact .inr (List.mem_singleton.mp waits ▸ rfl)
    | keep | discard => exact .inl (List.mem_filter.mp waits).1
    | check | spent | unasked | stop | unheld | letGo | notClosing => exact .inl waits

theorem issued_of_answers {answer : Except Failure Bool} (hs : s ∈ history es)
    (answers : s.Answers q answer) : ∃ u ∈ history es, u.Issues q := by
  obtain ⟨before, e, later, rfl, rfl⟩ := exists_of_mem_history hs
  obtain ⟨u, hu, issues⟩ := issued_of_waits answers.waits
  exact ⟨u, mem_history_append hu _, issues⟩

/-- A probe that nobody closes has a timer or a query for as long as it says so. -/
theorem nothing_pending (goesOn : .close ∉ es) (still : (reached es).checking = false) :
    (reached es).timers = [] ∧ (reached es).queries = [] := by
  obtain ⟨unheld, queries⟩ := Machine.checking_eq_false_iff.mp still
  -- A probe that nobody closes holds the timer that it watches.
  have watches := (undisturbed goesOn).watches
  rw [unheld] at watches
  refine ⟨?_, queries⟩
  generalize (reached es).timers = timers at watches
  cases watches with
  | resting => rfl

theorem latest_shown (goesOn : .close ∉ es) (still : (reached es).checking = false) {port : Int}
    (latest : (reached es).requested = some port) :
    (reached es).port = some port ∧ ∃ b, (reached es).inUse = some b := by
  obtain ⟨timers, queries⟩ := nothing_pending goesOn still
  have last := (coherent es).requested.symm.trans latest
  obtain ⟨r, -, -, shown, inUse, -⟩ := shown_at_rest goesOn timers queries last
  exact ⟨shown, r.inUse, inUse⟩

end Runs

/-! ### Visits -/

def Visit.event? : Visit → Option Event
  | .probe e => some e
  | _ => none

/-- What visits mean for the probe alone. -/
def events (vs : List Visit) : List Event := vs.filterMap Visit.event?

/-- A new probe and those who wait for it, after visits. -/
def attended (vs : List Visit) : Attended :=
  Run.after Attended.react Response.attended .initial vs

theorem attended_append_singleton (vs : List Visit) (v : Visit) :
    attended (vs ++ [v]) = ((attended vs).react v).attended :=
  Run.after_append_singleton _ _ _ _ _

namespace Attended
variable {a : Attended} {caller : Nat}

@[simp] theorem look_probe (a : Attended) (caller : Nat) :
    (a.look caller).attended.probe = a.probe := by
  unfold look
  split <;> rfl

theorem look_returned_eq_some_iff {c : Nat} :
    (a.look caller).returned = some c ↔ a.probe.checking = false ∧ caller = c := by
  unfold look
  cases checking : a.probe.checking <;> simp [quiet]

/-- Waiting leaves the probe alone. -/
theorem react_probe (a : Attended) (v : Visit) :
    (a.react v).attended.probe =
      match v.event? with
      | some e => (a.probe.react e).machine
      | none => a.probe := by
  cases v with
  | probe e => rfl
  | wait caller => exact a.look_probe caller
  | look caller =>
    simp only [react, Visit.event?]
    split
    · split
      · exact look_probe _ _
      · rfl
    · rfl

/-- A caller goes only when it sees that nothing is being checked. -/
theorem checking_of_returned {v : Visit} (returned : (a.react v).returned = some caller) :
    a.probe.checking = false := by
  cases v with
  | probe e => cases returned
  | wait c => exact (look_returned_eq_some_iff.mp returned).1
  | look c =>
    simp only [react] at returned
    split at returned
    · split at returned
      · exact (look_returned_eq_some_iff.mp returned).1
      · cases returned
    · cases returned

/-- Whoever waits may go as soon as nothing is left to wait for. -/
theorem react_look_returned {w : Waiter} (waits : w ∈ a.waiters) (timers : a.probe.timers = [])
    (queries : a.probe.queries = []) (still : a.probe.checking = false) :
    (a.react (.look w.caller)).returned = some w.caller := by
  cases found : a.waiters.find? fun v => v.caller == w.caller with
  | none => simpa using List.find?_eq_none.mp found w waits
  | some v =>
    have free : v.isFree a.probe = true := by simp [Waiter.isFree, timers, queries]
    simp only [react, found, free, if_true]
    exact look_returned_eq_some_iff.mpr ⟨still, rfl⟩

end Attended

theorem attended_probe (vs : List Visit) : (attended vs).probe = reached (events vs) := by
  induction vs using List.reverseRecOn with
  | nil => rfl
  | append_singleton vs v ih =>
    have split : events (vs ++ [v]) = events vs ++ v.event?.toList := by
      cases v <;> simp [events, Visit.event?]
    rw [attended_append_singleton, Attended.react_probe, ih, split]
    cases v with
    | probe e => exact (reached_append_singleton _ _).symm
    | wait | look => simp [Visit.event?]

/-- What a probe guarantees to those who wait for it. -/
structure Dependable (vs : List Visit) : Prop where
  /-- A failure of any kind does what an answer does that the port is free. Nothing else comes of it
  but a line in the log. -/
  contained : ∀ q ∈ (attended vs).probe.queries, ∀ f,
    (attended vs).probe.react (.answer q.number (.error f)) =
      { (attended vs).probe.react (.answer q.number (.ok false)) with log := [logOf q.port f] }
  /-- Only answers about the port that is requested at that moment are stored. -/
  stored : ∀ s ∈ history (events vs),
    (s.reaction.machine.port = s.before.port ∧ s.reaction.machine.inUse = s.before.inUse) ∨
      ∃ q answer, s.Answers q answer ∧ s.before.requested = some q.port ∧
        s.reaction.machine.port = some q.port ∧
        s.reaction.machine.inUse = some (meansInUse answer)
  shows : Shows (history (events vs)) (attended vs).probe
  /-- A port is taken only if the answer to a query for it says so. -/
  taken : (attended vs).probe.inUse = some true →
    ∃ q, (attended vs).probe.port = some q.port ∧ (∃ u ∈ history (events vs), u.Issues q) ∧
      ∃ s ∈ history (events vs), s.Answers q (.ok true)
  failed : ∀ s ∈ history (events vs), ∀ q f, s.Stores q (.error f) →
    s.reaction.machine.inUse = some false
  requested : (attended vs).probe.requested = ((events vs).filterMap Event.port?).getLast?
  /-- With no timer and no query left, the latest request is answered. -/
  answered : .close ∉ events vs → (attended vs).probe.checking = false →
    ((attended vs).probe.timers = [] ∧ (attended vs).probe.queries = []) ∧
      ∀ port, (attended vs).probe.requested = some port →
        (attended vs).probe.port = some port ∧ ∃ b, (attended vs).probe.inUse = some b
  returned : .close ∉ events vs → ∀ v caller, ((attended vs).react v).returned = some caller →
    ∀ port, (attended vs).probe.requested = some port →
      (attended vs).probe.port = some port ∧ ∃ b, (attended vs).probe.inUse = some b
  released : .close ∉ events vs → (attended vs).probe.checking = false →
    ∀ w ∈ (attended vs).waiters,
      ((attended vs).react (.look w.caller)).returned = some w.caller

theorem checks_eq_filterMap (es : List Event) : (ledger es).checks = es.filterMap Event.port? := by
  induction es using List.reverseRecOn with
  | nil => rfl
  | append_singleton es e ih =>
    rw [ledger_append_singleton, List.filterMap_append, ← ih]
    cases h : e.port? <;> simp [Ledger.enter, h]

theorem latest_answered (vs : List Visit) : Dependable vs := by
  have probe := attended_probe vs
  have c := coherent (events vs)
  have shows := shows_reached (events vs)
  constructor
  · intro q waits f
    rw [probe] at waits ⊢
    exact c.react_failure waits f
  · intro s hs
    obtain ⟨before, e, later, -, rfl⟩ := exists_of_mem_history hs
    rcases (coherent before).react_shown e with ⟨q, answer, stores, shown⟩ | ⟨port, inUse, -⟩
    · exact .inr ⟨q, answer, stores.toAnswers, stores.current, shown⟩
    · exact .inl ⟨port, inUse⟩
  · exact probe ▸ shows
  · intro taken
    rw [probe] at taken ⊢
    cases shows with
    | nothing port inUse => simp [inUse] at taken
    | @stored earlier later s q answer split stores last port inUse =>
      have yes := meansInUse_eq_true_iff.mp (Option.some.inj (inUse.symm.trans taken))
      have hs : s ∈ history (events vs) := split ▸ List.mem_append_right _ List.mem_cons_self
      have answers := yes ▸ stores.toAnswers
      exact ⟨q, port, issued_of_answers hs answers, s, hs, answers⟩
  · intro s hs q f stores
    obtain ⟨before, e, later, -, rfl⟩ := exists_of_mem_history hs
    exact ((coherent before).react_stores stores).2
  · rw [probe, c.requested, checks_eq_filterMap]
  · intro goesOn still
    rw [probe] at still ⊢
    exact ⟨nothing_pending goesOn still, fun port latest => latest_shown goesOn still latest⟩
  · intro goesOn v caller returned port latest
    have still := Attended.checking_of_returned returned
    rw [probe] at still latest ⊢
    exact latest_shown goesOn still latest
  · intro goesOn still w waits
    have pending := nothing_pending goesOn (probe ▸ still)
    rw [← probe] at pending
    exact Attended.react_look_returned waits pending.1 pending.2 still

end DevEnv.PortProbe
