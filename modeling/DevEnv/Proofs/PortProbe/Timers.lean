import DevEnv.Proofs.PortProbe.Waiting

/-!
Which timers a probe holds. A closing that ends makes the probe let go of whatever timer it holds, and
so does a timer that runs out; a timer of which the probe has let go runs out all the same. If no port
is requested while a closing waits, a probe has at most one timer, and holds it.
-/

namespace DevEnv.PortProbe

set_option autoImplicit false

/-- The event stops the timer that the probe holds. -/
inductive Event.Stops : Event → Prop
  | check (port : Int) : Stops (.check port)
  | close : Stops .close

namespace Machine

/-- The timer will run out, and the probe holds it. -/
structure Holds (m : Machine) (t : Numbered) : Prop where
  pending : t ∈ m.timers
  held : m.held = some t.number

/-- The timer will run out, and the probe does not hold it. -/
structure Strays (m : Machine) (t : Numbered) : Prop where
  pending : t ∈ m.timers
  unheld : m.held ≠ some t.number

/-- The event makes the probe let go of the timer that it holds. -/
inductive LetsGo (m : Machine) : Event → Prop
  | closed (waits : m.closing ≠ 0) : LetsGo m .closed
  | expire {u : Numbered} (pending : u ∈ m.timers) : LetsGo m (.expire u.number)

/-- Timers are older than the next one, and a timer that is held is the newest. -/
structure Dated (m : Machine) : Prop where
  timers : ∀ t ∈ m.timers, t.number < m.started
  held : ∀ timer, m.held = some timer → timer + 1 = m.started

theorem dated_initial : Dated .initial := ⟨by simp [initial], by simp [initial]⟩

section Steps
variable {m : Machine} {t u : Numbered} {e : Event}

theorem mem_otherTimers : t ∈ m.otherTimers ↔ t ∈ m.timers ∧ m.held ≠ some t.number := by
  simp [otherTimers]

theorem mem_query_timers : t ∈ (m.query u).machine.timers ↔ t ∈ m.timers ∧ t.number ≠ u.number := by
  simp [query]

theorem Dated.react (h : m.Dated) (e : Event) : (m.react e).machine.Dated := by
  have reacts := m.reacts e
  generalize m.react e = r at reacts ⊢
  cases reacts with
  | check port =>
    refine ⟨fun t ht => ?_, by simp [check]⟩
    rcases List.mem_append.mp ht with ht | ht
    · exact Nat.lt_succ_of_lt (h.timers t (mem_otherTimers.mp ht).1)
    · rw [List.mem_singleton.mp ht]
      exact Nat.lt_succ_self _
  | query => exact ⟨fun t ht => h.timers t (mem_query_timers.mp ht).1, by simp [query]⟩
  | stop => exact ⟨fun t ht => h.timers t (mem_otherTimers.mp ht).1, h.held⟩
  | letGo => exact ⟨h.timers, by simp⟩
  | spent | keep | discard | unasked | unheld | notClosing => exact ⟨h.timers, h.held⟩

/-- A timer goes on unless it runs out or is stopped. -/
theorem mem_timers_react_iff (ht : t ∈ m.timers) (old : t.number < m.started) :
    t ∈ (m.react e).machine.timers ↔
      e ≠ .expire t.number ∧ (e.Stops → m.held ≠ some t.number) := by
  have reacts := m.reacts e
  generalize m.react e = r at reacts ⊢
  cases reacts with
  | check port =>
    have other : t ≠ ⟨m.started, port⟩ := by
      rintro rfl
      exact Nat.ne_of_lt old rfl
    simp [check, mem_otherTimers, ht, other, Event.Stops.check]
  | @query timer u found =>
    obtain rfl : u.number = timer := by simpa using List.find?_some found
    have stops : ¬ (Event.expire u.number).Stops := by rintro ⟨⟩
    simp [mem_query_timers, ht, stops, eq_comm]
  | @spent timer missing =>
    have stops : ¬ (Event.expire timer).Stops := by rintro ⟨⟩
    have other : timer ≠ t.number := by
      rintro rfl
      simpa using List.find?_eq_none.mp missing t ht
    simp [ht, other, stops]
  | stop holds => simp [mem_otherTimers, ht, Event.Stops.close]
  | unheld holds => simp [ht, holds]
  | @keep number _ answer | @discard number _ answer | @unasked number answer =>
    have stops : ¬ (Event.answer number answer).Stops := by rintro ⟨⟩
    simp [keep, withoutQuery, ht, stops]
  | letGo | notClosing =>
    have stops : ¬ Event.closed.Stops := by rintro ⟨⟩
    simp [ht, stops]

theorem held_react_of_letsGo (lets : m.LetsGo e) : (m.react e).machine.held = none := by
  cases lets with
  | closed waits => simp [Machine.react, waits]
  | @expire u pending =>
    cases found : m.timers.find? fun t => t.number == u.number with
    | none => simpa using List.find?_eq_none.mp found u pending
    | some t => simp [Machine.react, found, query]

theorem held_react_of_keeps (stops : ¬ e.Stops) (lets : ¬ m.LetsGo e) :
    (m.react e).machine.held = m.held := by
  have reacts := m.reacts e
  generalize m.react e = r at reacts ⊢
  cases reacts with
  | check port => exact absurd (.check port) stops
  | @query timer u found =>
    obtain rfl : u.number = timer := by simpa using List.find?_some found
    exact absurd (.expire (List.mem_of_find?_eq_some found)) lets
  | letGo waits => exact absurd (.closed waits) lets
  | stop => exact absurd .close stops
  | spent | keep | discard | unasked | unheld | notClosing => rfl

theorem Holds.react (h : m.Holds t) (dated : m.Dated) (stops : ¬ e.Stops)
    (lets : ¬ m.LetsGo e) (goesOn : e ≠ .expire t.number) : (m.react e).machine.Holds t where
  pending := (mem_timers_react_iff h.pending (dated.timers t h.pending)).mpr
    ⟨goesOn, fun stop => absurd stop stops⟩
  held := (held_react_of_keeps stops lets).trans h.held

theorem Holds.strays (h : m.Holds t) (dated : m.Dated) (stops : ¬ e.Stops) (lets : m.LetsGo e)
    (goesOn : e ≠ .expire t.number) : (m.react e).machine.Strays t where
  pending := (mem_timers_react_iff h.pending (dated.timers t h.pending)).mpr
    ⟨goesOn, fun stop => absurd stop stops⟩
  unheld := by simp [held_react_of_letsGo lets]

theorem Strays.react (h : m.Strays t) (dated : m.Dated) (goesOn : e ≠ .expire t.number) :
    (m.react e).machine.Strays t where
  pending := (mem_timers_react_iff h.pending (dated.timers t h.pending)).mpr
    ⟨goesOn, fun _ => h.unheld⟩
  unheld := by
    by_cases lets : m.LetsGo e
    · simp [held_react_of_letsGo lets]
    by_cases stops : e.Stops
    · cases stops with
      | check port =>
        have old := dated.timers t h.pending
        simpa [Machine.react, check] using fun same => Nat.ne_of_gt old same
      | close =>
        simp only [Machine.react]
        split <;> exact h.unheld
    · rw [held_react_of_keeps stops lets]
      exact h.unheld

/-- A timer that is there after an event was there before, or the event starts it. -/
theorem mem_timers_of_react (ht : t ∈ (m.react e).machine.timers) :
    t ∈ m.timers ∨ ∃ port, e = .check port ∧ t = ⟨m.started, port⟩ := by
  have reacts := m.reacts e
  generalize m.react e = r at reacts ht
  cases reacts with
  | check port =>
    rcases List.mem_append.mp ht with ht | ht
    · exact .inl (mem_otherTimers.mp ht).1
    · exact .inr ⟨port, rfl, List.mem_singleton.mp ht⟩
  | query => exact .inl (mem_query_timers.mp ht).1
  | stop => exact .inl (mem_otherTimers.mp ht).1
  | spent | keep | discard | unasked | unheld | letGo | notClosing => exact .inl ht

theorem Strays.of_react (h : (m.react e).machine.Strays t) (dated : m.Dated) :
    e ≠ .expire t.number ∧ (m.Strays t ∨ (m.Holds t ∧ ¬ e.Stops ∧ m.LetsGo e)) := by
  rcases mem_timers_of_react h.pending with ht | ⟨port, rfl, rfl⟩
  · obtain ⟨goesOn, unstopped⟩ := (mem_timers_react_iff ht (dated.timers t ht)).mp h.pending
    refine ⟨goesOn, ?_⟩
    by_cases held : m.held = some t.number
    · have stops : ¬ e.Stops := fun stop => unstopped stop held
      by_cases lets : m.LetsGo e
      · exact .inr ⟨⟨ht, held⟩, stops, lets⟩
      · exact absurd ((held_react_of_keeps stops lets).trans held) h.unheld
    · exact .inl ⟨ht, held⟩
  · exact absurd rfl h.unheld

theorem Holds.of_react (h : (m.react e).machine.Holds t) (dated : m.Dated) :
    (∃ port, e = .check port ∧ t = ⟨m.started, port⟩) ∨
      (m.Holds t ∧ ¬ e.Stops ∧ e ≠ .expire t.number) := by
  rcases mem_timers_of_react h.pending with ht | started
  · obtain ⟨goesOn, unstopped⟩ := (mem_timers_react_iff ht (dated.timers t ht)).mp h.pending
    have held : m.held = some t.number := by
      by_contra unheld
      exact (Strays.react ⟨ht, unheld⟩ dated goesOn).unheld h.held
    exact .inr ⟨⟨ht, held⟩, fun stop => unstopped stop held, goesOn⟩
  · exact .inl started

/-! ### Several events -/

theorem Strays.after (h : m.Strays t) (dated : m.Dated) {es : List Event}
    (goesOn : .expire t.number ∉ es) : (m.after es).Strays t := by
  induction es generalizing m with
  | nil => exact h
  | cons e es ih =>
    simp only [List.mem_cons, not_or] at goesOn
    exact ih (h.react dated (Ne.symm goesOn.1)) (dated.react e) goesOn.2

/-- A timer that nothing stops goes on, held or not. -/
theorem Holds.after (h : m.Holds t) (dated : m.Dated) {es : List Event}
    (stops : ∀ e ∈ es, ¬ e.Stops) (goesOn : .expire t.number ∉ es) :
    (m.after es).Holds t ∨ (m.after es).Strays t := by
  induction es generalizing m with
  | nil => exact .inl h
  | cons e es ih =>
    simp only [List.mem_cons, not_or, forall_eq_or_imp] at goesOn stops
    by_cases lets : m.LetsGo e
    · have strays := h.strays dated stops.1 lets (Ne.symm goesOn.1)
      exact .inr (strays.after (dated.react e) goesOn.2)
    · exact ih (h.react dated stops.1 lets (Ne.symm goesOn.1)) (dated.react e) stops.2 goesOn.2

end Steps

end Machine

/-! ### Timers of a run -/

theorem reached_append (es ds : List Event) : reached (es ++ ds) = (reached es).after ds := by
  rw [reached, Machine.after, List.foldl_append]
  rfl

theorem reached_dated (es : List Event) : (reached es).Dated :=
  Run.after_of_preserved (fun _ e h => h.react e) Machine.dated_initial es

theorem reached_check_holds (es : List Event) (port : Int) :
    (reached (es ++ [.check port])).Holds ⟨(reached es).started, port⟩ := by
  rw [reached_append_singleton]
  exact ⟨List.mem_append_right _ (List.mem_singleton_self _), rfl⟩

/-- The port of the timer was requested, and the probe let go of the timer before anything stopped it.
It has not run out. -/
def LetGo (es : List Event) (t : Numbered) : Prop :=
  ∃ before port mid e later, es = before ++ .check port :: (mid ++ e :: later) ∧
    t = ⟨(reached before).started, port⟩ ∧ (∀ d ∈ mid ++ [e], ¬ d.Stops) ∧
    (reached (before ++ .check port :: mid)).LetsGo e ∧ .expire t.number ∉ mid ++ e :: later

section Runs
variable {es : List Event} {t : Numbered}

/-- The port of a timer that is held was requested, and nothing has stopped the timer since. -/
theorem requested_of_holds (h : (reached es).Holds t) :
    ∃ before port mid, es = before ++ .check port :: mid ∧
      t = ⟨(reached before).started, port⟩ ∧ (∀ d ∈ mid, ¬ d.Stops) ∧ .expire t.number ∉ mid := by
  induction es using List.reverseRecOn with
  | nil => cases h.pending
  | append_singleton es e ih =>
    rw [reached_append_singleton] at h
    rcases h.of_react (reached_dated es) with ⟨port, rfl, rfl⟩ | ⟨holds, stops, goesOn⟩
    · exact ⟨es, port, [], rfl, rfl, by simp, by simp⟩
    · obtain ⟨before, port, mid, rfl, ht, quiet, unspent⟩ := ih holds
      refine ⟨before, port, mid ++ [e], by simp, ht, ?_, ?_⟩
      · rintro d hd
        rcases List.mem_append.mp hd with hd | hd
        · exact quiet d hd
        · exact List.mem_singleton.mp hd ▸ stops
      · simp [unspent, Ne.symm goesOn]

theorem letGo_of_strays (h : (reached es).Strays t) : LetGo es t := by
  induction es using List.reverseRecOn with
  | nil => cases h.pending
  | append_singleton es e ih =>
    rw [reached_append_singleton] at h
    obtain ⟨goesOn, strays | ⟨holds, stops, lets⟩⟩ := h.of_react (reached_dated es)
    -- It strayed before the last event, or the last event is the one that let it go.
    · obtain ⟨before, port, mid, d, later, rfl, ht, quiet, lets, unspent⟩ := ih strays
      refine ⟨before, port, mid, d, later ++ [e], by simp, ht, quiet, lets, ?_⟩
      rw [← List.cons_append, ← List.append_assoc]
      simp only [List.mem_append, List.mem_singleton, not_or] at unspent ⊢
      exact ⟨unspent, Ne.symm goesOn⟩
    · obtain ⟨before, port, mid, rfl, ht, quiet, unspent⟩ := requested_of_holds holds
      refine ⟨before, port, mid, e, [], by simp, ht, ?_, lets, ?_⟩
      · intro d hd
        rcases List.mem_append.mp hd with hd | hd
        · exact quiet d hd
        · exact List.mem_singleton.mp hd ▸ stops
      · simp [unspent, Ne.symm goesOn]

theorem LetGo.strays (h : LetGo es t) : (reached es).Strays t := by
  obtain ⟨before, port, mid, e, later, rfl, rfl, stops, lets, unspent⟩ := h
  rw [List.append_cons, ← List.append_assoc, List.append_cons]
  rw [List.append_cons] at lets
  simp only [List.mem_append, List.mem_cons, not_or] at unspent
  simp only [List.mem_append, List.mem_singleton] at stops
  have dated := reached_dated (before ++ [.check port] ++ mid)
  -- The timer may have been let go of before `e`, which changes nothing.
  have going := (reached_check_holds before port).after (reached_dated _)
    (fun d hd => stops d (.inl hd)) unspent.1
  rw [← reached_append] at going
  have strays : (reached (before ++ [.check port] ++ mid ++ [e])).Strays
      ⟨(reached before).started, port⟩ := by
    rw [reached_append_singleton]
    rcases going with holds | strays
    · exact holds.strays dated (stops e (.inr rfl)) lets (Ne.symm unspent.2.1)
    · exact strays.react dated (Ne.symm unspent.2.1)
  rw [reached_append]
  exact strays.after (reached_dated _) unspent.2.2

end Runs

/-! ### Runs in which nothing is requested during a closing -/

/-- No port is requested while a closing waits. -/
def Unbroken (es : List Event) : Prop :=
  ∀ before port later, es = before ++ .check port :: later → (reached before).closing = 0

theorem Unbroken.init {es ds : List Event} (h : Unbroken (es ++ ds)) : Unbroken es := by
  rintro before port later rfl
  exact h before port (later ++ ds) (by simp)

theorem Unbroken.last {es : List Event} {port : Int} (h : Unbroken (es ++ [.check port])) :
    (reached es).closing = 0 :=
  h es port [] rfl

/-- The only timer of a probe is held, and there is none while a closing waits. -/
structure Machine.Kempt (m : Machine) : Prop where
  closing : m.closing ≠ 0 → m.timers = []
  single : m.timers = [] ∨ ∃ t, m.timers = [t] ∧ m.held = some t.number

namespace Machine.Kempt
variable {m : Machine} {t : Numbered} {e : Event}

theorem otherTimers (h : m.Kempt) : m.otherTimers = [] := by
  rcases h.single with none | ⟨t, single, held⟩
  · simp [Machine.otherTimers, none]
  · simp [Machine.otherTimers, single, held]

theorem holds (h : m.Kempt) (pending : t ∈ m.timers) : m.Holds t := by
  rcases h.single with none | ⟨u, single, held⟩
  · simp [none] at pending
  · rw [single, List.mem_singleton] at pending
    exact ⟨by simp [single, pending], pending ▸ held⟩

theorem check_timers (h : m.Kempt) (port : Int) : (m.check port).timers = [⟨m.started, port⟩] := by
  simp [check, h.otherTimers]

theorem query_timers (h : m.Kempt) (pending : t ∈ m.timers) : (m.query t).machine.timers = [] := by
  rcases h.single with none | ⟨u, single, -⟩
  · simp [none] at pending
  · rw [single, List.mem_singleton] at pending
    simp [query, single, pending]

theorem react (h : m.Kempt) (whole : ∀ port, e = .check port → m.closing = 0) :
    (m.react e).machine.Kempt := by
  have reacts := m.reacts e
  generalize m.react e = r at reacts ⊢
  cases reacts with
  | check port =>
    exact ⟨fun waits => absurd (whole port rfl) waits, .inr ⟨_, h.check_timers port, rfl⟩⟩
  | query found =>
    have none := h.query_timers (List.mem_of_find?_eq_some found)
    exact ⟨fun _ => none, .inl none⟩
  | stop => exact ⟨fun _ => h.otherTimers, .inl h.otherTimers⟩
  | letGo waits => exact ⟨fun _ => h.closing waits, .inl (h.closing waits)⟩
  | spent | keep | discard | unasked | unheld | notClosing => exact ⟨h.closing, h.single⟩

end Machine.Kempt

theorem reached_kempt {es : List Event} (h : Unbroken es) : (reached es).Kempt := by
  induction es using List.reverseRecOn with
  | nil => exact ⟨fun _ => rfl, .inl rfl⟩
  | append_singleton es e ih =>
    rw [reached_append_singleton]
    refine (ih h.init).react ?_
    rintro port rfl
    exact h.last

/-- Which timers a probe holds after a run. -/
structure Tended (es : List Event) (m : Machine) : Prop where
  /-- The timers that the probe does not hold are those of which it has let go. -/
  strays : ∀ t, m.Strays t ↔ LetGo es t
  held : Unbroken es → ∀ t ∈ m.timers, m.held = some t.number
  single : Unbroken es → m.timers.length ≤ 1
  resting : Unbroken es → m.checking = false → m.timers = [] ∧ m.queries = []
  /-- A request takes the place of the one before. -/
  replaced : Unbroken es → ∀ port,
    (m.react (.check port)).machine.timers = [⟨m.started, port⟩]

theorem timers_tended (vs : List Visit) : Tended (events vs) (attended vs).probe := by
  rw [attended_probe]
  refine ⟨fun t => ⟨letGo_of_strays, LetGo.strays⟩, ?_, ?_, ?_, ?_⟩
  · intro whole t pending
    exact ((reached_kempt whole).holds pending).held
  · intro whole
    rcases (reached_kempt whole).single with none | ⟨t, single, -⟩
    · simp [none]
    · simp [single]
  · intro whole still
    obtain ⟨unheld, queries⟩ := Machine.checking_eq_false_iff.mp still
    refine ⟨List.eq_nil_iff_forall_not_mem.mpr fun t pending => ?_, queries⟩
    have held := ((reached_kempt whole).holds pending).held
    rw [unheld] at held
    cases held
  · intro whole port
    exact (reached_kempt whole).check_timers port

/-- A port that is requested while a closing waits for the timer that it has stopped. -/
def interrupted : List Event := [.check 8080, .close, .check 9090, .closed]

/-- The closing lets go of the new timer, which runs out all the same: whoever waits goes at once, and
the next request does not stop the timer. -/
theorem interrupted_strays :
    (reached interrupted).timers = [⟨1, 9090⟩] ∧
    (¬ ∀ t ∈ (reached interrupted).timers, (reached interrupted).held = some t.number) ∧
    (reached interrupted).checking = false ∧
    ((attended (interrupted.map .probe)).react (.wait 0)).returned = some 0 ∧
    (reached (interrupted ++ [.check 7070])).timers = [⟨1, 9090⟩, ⟨2, 7070⟩] := by
  decide

end DevEnv.PortProbe
