import DevEnv.Proofs.Roster.Balance
import DevEnv.Roster.Tasks

/-!
What the tasks of a roster do, turn by turn. No loop but the one that is held can make ticks, and the
calls of the ticks are those that the roster knows for its loop's own; so whatever the tasks do in
turns, the roster and its calls do in events, and what holds of them in every run holds here.
-/

namespace DevEnv.Roster

set_option autoImplicit false

open Machine (ofLoop)

/-! ### Events that are none of the loop's -/

namespace Machine
variable {m : Machine} {e : Event}

/-- A call that was not there before an event is a new one, and none of the loop's own if the event is
none of the loop's. -/
theorem mem_waiting_react {w : Waiting} (hw : w ∈ (m.react e).machine.waiting) :
    w ∈ m.waiting ∨ (w.number = m.issued ∧ (e.isOutside = true → ofLoop w = false)) := by
  have reacts := m.reacts e
  generalize m.react e = r at reacts hw
  cases reacts with
  | ask asks =>
    rcases List.mem_append.mp hw with hw | hw
    · exact .inl (asks.waiting_sublist.subset hw)
    · rw [List.mem_singleton.mp hw]
      refine .inr ⟨asks.issued_eq, fun outside => ?_⟩
      cases asks with
      | refresh | tick | action => rfl
      | loop => cases outside
  | issue issues =>
    rcases List.mem_append.mp hw with hw | hw
    · exact .inl hw
    · rw [List.mem_singleton.mp hw]
      exact .inr ⟨rfl, fun _ => by cases issues <;> rfl⟩
  | listed =>
    rw [listEnded_machine] at hw
    exact .inl (List.mem_filter.mp hw).1
  | withdraw | finish | close => exact .inl (List.mem_filter.mp hw).1
  | pass passes => exact .inl (passes.waiting_eq ▸ hw)
  | startPolling | wake | notice | ignore => exact .inl hw

theorem issued_le_react (m : Machine) (e : Event) : m.issued ≤ (m.react e).machine.issued := by
  have reacts := m.reacts e
  generalize m.react e = r at reacts ⊢
  cases reacts with
  | ask asks => exact asks.issued_eq ▸ Nat.le_succ _
  | issue => exact Nat.le_succ _
  | listed => rw [listEnded_machine]; exact Nat.le_refl _
  | pass passes => exact Nat.le_of_eq passes.issued_eq.symm
  | withdraw | finish | close | startPolling | wake | notice | ignore => exact Nat.le_refl _

theorem react_of_isOutside (outside : e.isOutside = true) :
    (m.react e).machine.polling = m.polling ∧ (m.react e).machine.due = m.due ∧
      (m.react e).machine.cancelled = m.cancelled := by
  have reacts := m.reacts e
  generalize m.react e = r at reacts ⊢
  cases reacts with
  | ask asks =>
    cases asks with
    | refresh | tick | action => exact ⟨rfl, rfl, rfl⟩
    | loop => cases outside
  | listed => rw [listEnded_machine]; exact ⟨rfl, rfl, rfl⟩
  | pass passes =>
    cases passes with
    | tick => exact ⟨rfl, rfl, rfl⟩
    | loop => cases outside
  | issue | withdraw | finish | ignore => exact ⟨rfl, rfl, rfl⟩
  | startPolling | wake | close | notice => cases outside

theorem react_notice_eq (m : Machine) (number : Nat) :
    (m.react (.notice number)).machine.waiting = m.waiting ∧
      (m.react (.notice number)).machine.polling = m.polling ∧
      (m.react (.notice number)).machine.due = m.due := by
  simp only [react]
  split <;> exact ⟨rfl, rfl, rfl⟩

theorem react_notice_called (m : Machine) (number : Nat) :
    (m.react (.notice number)).called = none := by
  simp only [react]
  split <;> rfl

theorem mem_cancelled_react_notice {m : Machine} {number : Nat} {w : Waiting}
    (hw : w ∈ (m.react (.notice number)).machine.cancelled) :
    w ∈ m.cancelled ∧ w.number ≠ number := by
  simp only [react] at hw
  split at hw
  · simpa using List.mem_filter.mp hw
  · rename_i missing
    have other := List.find?_eq_none.mp missing w hw
    exact ⟨hw, fun same => other (beq_iff_eq.mpr same)⟩

end Machine

theorem Tick.awaits_iff {t : Tick} {w : Waiting} :
    t.awaits w = true ↔ t.call = some w.number := by
  simp [awaits]

theorem Tick.isDue_iff {t : Tick} : t.isDue = true ↔ t.call = none ∧ t.cancelled = false := by
  simp [isDue]

/-- What a turn brings about, without the tasks. -/
def Response.reaction (r : Response) : Reaction := ⟨r.tasks.machine, r.called, r.returned, r.log⟩

/-- The turn at which a loop makes its next tick. -/
def Loop.turn (l : Loop) : Turn := if l.begun then .wake l.number else .begin l.number

namespace Tasks

/-! ### Turns -/

/-- A turn, what it is to the roster and its calls, and what it brings about. -/
inductive Goes (s : Tasks) : Turn → Option Event → Response → Prop
  | outside {e : Event} (outside : e.isOutside = true) :
    Goes s (.outside e) (some e) (endTicks (s.follow (s.machine.react e)))
  | startPolling (unheld : s.held = none) :
    Goes s .startPolling (some .startPolling) s.startLoop.quiet
  | make {l : Loop} {turn : Turn} (hl : l ∈ s.loops) (live : l.cancelled = false)
    (its : turn = l.turn) :
    Goes s turn (some .wake) (s.makeTick l.number).quiet
  | call {t : Tick} (ht : t ∈ s.ticks) (due : t.isDue = true) (free : s.roster.inFlight = 0) :
    Goes s (.beginTick t.number) (some .beginTick)
      ((s.waitFor t s.issued).follow (s.machine.ask .loop none))
  | pass {t : Tick} (ht : t ∈ s.ticks) (due : t.isDue = true) (busy : s.roster.inFlight ≠ 0) :
    Goes s (.beginTick t.number) (some .beginTick) (s.withoutTick t).quiet
  | close : Goes s .close (some .close) s.close.quiet
  | endCall {t : Tick} {call : Nat} (ht : t ∈ s.ticks) (cancelled : t.cancelled = true)
    (waits : t.call = some call) :
    Goes s (.notice t.number) (some (.notice call))
      ((s.withoutTick t).follow (s.machine.react (.notice call)))
  | endTick {t : Tick} (ht : t ∈ s.ticks) (cancelled : t.cancelled = true) (idle : t.call = none) :
    Goes s (.notice t.number) none (s.withoutTick t).quiet
  | endLoop (loop : Nat) : Goes s (.notice loop) none (s.endLoop loop).quiet
  | closed {c : Closing} (hc : c ∈ s.closings) (ended : ∀ task ∈ c.tasks, s.hasEnded task = true) :
    Goes s (.closed c.number) none
      ⟨{ s with closings := s.closings.erase c }, none, none, [], some c.number⟩
  | idle (turn : Turn) : Goes s turn none s.quiet

theorem exists_of_hasLoop {s : Tasks} {loop : Nat} {begun : Bool}
    (h : s.hasLoop loop begun = true) :
    ∃ l ∈ s.loops, l.number = loop ∧ l.begun = begun ∧ l.cancelled = false := by
  obtain ⟨l, hl, is⟩ := List.any_eq_true.mp h
  simp only [Bool.and_eq_true, beq_iff_eq, Bool.not_eq_true'] at is
  exact ⟨l, hl, is.1.1, is.1.2, is.2⟩

theorem goes (s : Tasks) (turn : Turn) : ∃ e, Goes s turn e (s.react turn) := by
  cases turn with
  | outside e =>
    simp only [react]
    split
    · exact ⟨_, .outside ‹_›⟩
    · exact ⟨_, .idle _⟩
  | startPolling =>
    simp only [react]
    split
    · exact ⟨_, .idle _⟩
    · rename_i unheld
      exact ⟨_, .startPolling (by simpa using unheld)⟩
  | begin loop | wake loop =>
    simp only [react]
    split
    · obtain ⟨l, hl, rfl, begun, live⟩ := exists_of_hasLoop ‹_›
      refine ⟨_, .make hl live ?_⟩
      simp [Loop.turn, begun]
    · exact ⟨_, .idle _⟩
  | beginTick tick =>
    simp only [react]
    split
    · rename_i t found
      obtain ⟨rfl, due⟩ : t.number = tick ∧ t.isDue = true := by simpa using List.find?_some found
      have ht := List.mem_of_find?_eq_some found
      by_cases free : s.machine.roster.inFlight = 0
      · rw [beginTick, Machine.beginTick, if_pos free]
        exact ⟨_, .call ht due free⟩
      · rw [beginTick, Machine.beginTick, if_neg free]
        exact ⟨_, .pass ht due free⟩
    · exact ⟨_, .idle _⟩
  | close => exact ⟨_, .close⟩
  | notice task =>
    simp only [react]
    split
    · rename_i t found
      obtain ⟨rfl, cancelled⟩ : t.number = task ∧ t.cancelled = true := by
        simpa using List.find?_some found
      have ht := List.mem_of_find?_eq_some found
      rw [endTick]
      split
      · exact ⟨_, .endCall ht cancelled ‹_›⟩
      · exact ⟨_, .endTick ht cancelled ‹_›⟩
    · exact ⟨_, .endLoop task⟩
  | closed closing =>
    simp only [react]
    split
    · rename_i c found
      obtain rfl : c.number = closing := by simpa using List.find?_some found
      split
      · exact ⟨_, .closed (List.mem_of_find?_eq_some found) (List.all_eq_true.mp ‹_›)⟩
      · exact ⟨_, .idle _⟩
    · exact ⟨_, .idle _⟩

/-! ### Loops, ticks and their calls -/

theorem awaited_iff {s : Tasks} {w : Waiting} :
    s.awaited w = true ↔ ∃ t ∈ s.ticks, t.awaits w = true :=
  List.any_eq_true

theorem nodup_map_append {α : Type} {number : α → Nat} {xs : List α} {x : α}
    (nodup : (xs.map number).Nodup) (before : ∀ y ∈ xs, number y < number x) :
    ((xs ++ [x]).map number).Nodup := by
  rw [List.map_append, List.nodup_append]
  refine ⟨nodup, List.nodup_singleton _, ?_⟩
  intro _ old _ new
  obtain ⟨y, hy, rfl⟩ := List.mem_map.mp old
  rw [List.mem_singleton.mp new]
  exact Nat.ne_of_lt (before y hy)

theorem forall_mem_append_lt {α : Type} {number : α → Nat} {xs : List α} {x : α}
    (before : ∀ y ∈ xs, number y < number x) : ∀ y ∈ xs ++ [x], number y < number x + 1 := by
  intro y hy
  rcases List.mem_append.mp hy with hy | hy
  · exact Nat.lt_succ_of_lt (before y hy)
  · rw [List.mem_singleton.mp hy]
    exact Nat.lt_succ_self _

structure Sound (s : Tasks) : Prop where
  loops : (s.loops.map Loop.number).Nodup
  loopsBefore : ∀ l ∈ s.loops, l.number < s.created
  ticks : (s.ticks.map Tick.number).Nodup
  ticksBefore : ∀ t ∈ s.ticks, t.number < s.created
  closingsBefore : ∀ c ∈ s.closings, c.number < s.created
  /-- Loops that are not held have been cancelled. -/
  live : ∀ l ∈ s.loops, l.cancelled = false → s.held = some l.number
  calls : ∀ t ∈ s.ticks, ∀ call, t.call = some call → call < s.issued
  own : ∀ w ∈ s.waiting, s.awaited w = ofLoop w
  lost : ∀ t ∈ s.ticks, t.cancelled = true → ∀ w ∈ s.waiting, t.awaits w = false
  /-- Calls that are given up belong to cancelled ticks. -/
  givenUp : ∀ w ∈ s.cancelled, ∃ t ∈ s.ticks, t.cancelled = true ∧ t.awaits w = true

namespace Sound
variable {s : Tasks} {t : Tick} {w : Waiting}

theorem initial : Sound .initial := by
  constructor <;> simp [Tasks.initial]

theorem not_awaits_of_issued (h : s.Sound) (ht : t ∈ s.ticks) (number : w.number = s.issued) :
    t.awaits w = false := by
  rw [← Bool.not_eq_true, Tick.awaits_iff]
  intro call
  exact Nat.ne_of_lt (h.calls t ht _ call) number

/-- The roster and the calls go on without the tasks. -/
theorem follow (h : s.Sound) {r : Reaction} (issued : s.issued ≤ r.machine.issued)
    (waiting : ∀ w ∈ r.machine.waiting, w ∈ s.waiting ∨ (w.number = s.issued ∧ ofLoop w = false))
    (cancelled : ∀ w ∈ r.machine.cancelled, w ∈ s.cancelled) :
    (s.follow r).tasks.Sound :=
  { h with
    calls := fun t ht call waits => Nat.lt_of_lt_of_le (h.calls t ht call waits) issued
    own := by
      intro w hw
      rcases waiting w hw with old | ⟨number, other⟩
      · exact h.own w old
      · rw [other, ← Bool.not_eq_true]
        intro awaited
        obtain ⟨t, ht, awaits⟩ := awaited_iff.mp awaited
        rw [h.not_awaits_of_issued ht number] at awaits
        cases awaits
    lost := by
      intro t ht cancelled w hw
      rcases waiting w hw with old | ⟨number, -⟩
      · exact h.lost t ht cancelled w old
      · exact h.not_awaits_of_issued ht number
    givenUp := fun w hw => h.givenUp w (cancelled w hw) }

/-- Ticks whose calls are over may end. -/
theorem fewer (h : s.Sound) {ticks : List Tick} (fewer : ticks.Sublist s.ticks)
    (settled : ∀ t ∈ s.ticks, t ∉ ticks → ∀ w ∈ s.waiting ++ s.cancelled, t.awaits w = false) :
    { s with ticks := ticks }.Sound := by
  -- Whichever tick a call belongs to is among those that stay.
  have stays {t : Tick} {w : Waiting} (ht : t ∈ s.ticks) (hw : w ∈ s.waiting ++ s.cancelled)
      (awaits : t.awaits w = true) : t ∈ ticks := by
    by_contra ended
    rw [settled t ht ended w hw] at awaits
    cases awaits
  exact { h with
    ticks := h.ticks.sublist (fewer.map _)
    ticksBefore := fun t ht => h.ticksBefore t (fewer.subset ht)
    calls := fun t ht => h.calls t (fewer.subset ht)
    own := by
      intro w hw
      rw [← h.own w hw, Bool.eq_iff_iff, awaited_iff, awaited_iff]
      constructor
      · rintro ⟨t, ht, awaits⟩
        exact ⟨t, fewer.subset ht, awaits⟩
      · rintro ⟨t, ht, awaits⟩
        exact ⟨t, stays ht (List.mem_append_left _ hw) awaits, awaits⟩
    lost := fun t ht => h.lost t (fewer.subset ht)
    givenUp := by
      intro w hw
      obtain ⟨t, ht, cancelled, awaits⟩ := h.givenUp w hw
      exact ⟨t, stays ht (List.mem_append_right _ hw) awaits, cancelled, awaits⟩ }

theorem endTicks (h : s.Sound) : (Tasks.endTicks ⟨s, none, none, [], none⟩).tasks.Sound := by
  refine h.fewer List.filter_sublist fun t ht ended w hw => ?_
  rw [← Bool.not_eq_true]
  intro awaits
  refine ended (List.mem_filter.mpr ⟨ht, ?_⟩)
  rw [keeps, Bool.or_eq_true, List.any_eq_true]
  exact .inr ⟨w, hw, awaits⟩

theorem withoutTick (h : s.Sound)
    (settled : ∀ w ∈ s.waiting ++ s.cancelled, t.awaits w = false) : (s.withoutTick t).Sound := by
  refine h.fewer List.erase_sublist fun u hu ended w hw => ?_
  by_cases same : u = t
  · exact same ▸ settled w hw
  · exact absurd ((List.mem_erase_of_ne same).mpr hu) ended

theorem withoutTick_of_idle (h : s.Sound) (idle : t.call = none) : (s.withoutTick t).Sound := by
  refine h.withoutTick fun w _ => ?_
  simp [Tick.awaits, idle]

theorem startLoop (h : s.Sound) (unheld : s.held = none) : s.startLoop.Sound :=
  { h with
    loops := nodup_map_append h.loops h.loopsBefore
    loopsBefore := forall_mem_append_lt h.loopsBefore
    ticksBefore := fun t ht => Nat.lt_succ_of_lt (h.ticksBefore t ht)
    closingsBefore := fun c hc => Nat.lt_succ_of_lt (h.closingsBefore c hc)
    live := by
      intro l hl live
      rcases List.mem_append.mp hl with hl | hl
      · have held := h.live l hl live
        rw [unheld] at held
        cases held
      · rw [List.mem_singleton.mp hl]
        rfl }

theorem makeTick (h : s.Sound) (loop : Nat) : (s.makeTick loop).Sound where
  loops := by
    rw [Tasks.makeTick, List.map_map]
    exact h.loops
  loopsBefore := by
    rintro _ hl
    obtain ⟨l, old, rfl⟩ := List.mem_map.mp hl
    exact Nat.lt_succ_of_lt (h.loopsBefore l old)
  ticks := nodup_map_append h.ticks h.ticksBefore
  ticksBefore := forall_mem_append_lt h.ticksBefore
  closingsBefore := fun c hc => Nat.lt_succ_of_lt (h.closingsBefore c hc)
  live := by
    rintro _ hl live
    obtain ⟨l, old, rfl⟩ := List.mem_map.mp hl
    exact h.live l old live
  calls := by
    intro t ht call waits
    rcases List.mem_append.mp ht with ht | ht
    · exact h.calls t ht call waits
    · rw [List.mem_singleton.mp ht] at waits
      cases waits
  own := by
    intro w hw
    rw [← h.own w hw, awaited, Tasks.makeTick, List.any_append]
    simp [awaited, Tick.awaits]
  lost := by
    intro t ht cancelled w hw
    rcases List.mem_append.mp ht with ht | ht
    · exact h.lost t ht cancelled w hw
    · rw [List.mem_singleton.mp ht]
      rfl
  givenUp := by
    intro w hw
    obtain ⟨t, ht, cancelled, awaits⟩ := h.givenUp w hw
    exact ⟨t, List.mem_append_left _ ht, cancelled, awaits⟩

theorem waitFor (h : s.Sound) (orderly : s.machine.Orderly) (ht : t ∈ s.ticks)
    (due : t.isDue = true) :
    ((s.waitFor t s.issued).follow (s.machine.ask .loop none)).tasks.Sound where
  loops := h.loops
  loopsBefore := h.loopsBefore
  ticks := by
    have same : (s.ticks.map Tick.number).Perm
        ((s.ticks.erase t ++ [{ t with call := some s.issued }]).map Tick.number) := by
      rw [List.map_append]
      exact ((List.perm_cons_erase ht).map _).trans (List.perm_append_singleton _ _).symm
    exact same.nodup_iff.mp h.ticks
  ticksBefore := by
    intro u hu
    rcases List.mem_append.mp hu with hu | hu
    · exact h.ticksBefore u (List.mem_of_mem_erase hu)
    · rw [List.mem_singleton.mp hu]
      exact h.ticksBefore t ht
  closingsBefore := h.closingsBefore
  live := h.live
  calls := by
    intro u hu call waits
    rcases List.mem_append.mp hu with hu | hu
    · exact Nat.lt_succ_of_lt (h.calls u (List.mem_of_mem_erase hu) call waits)
    · rw [List.mem_singleton.mp hu] at waits
      exact Option.some.inj waits ▸ Nat.lt_succ_self _
  own := by
    intro w hw
    have idle := (Tick.isDue_iff.mp due).1
    rcases List.mem_append.mp hw with hw | hw
    · rw [← h.own w hw, Bool.eq_iff_iff, awaited_iff, awaited_iff]
      constructor
      · rintro ⟨u, hu, awaits⟩
        rcases List.mem_append.mp hu with hu | hu
        · exact ⟨u, List.mem_of_mem_erase hu, awaits⟩
        · -- The tick waits for a new call, and none that waits has its number.
          rw [List.mem_singleton.mp hu, Tick.awaits_iff] at awaits
          exact absurd (Option.some.inj awaits).symm (Nat.ne_of_lt (orderly.numbers w hw))
      · rintro ⟨u, hu, awaits⟩
        refine ⟨u, List.mem_append_left _ ((List.mem_erase_of_ne ?_).mpr hu), awaits⟩
        rintro rfl
        rw [Tick.awaits_iff, idle] at awaits
        cases awaits
    · rw [List.mem_singleton.mp hw]
      exact awaited_iff.mpr ⟨_, List.mem_append_right _ (List.mem_singleton_self _),
        Tick.awaits_iff.mpr rfl⟩
  lost := by
    intro u hu cancelled w hw
    rcases List.mem_append.mp hu with hu | hu
    · have old := List.mem_of_mem_erase hu
      rcases List.mem_append.mp hw with hw | hw
      · exact h.lost u old cancelled w hw
      · exact h.not_awaits_of_issued old (List.mem_singleton.mp hw ▸ rfl)
    · rw [List.mem_singleton.mp hu] at cancelled
      exact absurd cancelled (Bool.eq_false_iff.mp (Tick.isDue_iff.mp due).2)
  givenUp := by
    intro w hw
    obtain ⟨u, hu, cancelled, awaits⟩ := h.givenUp w hw
    refine ⟨u, List.mem_append_left _ ((List.mem_erase_of_ne ?_).mpr hu), cancelled, awaits⟩
    rintro rfl
    rw [(Tick.isDue_iff.mp due).2] at cancelled
    cases cancelled

theorem close (h : s.Sound) : s.close.Sound where
  loops := by
    rw [Tasks.close, List.map_map]
    exact h.loops
  loopsBefore := by
    rintro _ hl
    obtain ⟨l, old, rfl⟩ := List.mem_map.mp hl
    exact Nat.lt_succ_of_lt (h.loopsBefore l old)
  ticks := by
    rw [Tasks.close, List.map_map]
    exact h.ticks
  ticksBefore := by
    rintro _ ht
    obtain ⟨t, old, rfl⟩ := List.mem_map.mp ht
    exact Nat.lt_succ_of_lt (h.ticksBefore t old)
  closingsBefore := forall_mem_append_lt h.closingsBefore
  live := by
    rintro _ hl live
    obtain ⟨l, old, rfl⟩ := List.mem_map.mp hl
    obtain ⟨live, other⟩ := Bool.or_eq_false_iff.mp live
    exact absurd (h.live l old live) (by simpa using other)
  calls := by
    rintro _ ht
    obtain ⟨t, old, rfl⟩ := List.mem_map.mp ht
    exact h.calls t old
  own := by
    intro w hw
    rw [← h.own w (List.mem_filter.mp hw).1, awaited, Tasks.close, List.any_map]
    rfl
  lost := by
    rintro _ ht - w hw
    obtain ⟨t, old, rfl⟩ := List.mem_map.mp ht
    rw [← Bool.not_eq_true]
    intro awaits
    have free : s.awaited w = false := by simpa using (List.mem_filter.mp hw).2
    rw [awaited_iff.mpr ⟨t, old, awaits⟩] at free
    cases free
  givenUp := by
    intro w hw
    have awaited : ∃ t ∈ s.ticks, t.awaits w = true := by
      rcases List.mem_append.mp hw with hw | hw
      · obtain ⟨t, ht, -, awaits⟩ := h.givenUp w hw
        exact ⟨t, ht, awaits⟩
      · exact awaited_iff.mp (List.mem_filter.mp hw).2
    obtain ⟨t, ht, awaits⟩ := awaited
    exact ⟨_, List.mem_map_of_mem ht, rfl, awaits⟩

theorem endLoop (h : s.Sound) (loop : Nat) : (s.endLoop loop).Sound :=
  { h with
    loops := h.loops.sublist (List.filter_sublist.map _)
    loopsBefore := fun l hl => h.loopsBefore l (List.mem_filter.mp hl).1
    live := fun l hl => h.live l (List.mem_filter.mp hl).1 }

theorem endCall (h : s.Sound) (ht : t ∈ s.ticks) (cancelled : t.cancelled = true) {call : Nat}
    (waits : t.call = some call) :
    ((s.withoutTick t).follow (s.machine.react (.notice call))).tasks.Sound := by
  obtain ⟨waiting, -⟩ := s.machine.react_notice_eq call
  have followed : (s.follow (s.machine.react (.notice call))).tasks.Sound := by
    refine h.follow (s.machine.issued_le_react _) (fun w hw => ?_) fun w hw => ?_
    · rw [waiting] at hw
      exact .inl hw
    · exact (Machine.mem_cancelled_react_notice hw).1
  refine followed.withoutTick (t := t) fun w hw => ?_
  rcases List.mem_append.mp hw with hw | hw
  · have hw : w ∈ (s.machine.react (.notice call)).machine.waiting := hw
    rw [waiting] at hw
    exact h.lost t ht cancelled w hw
  · rw [← Bool.not_eq_true, Tick.awaits_iff, waits]
    intro same
    exact (Machine.mem_cancelled_react_notice hw).2 (Option.some.inj same).symm

/-- One turn keeps loops, ticks and calls together. -/
theorem react (h : s.Sound) (orderly : s.machine.Orderly) (turn : Turn) :
    (s.react turn).tasks.Sound := by
  obtain ⟨e, goes⟩ := s.goes turn
  generalize s.react turn = r at goes ⊢
  cases goes with
  | outside outside =>
    refine (h.follow (s.machine.issued_le_react _) (fun w hw => ?_) fun w hw => ?_).endTicks
    · exact (Machine.mem_waiting_react hw).imp_right fun new => ⟨new.1, new.2 outside⟩
    · rwa [(Machine.react_of_isOutside outside).2.2] at hw
  | startPolling unheld => exact h.startLoop unheld
  | make => exact h.makeTick _
  | call ht due => exact h.waitFor orderly ht due
  | pass ht due => exact h.withoutTick_of_idle (Tick.isDue_iff.mp due).1
  | close => exact h.close
  | endCall ht cancelled waits => exact h.endCall ht cancelled waits
  | endTick ht cancelled idle => exact h.withoutTick_of_idle idle
  | endLoop loop => exact h.endLoop loop
  | closed =>
    exact { h with closingsBefore := fun c hc => h.closingsBefore c (List.mem_of_mem_erase hc) }
  | idle => exact h

end Sound

/-! ### The roster and its calls -/

section Refinement
variable {s : Tasks} {turn : Turn} {e : Option Event} {r : Response}

theorem countP_due_erase {t : Tick} (ht : t ∈ s.ticks) (due : t.isDue = true) :
    s.ticks.countP Tick.isDue = (s.ticks.erase t).countP Tick.isDue + 1 := by
  rw [(List.perm_cons_erase ht).countP_eq, List.countP_cons_of_pos due]

theorem countP_due_erase_of_cancelled {t : Tick} (ht : t ∈ s.ticks)
    (cancelled : t.cancelled = true) :
    s.ticks.countP Tick.isDue = (s.ticks.erase t).countP Tick.isDue := by
  have past : ¬ t.isDue = true := by simp [Tick.isDue, cancelled]
  rw [(List.perm_cons_erase ht).countP_eq, List.countP_cons_of_neg past]

theorem reaction_follow {m : Reaction} (polling : m.machine.polling = s.held.isSome)
    (due : m.machine.due = s.ticks.countP Tick.isDue) : (s.follow m).reaction = m := by
  rw [Response.reaction, machine, follow, ← polling, ← due]

/-- Ticks that are yet to begin have no call that could end. -/
theorem reaction_endTicks (r : Response) : (endTicks r).reaction = r.reaction := by
  have due : (r.tasks.ticks.filter r.tasks.keeps).countP Tick.isDue =
      r.tasks.ticks.countP Tick.isDue := by
    rw [List.countP_filter]
    refine List.countP_congr fun t _ => ?_
    have stays : t.isDue = true → r.tasks.keeps t = true := fun is => by
      simp [keeps, (Tick.isDue_iff.mp is).1]
    simpa using stays
  rw [Response.reaction, machine, endTicks, due]
  rfl

/-- What a turn does to the roster and its calls, an event does. -/
theorem Goes.reaction_eq (goes : Goes s turn e r) (h : s.Sound) :
    r.reaction = e.elim s.machine.quiet s.machine.react := by
  cases goes with
  | outside outside =>
    obtain ⟨polling, due, -⟩ := Machine.react_of_isOutside (m := s.machine) outside
    exact (reaction_endTicks _).trans (reaction_follow polling due)
  | @make l _ hl live =>
    have held := h.live l hl live
    simp [Response.reaction, machine, makeTick, held, quiet, Machine.quiet, Machine.react,
      Tick.isDue]
  | call ht due free =>
    have count := countP_due_erase ht due
    simp [Response.reaction, machine, waitFor, follow, count, free, Machine.react,
      Machine.beginTick, Machine.ask, Machine.issue, Tick.isDue]
  | pass ht due busy =>
    have count := countP_due_erase ht due
    simp [Response.reaction, machine, withoutTick, quiet, count, busy, Machine.react,
      Machine.beginTick, Machine.give]
  | close =>
    -- Closing by tasks and closing by the purpose of calls give up the same calls.
    have own : s.waiting.filter s.awaited = s.waiting.filter ofLoop := List.filter_congr h.own
    have others : (s.waiting.filter fun w => !s.awaited w) = s.waiting.filter fun w => !ofLoop w :=
      List.filter_congr fun w hw => by rw [h.own w hw]
    simp [Response.reaction, machine, Tasks.close, quiet, own, others, Machine.react,
      Machine.close, Machine.quiet, Tick.isDue]
  | endCall ht cancelled waits =>
    obtain ⟨-, polling, due⟩ := s.machine.react_notice_eq _
    exact reaction_follow polling (due.trans (countP_due_erase_of_cancelled ht cancelled))
  | endTick ht cancelled =>
    have count := countP_due_erase_of_cancelled ht cancelled
    simp [Response.reaction, machine, withoutTick, quiet, Machine.quiet, count]
  | startPolling | endLoop | closed | idle => rfl

theorem Goes.outside_of_isOutside {d : Event} (goes : Goes s turn (some d) r)
    (outside : d.isOutside = true) : turn = .outside d := by
  cases goes with
  | outside => rfl
  | startPolling | make | call | pass | close | endCall => cases outside

/-- The roster and its calls keep what events keep: those of the turn and those of the loop. -/
theorem Sound.machine_react (h : s.Sound) {P : Machine → Prop} (hs : P s.machine)
    (keeps : ∀ d, (d.isOutside = true → turn = .outside d) → P (s.machine.react d).machine) :
    P (s.react turn).tasks.machine := by
  obtain ⟨e, goes⟩ := s.goes turn
  rw [show (s.react turn).tasks.machine = _ from congrArg Reaction.machine (goes.reaction_eq h)]
  cases e with
  | none => exact hs
  | some d => exact keeps d goes.outside_of_isOutside

end Refinement

end Tasks

/-! ### Runs -/

/-- The tasks of a new roster after some turns. -/
def worked (turns : List Turn) : Tasks := Run.after Tasks.react Response.tasks .initial turns

theorem worked_append (turns more : List Turn) :
    worked (turns ++ more) = Run.after Tasks.react Response.tasks (worked turns) more :=
  Run.after_append _ _ _ _ _

theorem worked_append_cons (turns : List Turn) (turn : Turn) (more : List Turn) :
    worked (turns ++ turn :: more) =
      Run.after Tasks.react Response.tasks ((worked turns).react turn).tasks more :=
  worked_append _ _

/-- Tasks whose loops, ticks and calls are together, and whose roster and calls some events have
brought about. -/
structure Tasks.Runs (s : Tasks) : Prop where
  sound : s.Sound
  reached : ∃ es, s.machine = reached es

namespace Tasks.Runs
variable {s : Tasks}

theorem orderly (h : s.Runs) : s.machine.Orderly := by
  obtain ⟨es, same⟩ := h.reached
  exact same ▸ reached_orderly es

theorem balanced (h : s.Runs) : s.machine.Balanced := by
  obtain ⟨es, same⟩ := h.reached
  exact same ▸ reached_balanced es

theorem react (h : s.Runs) (turn : Turn) : (s.react turn).tasks.Runs := by
  refine ⟨h.sound.react h.orderly turn, ?_⟩
  obtain ⟨es, same⟩ := h.reached
  refine h.sound.machine_react (P := fun m => ∃ es, m = DevEnv.Roster.reached es) ⟨es, same⟩
    fun d _ => ?_
  exact ⟨es ++ [d], by rw [reached_append_singleton, ← same]⟩

end Tasks.Runs

theorem worked_runs (turns : List Turn) : (worked turns).Runs :=
  Run.after_of_preserved (fun _ turn h => h.react turn) ⟨.initial, [], rfl⟩ turns

/-- Whatever the tasks do in turns, the roster does in events: the engine gets the same calls. -/
theorem exists_history (turns : List Turn) :
    ∃ es, (worked turns).machine = reached es ∧
      (Run.steps Tasks.react Response.tasks .initial turns).filterMap (fun x => x.reaction.called) =
        (history es).filterMap fun x => x.reaction.called := by
  induction turns using List.reverseRecOn with
  | nil => exact ⟨[], rfl, rfl⟩
  | append_singleton turns turn ih =>
    obtain ⟨es, same, calls⟩ := ih
    obtain ⟨e, goes⟩ := (worked turns).goes turn
    have reacts := goes.reaction_eq (worked_runs turns).sound
    rw [same] at reacts
    have called : ((worked turns).react turn).called = _ := congrArg Reaction.called reacts
    rw [Run.steps_append_singleton, List.filterMap_append, calls, worked_append,
      List.filterMap_cons, List.filterMap_nil,
      show Run.after Tasks.react Response.tasks .initial turns = worked turns from rfl, called]
    cases e with
    | none => exact ⟨es, congrArg Reaction.machine reacts, List.append_nil _⟩
    | some d =>
      refine ⟨es ++ [d], ?_, ?_⟩
      · rw [reached_append_singleton]
        exact congrArg Reaction.machine reacts
      · rw [history_append_singleton, List.filterMap_append]
        rfl

end DevEnv.Roster
