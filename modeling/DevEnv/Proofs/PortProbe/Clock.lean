import DevEnv.Proofs.PortProbe.Timers
import Mathlib.Algebra.Order.Group.Nat

/-!
Runs of a probe with a clock. Time passes between the events of a run, and a timer runs out when the
quiet time after its check is over, neither sooner nor later.
-/

namespace DevEnv.PortProbe

set_option autoImplicit false

variable {T : Type}

structure Stamped (T : Type) where
  time : T
  event : Event

def untimed (run : List (Stamped T)) : List Event := run.map Stamped.event

/-- When each check came. -/
def checkTimes (run : List (Stamped T)) : List T :=
  run.filterMap fun a => a.event.port?.map fun _ => a.time

def Event.timer? : Event → Option Nat
  | .expire timer => some timer
  | _ => none

section Clock
variable [Add T] [LE T]

/-- A run up to a moment, in which timers run out on time. -/
inductive Punctual (quiet : T) : List (Stamped T) → T → Prop
  | start (now : T) : Punctual quiet [] now
  /-- Something happens. A timer does not run out too early. -/
  | event {run : List (Stamped T)} {now : T} (h : Punctual quiet run now) (e : Event)
    (early : ∀ t ∈ (reached (untimed run)).timers, e.timer? = some t.number →
      ∀ time ∈ (checkTimes run)[t.number]?, time + quiet ≤ now) :
    Punctual quiet (run ++ [⟨now, e⟩]) now
  /-- Time passes, but no timer is late. -/
  | pass {run : List (Stamped T)} {now later : T} (h : Punctual quiet run now) (le : now ≤ later)
    (late : ∀ t ∈ (reached (untimed run)).timers,
      ∀ time ∈ (checkTimes run)[t.number]?, later ≤ time + quiet) :
    Punctual quiet run later

end Clock

/-! ### Timers and checks of a run -/

section Timers
variable {run before mid later : List (Stamped T)} {t : Numbered} {time : T} {port : Int}

@[simp] theorem untimed_nil : untimed ([] : List (Stamped T)) = [] := rfl

@[simp] theorem untimed_append (run later : List (Stamped T)) :
    untimed (run ++ later) = untimed run ++ untimed later :=
  List.map_append

@[simp] theorem untimed_cons (a : Stamped T) (later : List (Stamped T)) :
    untimed (a :: later) = a.event :: untimed later :=
  rfl

@[simp] theorem checkTimes_append (run later : List (Stamped T)) :
    checkTimes (run ++ later) = checkTimes run ++ checkTimes later :=
  List.filterMap_append

@[simp] theorem checkTimes_check (time : T) (port : Int) (later : List (Stamped T)) :
    checkTimes (⟨time, .check port⟩ :: later) = time :: checkTimes later :=
  rfl

theorem checkTimes_length (run : List (Stamped T)) :
    (checkTimes run).length = (ledger (untimed run)).checks.length := by
  rw [checks_eq_filterMap]
  induction run with
  | nil => rfl
  | cons a later ih => cases h : a.event.port? <;> simp_all [checkTimes, untimed]

theorem reached_started (run : List (Stamped T)) :
    (reached (untimed run)).started = (checkTimes run).length := by
  rw [(coherent _).started, checkTimes_length]

theorem checkTimes_getElem?_split (before later : List (Stamped T)) (time : T) (port : Int) :
    (checkTimes (before ++ ⟨time, .check port⟩ :: later))[(checkTimes before).length]? =
      some time := by
  simp

theorem exists_of_mem_checkTimes (h : time ∈ checkTimes run) :
    ∃ port, ⟨time, .check port⟩ ∈ run := by
  obtain ⟨⟨stamp, e⟩, ha, eq⟩ := List.mem_filterMap.mp h
  cases e with
  | check port =>
    cases eq
    exact ⟨port, ha⟩
  | expire | answer | close | closed => cases eq

theorem exists_check_of_pending (pending : t ∈ (reached (untimed run)).timers) :
    ∃ before time mid, run = before ++ ⟨time, .check t.port⟩ :: mid ∧
      t.number = (checkTimes before).length := by
  induction run using List.reverseRecOn with
  | nil => cases pending
  | append_singleton run a ih =>
    rw [untimed_append, untimed_cons, untimed_nil, reached_append_singleton] at pending
    rcases Machine.mem_timers_of_react pending with old | ⟨port, checks, rfl⟩
    · obtain ⟨before, time, mid, rfl, number⟩ := ih old
      exact ⟨before, time, mid ++ [a], by simp, number⟩
    · obtain ⟨time, e⟩ := a
      obtain rfl : e = .check port := checks
      exact ⟨run, time, [], rfl, reached_started run⟩

theorem exists_checkTime (pending : t ∈ (reached (untimed run)).timers) :
    ∃ time, (checkTimes run)[t.number]? = some time := by
  obtain ⟨before, time, mid, rfl, number⟩ := exists_check_of_pending pending
  exact ⟨time, number ▸ checkTimes_getElem?_split before mid time t.port⟩

/-- The event neither stops timers nor is it this timer that runs out. -/
structure Event.Spares (timer : Nat) (e : Event) : Prop where
  stops : ¬ e.Stops
  timer : e.timer? ≠ some timer

theorem Event.timer?_eq_some_iff {e : Event} {timer : Nat} :
    e.timer? = some timer ↔ e = .expire timer := by
  cases e <;> simp [timer?]

/-- A timer is left for as long as nothing stops it and it does not run out. -/
theorem pending_of_spares (spares : ∀ a ∈ mid, a.event.Spares (checkTimes before).length) :
    ⟨(checkTimes before).length, port⟩ ∈
      (reached (untimed (before ++ ⟨time, .check port⟩ :: mid))).timers := by
  have starts := reached_check_holds (untimed before) port
  rw [reached_started] at starts
  have stops : ∀ e ∈ untimed mid, ¬ e.Stops := by
    rintro e he
    obtain ⟨a, ha, rfl⟩ := List.mem_map.mp he
    exact (spares a ha).stops
  have goesOn : .expire (checkTimes before).length ∉ untimed mid := by
    intro he
    obtain ⟨a, ha, expires⟩ := List.mem_map.mp he
    exact (spares a ha).timer (Event.timer?_eq_some_iff.mpr expires)
  have goes := starts.after (reached_dated _) stops goesOn
  rw [← reached_append, List.append_assoc] at goes
  rw [untimed_append, untimed_cons]
  exact goes.elim Machine.Holds.pending Machine.Strays.pending

/-- The check of a timer that is left, if no closing is interrupted. -/
theorem exists_split_of_pending (whole : Unbroken (untimed run))
    (pending : t ∈ (reached (untimed run)).timers) :
    ∃ before time mid, run = before ++ ⟨time, .check t.port⟩ :: mid ∧
      t.number = (checkTimes before).length ∧ ∀ a ∈ mid, a.event.Spares t.number := by
  obtain ⟨es, port, ds, split, rfl, stops, goesOn⟩ :=
    requested_of_holds ((reached_kempt whole).holds pending)
  obtain ⟨before, rest, rfl, rfl, hrest⟩ := List.map_eq_append_iff.mp split
  obtain ⟨⟨time, e⟩, mid, rfl, rfl, rfl⟩ := List.map_eq_cons_iff.mp hrest
  refine ⟨before, time, mid, rfl, reached_started before, fun a ha => ⟨?_, ?_⟩⟩
  · exact stops a.event (List.mem_map_of_mem ha)
  · intro expires
    rw [Event.timer?_eq_some_iff] at expires
    exact goesOn (expires ▸ List.mem_map_of_mem ha)

end Timers

/-! ### Punctual runs -/

namespace Punctual
variable [AddCommMonoid T] [LinearOrder T] {quiet now : T} {run before later : List (Stamped T)}

theorem ordered (h : Punctual quiet run now) :
    run.Pairwise (fun a b => a.time ≤ b.time) ∧ ∀ a ∈ run, a.time ≤ now := by
  induction h with
  | start => exact ⟨.nil, by simp⟩
  | event _ e _ ih =>
    refine ⟨List.pairwise_append.mpr ⟨ih.1, List.pairwise_singleton _ _, ?_⟩, ?_⟩
    · intro a ha b hb
      rw [List.mem_singleton.mp hb]
      exact ih.2 a ha
    · intro a ha
      rcases List.mem_append.mp ha with ha | ha
      · exact ih.2 a ha
      · rw [List.mem_singleton.mp ha]
  | pass _ le _ ih => exact ⟨ih.1, fun a ha => (ih.2 a ha).trans le⟩

theorem next (h : Punctual quiet run now) (a : Stamped T) (le : now ≤ a.time)
    (late : ∀ t ∈ (reached (untimed run)).timers,
      ∀ time ∈ (checkTimes run)[t.number]?, a.time ≤ time + quiet)
    (early : ∀ t ∈ (reached (untimed run)).timers, a.event.timer? = some t.number →
      ∀ time ∈ (checkTimes run)[t.number]?, time + quiet ≤ a.time) :
    Punctual quiet (run ++ [a]) a.time :=
  (h.pass le late).event a.event early

/-- What happens in a run happens at the end of a run that is punctual itself. -/
theorem split {a : Stamped T} (h : Punctual quiet (before ++ a :: later) now) :
    Punctual quiet before a.time ∧ ∀ t ∈ (reached (untimed before)).timers,
      a.event.timer? = some t.number →
        ∀ time ∈ (checkTimes before)[t.number]?, time + quiet ≤ a.time := by
  -- The induction is on the relation: time that passes adds nothing to the list.
  generalize eq : before ++ a :: later = run at h
  induction h generalizing later with
  | start => simp at eq
  | @event run now h e early ih =>
    rcases List.eq_nil_or_concat later with rfl | ⟨rest, b, rfl⟩
    · obtain ⟨rfl, last⟩ := List.append_inj' eq rfl
      obtain rfl := List.singleton_inj.mp last
      exact ⟨h, early⟩
    · rw [List.concat_eq_append, ← List.cons_append, ← List.append_assoc] at eq
      exact ih (List.append_inj' eq rfl).1
  | pass _ _ _ ih => exact ih eq

theorem le_due [IsOrderedAddMonoid T] (h : Punctual quiet run now) (nonneg : 0 ≤ quiet)
    {t : Numbered} (pending : t ∈ (reached (untimed run)).timers) {time : T}
    (checked : (checkTimes run)[t.number]? = some time) : now ≤ time + quiet := by
  induction h with
  | start => cases pending
  | pass _ _ late => exact late t pending time checked
  | @event run now h e _ ih =>
    rw [untimed_append, untimed_cons, untimed_nil, reached_append_singleton] at pending
    -- An event takes no time: an old timer is as little late as before, a new one starts now.
    rcases Machine.mem_timers_of_react pending with old | ⟨port, rfl, rfl⟩
    · obtain ⟨started, hstarted⟩ := exists_checkTime old
      rw [checkTimes_append, Ledger.getElem?_append_of_some hstarted] at checked
      obtain rfl := Option.some.inj checked
      exact ih old hstarted
    · rw [reached_started, checkTimes_getElem?_split] at checked
      obtain rfl := Option.some.inj checked
      exact le_add_of_nonneg_right nonneg

theorem eq_due [IsOrderedAddMonoid T] {a : Stamped T}
    (h : Punctual quiet (before ++ a :: later) now) (nonneg : 0 ≤ quiet) {t : Numbered}
    (pending : t ∈ (reached (untimed before)).timers) (expires : a.event = .expire t.number)
    {time : T} (checked : (checkTimes before)[t.number]? = some time) : a.time = time + quiet := by
  obtain ⟨punctual, early⟩ := h.split
  refine le_antisymm (punctual.le_due nonneg pending checked) ?_
  exact early t pending (Event.timer?_eq_some_iff.mpr expires) time checked

end Punctual

end DevEnv.PortProbe
