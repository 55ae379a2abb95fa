import DevEnv.Proofs.PortProbe.Clock
import Mathlib.Data.List.Sort

/-!
When a probe queries. The queries of a punctual run come from the checks, each at the end of the quiet
time after its check. If no closing is interrupted, they are those for the checks whose quiet time is
over before another check or a closing comes.
-/

namespace DevEnv.PortProbe

set_option autoImplicit false

/-! ### Checks and queries in order -/

/-- Queries are issued in the order of the checks, and a timer that is left belongs to a later check. -/
structure Advancing (l : Ledger) (m : Machine) : Prop where
  increasing : l.asked.Pairwise (· < ·)
  before : ∀ t ∈ m.timers, ∀ check ∈ l.asked, check < t.number

namespace Advancing
variable {l l' : Ledger} {m m' : Machine}

theorem query (h : Advancing l m) (k : m.Kempt) {t : Numbered} (pending : t ∈ m.timers) :
    Advancing { l with asked := l.asked ++ [t.number] } (m.query t).machine := by
  refine ⟨List.pairwise_append.mpr ⟨h.increasing, List.pairwise_singleton _ _, ?_⟩, ?_⟩
  · intro check hcheck _ ht
    rw [List.mem_singleton.mp ht]
    exact h.before t pending check hcheck
  · simp [k.query_timers pending]

theorem enters {e : Event} (h : Advancing l m) (c : Coherent l m) (k : m.Kempt)
    (enters : Enters l m e l' m') : Advancing l' m' := by
  cases enters with
  | check port =>
    refine ⟨h.increasing, fun t ht check hcheck => ?_⟩
    rw [k.check_timers port, List.mem_singleton] at ht
    rw [ht, c.started]
    exact c.known check hcheck
  | query pending => exact h.query k pending
  | keep | discard | letGo | idle => exact ⟨h.increasing, h.before⟩
  | stop => exact ⟨h.increasing, fun t ht => h.before t (Machine.mem_otherTimers.mp ht).1⟩

end Advancing

theorem advancing {es : List Event} (whole : Unbroken es) : Advancing (ledger es) (reached es) := by
  induction es using List.reverseRecOn with
  | nil => exact ⟨.nil, by simp [reached, Machine.after, Machine.initial]⟩
  | append_singleton es e ih =>
    rw [ledger_append_singleton, reached_append_singleton]
    exact (ih whole.init).enters (coherent es) (reached_kempt whole.init) (enters _ _ e)

/-- No check is queried for twice. -/
structure Once (l : Ledger) (m : Machine) : Prop where
  nodup : l.asked.Nodup
  unasked : ∀ t ∈ m.timers, t.number ∉ l.asked

theorem Once.enters {l l' : Ledger} {m m' : Machine} {e : Event} (h : Once l m) (c : Coherent l m)
    (enters : Enters l m e l' m') : Once l' m' := by
  cases enters with
  | check port =>
    refine ⟨h.nodup, fun t ht known => ?_⟩
    rcases List.mem_append.mp ht with old | new
    · exact h.unasked t (Machine.mem_otherTimers.mp old).1 known
    · rw [List.mem_singleton.mp new, c.started] at known
      exact Nat.lt_irrefl _ (c.known _ known)
  | @query t pending =>
    refine ⟨?_, fun u hu => ?_⟩
    · rw [List.nodup_append_comm]
      exact List.nodup_cons.mpr ⟨h.unasked t pending, h.nodup⟩
    · obtain ⟨old, other⟩ := Machine.mem_query_timers.mp hu
      simp [h.unasked u old, other]
  | keep | discard | letGo | idle => exact ⟨h.nodup, h.unasked⟩
  | stop => exact ⟨h.nodup, fun t ht => h.unasked t (Machine.mem_otherTimers.mp ht).1⟩

theorem once (es : List Event) : Once (ledger es) (reached es) := by
  induction es using List.reverseRecOn with
  | nil => exact ⟨.nil, by simp [reached, Machine.after, Machine.initial]⟩
  | append_singleton es e ih =>
    rw [ledger_append_singleton, reached_append_singleton]
    exact ih.enters (coherent es) (enters _ _ e)

/-! ### The queries of a run -/

variable {T : Type}

/-- A query, with the check that it is issued for. -/
structure Call (T : Type) where
  check : Nat
  time : T
  port : Int
deriving DecidableEq, Repr

abbrev TimedStep (T : Type) := Run.Step Machine (Stamped T) Reaction

def TimedStep.call? (s : TimedStep T) : Option (Call T) :=
  match s.event.event with
  | .expire timer => s.reaction.called.map fun q => ⟨timer, s.event.time, q.port⟩
  | _ => none

/-- The queries of a run of a new probe. -/
def calls (run : List (Stamped T)) : List (Call T) :=
  (Run.steps (fun m a => m.react a.event) Reaction.machine .initial run).filterMap TimedStep.call?

/-! ### What is to be queried -/

def Event.stops : Event → Bool
  | .check _ | .close => true
  | _ => false

/-- Whether this timer runs out before the next check and the next closing. -/
def outlasts (timer : Nat) (later : List (Stamped T)) : Bool :=
  match later.find? fun a => a.event.stops || a.event.timer? == some timer with
  | some a => a.event.timer? == some timer
  | none => false

/-- The queries for the checks that nothing follows within their quiet time, in their order. -/
def settled [Add T] (quiet : T) (check : Nat) : List (Stamped T) → List (Call T)
  | [] => []
  | a :: later =>
    match a.event.port? with
    | some port =>
      if outlasts check later then
        ⟨check, a.time + quiet, port⟩ :: settled quiet (check + 1) later
      else settled quiet (check + 1) later
    | none => settled quiet check later

/-! ### Which checks are queried for -/

theorem Event.stops_iff {e : Event} : e.stops = true ↔ e.Stops := by
  constructor
  · intro h
    cases e with
    | check port => exact .check port
    | close => exact .close
    | expire | answer | closed => cases h
  · rintro (_ | _) <;> rfl

section Calls
variable {run later : List (Stamped T)} {c : Call T} {timer : Nat}

theorem outlasts_iff :
    outlasts timer later = true ↔ ∃ mid time rest, later = mid ++ ⟨time, .expire timer⟩ :: rest ∧
      ∀ a ∈ mid, a.event.Spares timer := by
  have spares (a : Stamped T) :
      a.event.Spares timer ↔ (a.event.stops || a.event.timer? == some timer) = false := by
    rw [Bool.or_eq_false_iff, ← Bool.not_eq_true, Event.stops_iff, beq_eq_false_iff_ne]
    exact ⟨fun s => ⟨s.stops, s.timer⟩, fun s => ⟨s.1, s.2⟩⟩
  constructor
  · intro h
    unfold outlasts at h
    split at h
    · rename_i a found
      obtain ⟨-, mid, rest, rfl, before⟩ := List.find?_eq_some_iff_append.mp found
      obtain ⟨time, e⟩ := a
      obtain rfl := Event.timer?_eq_some_iff.mp (eq_of_beq h)
      exact ⟨mid, time, rest, rfl, fun a ha => (spares a).mpr (by simpa using before a ha)⟩
    · cases h
  · rintro ⟨mid, time, rest, rfl, before⟩
    have found : (mid ++ ⟨time, .expire timer⟩ :: rest).find?
        (fun a => a.event.stops || a.event.timer? == some timer) = some ⟨time, .expire timer⟩ :=
      List.find?_eq_some_iff_append.mpr
        ⟨by simp [Event.timer?], mid, rest, rfl, fun a ha => by simp [(spares a).mp (before a ha)]⟩
    simp only [outlasts, found]
    simp [Event.timer?]

/-- What ends the time of a timer. -/
theorem exists_ends (timer : Nat) (later : List (Stamped T)) :
    ∃ mid rest, later = mid ++ rest ∧ (∀ a ∈ mid, a.event.Spares timer) ∧
      ∀ a ∈ rest.head?, a.event.Stops ∨ a.event = .expire timer := by
  induction later with
  | nil => exact ⟨[], [], rfl, by simp, by simp⟩
  | cons a later ih =>
    by_cases spares : a.event.Spares timer
    · obtain ⟨mid, rest, rfl, before, ends⟩ := ih
      exact ⟨a :: mid, rest, rfl, List.forall_mem_cons.mpr ⟨spares, before⟩, ends⟩
    · refine ⟨[], a :: later, rfl, by simp, ?_⟩
      simp only [List.head?_cons, Option.mem_some_iff, forall_eq']
      by_contra neither
      rw [not_or] at neither
      exact spares ⟨neither.1, fun h => neither.2 (Event.timer?_eq_some_iff.mp h)⟩

theorem Coherent.find?_timer {l : Ledger} {m : Machine} (h : Coherent l m) {t : Numbered}
    (pending : t ∈ m.timers) : m.timers.find? (fun u => u.number == t.number) = some t := by
  refine find?_number (fun u hu same => ?_) pending
  have known := h.timers u hu
  rw [same, h.timers t pending] at known
  exact (Option.some.inj known).symm

theorem call?_eq_some_iff {l : Ledger} {m : Machine} (h : Coherent l m) {a : Stamped T} :
    TimedStep.call? ⟨m, a, m.react a.event⟩ = some c ↔
      a = ⟨c.time, .expire c.check⟩ ∧ ⟨c.check, c.port⟩ ∈ m.timers := by
  obtain ⟨check, time, port⟩ := c
  constructor
  · intro called
    obtain ⟨stamp, e⟩ := a
    cases e with
    | expire timer =>
      obtain ⟨q, called, same⟩ := Option.map_eq_some_iff.mp called
      cases found : m.timers.find? fun t => t.number == timer with
      | none => simp [Machine.react, found] at called
      | some t =>
        obtain rfl : t.number = timer := by simpa using List.find?_some found
        simp only [Machine.react, found, Machine.query_called, Option.some.injEq] at called
        subst called
        cases same
        exact ⟨rfl, List.mem_of_find?_eq_some found⟩
    | check | answer | close | closed => cases called
  · rintro ⟨rfl, pending⟩
    simp only [TimedStep.call?, Machine.react, h.find?_timer pending, Machine.query_called,
      Option.map_some]

theorem reached_untimed (run : List (Stamped T)) :
    Run.after (fun m a => m.react a.event) Reaction.machine .initial run =
      reached (untimed run) := by
  simp only [Run.after, reached, Machine.after, untimed, List.foldl_map]

theorem mem_calls_iff :
    c ∈ calls run ↔ ∃ before later, run = before ++ ⟨c.time, .expire c.check⟩ :: later ∧
      ⟨c.check, c.port⟩ ∈ (reached (untimed before)).timers := by
  constructor
  · intro hc
    obtain ⟨s, hs, called⟩ := List.mem_filterMap.mp hc
    obtain ⟨before, later, split, start, reacts⟩ := Run.exists_split_of_mem_steps hs
    rw [reached_untimed] at start
    obtain ⟨m, a, r⟩ := s
    obtain rfl : m = reached (untimed before) := start
    obtain rfl : r = (reached (untimed before)).react a.event := reacts
    obtain ⟨rfl, pending⟩ := (call?_eq_some_iff (coherent _)).mp called
    exact ⟨before, later, split, pending⟩
  · rintro ⟨before, later, rfl, pending⟩
    have called := (call?_eq_some_iff (coherent _) (c := c)).mpr ⟨rfl, pending⟩
    rw [calls, Run.steps_append, reached_untimed]
    exact List.mem_filterMap.mpr
      ⟨_, List.mem_append_right _ List.mem_cons_self, called⟩

/-- Queries in the order of their checks are the same if they are the same in some order. -/
theorem eq_of_increasing {cs ds : List (Call T)} (hcs : cs.Pairwise fun c d => c.check < d.check)
    (hds : ds.Pairwise fun c d => c.check < d.check) (same : ∀ c, c ∈ cs ↔ c ∈ ds) : cs = ds := by
  have : Std.Irrefl fun c d : Call T => c.check < d.check := ⟨fun c => Nat.lt_irrefl c.check⟩
  have : Std.Antisymm fun c d : Call T => c.check < d.check :=
    ⟨fun _ _ less more => absurd more (Nat.lt_asymm less)⟩
  exact hcs.eq_of_mem_iff hds same

theorem eq_of_check_eq {cs : List (Call T)} (hcs : cs.Pairwise fun c d => c.check < d.check)
    {c d : Call T} (hc : c ∈ cs) (hd : d ∈ cs) (same : c.check = d.check) : c = d :=
  List.inj_on_of_nodup_map (List.pairwise_map.mpr (hcs.imp Nat.ne_of_lt)) hc hd same

theorem call?_map_check (m : Machine) (a : Stamped T) (r : Reaction) :
    (TimedStep.call? ⟨m, a, r⟩).map Call.check = Step.asks? ⟨m, a.event, r⟩ := by
  obtain ⟨time, e⟩ := a
  cases e with
  | expire timer => cases h : r.called <;> simp [TimedStep.call?, Step.asks?, h]
  | check | answer | close | closed => rfl

theorem calls_map_check (run : List (Stamped T)) :
    (calls run).map Call.check = (ledger (untimed run)).asked := by
  induction run using List.reverseRecOn with
  | nil => rfl
  | append_singleton run a ih =>
    rw [untimed_append, untimed_cons, untimed_nil, ledger_append_singleton, calls,
      Run.steps_append_singleton, List.filterMap_append, List.map_append, reached_untimed]
    refine congr (congrArg _ ih) ?_
    rw [← call?_map_check]
    cases called : TimedStep.call? ⟨reached (untimed run), a, (reached (untimed run)).react a.event⟩ <;>
      simp [called]

theorem calls_increasing (whole : Unbroken (untimed run)) :
    (calls run).Pairwise fun c d => c.check < d.check := by
  have increasing := (advancing whole).increasing
  rwa [← calls_map_check, List.pairwise_map] at increasing

theorem calls_nodup (run : List (Stamped T)) : ((calls run).map Call.check).Nodup := by
  rw [calls_map_check]
  exact (once _).nodup

theorem mem_settled_check [Add T] {quiet time : T} {check : Nat} {port : Int} :
    c ∈ settled quiet check (⟨time, .check port⟩ :: later) ↔
      (outlasts check later = true ∧ c = ⟨check, time + quiet, port⟩) ∨
        c ∈ settled quiet (check + 1) later := by
  simp only [settled, Event.port?]
  split <;> simp [*]

theorem mem_settled_iff [Add T] {quiet : T} {check : Nat} :
    c ∈ settled quiet check run ↔ ∃ before time port later,
      run = before ++ ⟨time, .check port⟩ :: later ∧
      outlasts (check + (checkTimes before).length) later = true ∧
      c = ⟨check + (checkTimes before).length, time + quiet, port⟩ := by
  induction run generalizing check with
  | nil => simp [settled]
  | cons a rest ih =>
    simp only [List.cons_eq_append_iff]
    obtain ⟨stamp, e⟩ := a
    -- Only a check moves the count on.
    cases e with
    | check port =>
      have shift (before : List (Stamped T)) :
          check + (checkTimes (⟨stamp, .check port⟩ :: before)).length =
            check + 1 + (checkTimes before).length := by
        rw [checkTimes_check, List.length_cons]
        omega
      rw [mem_settled_check, ih]
      constructor
      · rintro (⟨rests, rfl⟩ | ⟨before, time, port', later, rfl, rests, rfl⟩)
        · exact ⟨[], stamp, port, rest, .inl ⟨rfl, rfl⟩, rests, rfl⟩
        · refine ⟨⟨stamp, .check port⟩ :: before, time, port', later, .inr ⟨before, rfl, rfl⟩, ?_⟩
          rw [shift]
          exact ⟨rests, rfl⟩
      · rintro ⟨_, time, port', later, ⟨rfl, split⟩ | ⟨before, rfl, rfl⟩, rests, rfl⟩
        · cases split
          exact .inl ⟨rests, rfl⟩
        · rw [shift] at rests ⊢
          exact .inr ⟨before, time, port', later, rfl, rests, rfl⟩
    | expire | answer | close | closed =>
      refine ih.trans ⟨?_, ?_⟩
      · rintro ⟨before, time, port, later, rfl, rests, rfl⟩
        exact ⟨⟨stamp, _⟩ :: before, time, port, later, .inr ⟨before, rfl, rfl⟩, rests, rfl⟩
      · rintro ⟨_, time, port, later, ⟨rfl, split⟩ | ⟨before, rfl, rfl⟩, rests, rfl⟩
        · cases split
        · exact ⟨before, time, port, later, rfl, rests, rfl⟩

theorem le_check_of_mem_settled [Add T] {quiet : T} {check : Nat} (hc : c ∈ settled quiet check run) :
    check ≤ c.check := by
  obtain ⟨before, _, _, _, -, -, rfl⟩ := mem_settled_iff.mp hc
  exact Nat.le_add_right _ _

theorem settled_increasing [Add T] (quiet : T) (check : Nat) (run : List (Stamped T)) :
    (settled quiet check run).Pairwise fun c d => c.check < d.check := by
  induction run generalizing check with
  | nil => exact .nil
  | cons a later ih =>
    simp only [settled]
    split
    · split
      · exact .cons (fun d hd => le_check_of_mem_settled hd) (ih _)
      · exact ih _
    · exact ih _

end Calls

/-! ### Punctual runs in which no closing is interrupted -/

section Debouncing
variable [AddCommMonoid T] [LinearOrder T] [IsOrderedAddMonoid T] {quiet now time : T}
  {run before later : List (Stamped T)} {port : Int}

/-- The timer of a check that is spared until it runs out runs out on time. -/
theorem Punctual.eq_due_of_spares {mid rest : List (Stamped T)} {stamp : T}
    (h : Punctual quiet (before ++ ⟨time, .check port⟩ ::
      (mid ++ ⟨stamp, .expire (checkTimes before).length⟩ :: rest)) now) (nonneg : 0 ≤ quiet)
    (spares : ∀ a ∈ mid, a.event.Spares (checkTimes before).length) : stamp = time + quiet := by
  rw [← List.cons_append, ← List.append_assoc] at h
  exact h.eq_due nonneg (pending_of_spares spares) rfl (checkTimes_getElem?_split _ _ _ _)

theorem exists_check_of_mem_calls (h : Punctual quiet run now) (nonneg : 0 ≤ quiet) {c : Call T}
    (hc : c ∈ calls run) : ∃ before time later, run = before ++ ⟨time, .check c.port⟩ :: later ∧
      c.check = (checkTimes before).length ∧ c.time = time + quiet := by
  obtain ⟨before, rest, rfl, pending⟩ := mem_calls_iff.mp hc
  obtain ⟨early, time, mid, rfl, number⟩ := exists_check_of_pending pending
  have checked := checkTimes_getElem?_split early mid time c.port
  rw [← number] at checked
  exact ⟨early, time, _, by rw [List.append_assoc, List.cons_append], number,
    h.eq_due nonneg pending rfl checked⟩

theorem mem_calls_of_mem_settled (h : Punctual quiet run now) (nonneg : 0 ≤ quiet) {c : Call T}
    (hc : c ∈ settled quiet 0 run) : c ∈ calls run := by
  rw [mem_settled_iff] at hc
  simp only [Nat.zero_add] at hc
  obtain ⟨before, time, port, later, rfl, rests, rfl⟩ := hc
  obtain ⟨mid, stamp, rest, rfl, spares⟩ := outlasts_iff.mp rests
  obtain rfl := h.eq_due_of_spares nonneg spares
  exact mem_calls_iff.mpr ⟨before ++ ⟨time, .check port⟩ :: mid, rest,
    by rw [List.append_assoc, List.cons_append], pending_of_spares spares⟩

theorem mem_settled_of_mem_calls (h : Punctual quiet run now) (nonneg : 0 ≤ quiet)
    (whole : Unbroken (untimed run)) {c : Call T} (hc : c ∈ calls run) :
    c ∈ settled quiet 0 run := by
  rw [mem_settled_iff]
  simp only [Nat.zero_add]
  obtain ⟨before, rest, rfl, pending⟩ := mem_calls_iff.mp hc
  obtain ⟨check, stamp, port⟩ := c
  rw [untimed_append] at whole
  obtain ⟨before, time, mid, rfl, rfl, spares⟩ := exists_split_of_pending whole.init pending
  rw [List.append_assoc, List.cons_append] at h
  obtain rfl := h.eq_due_of_spares nonneg spares
  exact ⟨before, time, port, _, by rw [List.append_assoc, List.cons_append],
    outlasts_iff.mpr ⟨mid, _, rest, rfl, spares⟩, rfl⟩

theorem calls_eq_settled (h : Punctual quiet run now) (nonneg : 0 ≤ quiet)
    (whole : Unbroken (untimed run)) : calls run = settled quiet 0 run :=
  eq_of_increasing (calls_increasing whole) (settled_increasing quiet 0 run) fun _ =>
    ⟨mem_settled_of_mem_calls h nonneg whole, mem_calls_of_mem_settled h nonneg⟩

/-- The quiet time after a check is over, and no other check and no closing has come within it. -/
structure LeftAlone (quiet time now : T) (later : List (Stamped T)) : Prop where
  elapsed : time + quiet < now
  alone : ∀ a ∈ later, a.event.Stops → time + quiet < a.time

theorem outlasts_of_leftAlone (h : Punctual quiet (before ++ ⟨time, .check port⟩ :: later) now)
    (nonneg : 0 ≤ quiet) (left : LeftAlone quiet time now later) :
    outlasts (checkTimes before).length later = true := by
  obtain ⟨mid, rest, rfl, spares, ends⟩ := exists_ends (checkTimes before).length later
  have pending : ⟨(checkTimes before).length, port⟩ ∈
      (reached (untimed (before ++ ⟨time, .check port⟩ :: mid))).timers := pending_of_spares spares
  -- The timer was left until `rest`, which cannot be empty: by now the timer would be late.
  cases rest with
  | nil =>
    rw [List.append_nil] at h
    exact absurd left.elapsed
      (not_lt_of_ge (h.le_due nonneg pending (checkTimes_getElem?_split _ _ _ _)))
  | cons a rest =>
    rw [← List.cons_append, ← List.append_assoc] at h
    rcases ends a rfl with stops | expires
    · have late := left.alone a (List.mem_append_right _ List.mem_cons_self) stops
      exact absurd late
        (not_lt_of_ge (h.split.1.le_due nonneg pending (checkTimes_getElem?_split _ _ _ _)))
    · obtain ⟨stamp, e⟩ := a
      obtain rfl : e = .expire _ := expires
      exact outlasts_iff.mpr ⟨mid, stamp, rest, rfl, spares⟩

theorem not_outlasts_of_stops (h : Punctual quiet (before ++ ⟨time, .check port⟩ :: later) now)
    (nonneg : 0 ≤ quiet) {a : Stamped T} (ha : a ∈ later) (stops : a.event.Stops)
    (early : a.time < time + quiet) : outlasts (checkTimes before).length later = false := by
  rw [← Bool.not_eq_true]
  intro rests
  obtain ⟨mid, stamp, rest, rfl, spares⟩ := outlasts_iff.mp rests
  obtain rfl := h.eq_due_of_spares nonneg spares
  -- Nothing before the timer runs out stops it, so `a` comes later, and that is not early.
  have after : a ∈ rest := by
    rcases List.mem_append.mp ha with ha | ha
    · exact absurd stops (spares a ha).stops
    · rcases List.mem_cons.mp ha with rfl | ha
      · cases stops
      · exact ha
  have ordered := h.ordered.1
  rw [← List.cons_append, ← List.append_assoc, List.pairwise_append, List.pairwise_cons] at ordered
  exact absurd early (not_lt_of_ge (ordered.2.1.1 a after))

/-- The check after this one comes within the quiet time. -/
def Hurried (quiet : T) (run : List (Stamped T)) (check : Nat) : Prop :=
  ∃ time next, (checkTimes run)[check]? = some time ∧ (checkTimes run)[check + 1]? = some next ∧
    next < time + quiet

theorem not_hurried_of_mem_calls (h : Punctual quiet run now) (nonneg : 0 ≤ quiet)
    (whole : Unbroken (untimed run)) {c : Call T} (hc : c ∈ calls run) :
    ¬ Hurried quiet run c.check := by
  rw [calls_eq_settled h nonneg whole, mem_settled_iff] at hc
  simp only [Nat.zero_add] at hc
  obtain ⟨before, time, port, later, rfl, rests, rfl⟩ := hc
  rintro ⟨stamp, next, checked, follows, early⟩
  rw [checkTimes_getElem?_split] at checked
  obtain rfl := Option.some.inj checked
  rw [checkTimes_append, checkTimes_check, List.getElem?_append_right (Nat.le_add_right _ 1),
    Nat.add_sub_cancel_left, List.getElem?_cons_succ] at follows
  obtain ⟨other, ha⟩ := exists_of_mem_checkTimes (List.mem_of_getElem? follows)
  rw [not_outlasts_of_stops h nonneg ha (.check other) early] at rests
  cases rests

/-- A burst of checks comes to one query, for the last check. -/
theorem filter_calls_of_hurried (h : Punctual quiet (before ++ ⟨time, .check port⟩ :: later) now)
    (nonneg : 0 ≤ quiet) (whole : Unbroken (untimed (before ++ ⟨time, .check port⟩ :: later)))
    (left : LeftAlone quiet time now later) {first : Nat} (reaches : first ≤ (checkTimes before).length)
    (hurried : ∀ check, first ≤ check → check < (checkTimes before).length →
      Hurried quiet (before ++ ⟨time, .check port⟩ :: later) check) :
    (calls (before ++ ⟨time, .check port⟩ :: later)).filter
        (fun c => first ≤ c.check ∧ c.check ≤ (checkTimes before).length) =
      [⟨(checkTimes before).length, time + quiet, port⟩] := by
  have increasing := calls_increasing whole
  have queried : ⟨(checkTimes before).length, time + quiet, port⟩ ∈
      calls (before ++ ⟨time, .check port⟩ :: later) := by
    rw [calls_eq_settled h nonneg whole, mem_settled_iff]
    simp only [Nat.zero_add]
    exact ⟨before, time, port, later, rfl, outlasts_of_leftAlone h nonneg left, rfl⟩
  refine eq_of_increasing (increasing.filter _) (List.pairwise_singleton _ _) fun c => ?_
  simp only [List.mem_filter, decide_eq_true_eq, List.mem_singleton]
  constructor
  · rintro ⟨hc, within⟩
    -- An earlier check of the burst is hurried by the one after it.
    refine eq_of_check_eq increasing hc queried ?_
    by_contra other
    exact not_hurried_of_mem_calls h nonneg whole hc
      (hurried c.check within.1 (Nat.lt_of_le_of_ne within.2 other))
  · rintro rfl
    exact ⟨queried, reaches, Nat.le_refl _⟩

end Debouncing

theorem query_stays {m : Machine} {q : Numbered} (waits : q ∈ m.queries) {es : List Event}
    (unanswered : ∀ answer, .answer q.number answer ∉ es) : q ∈ (m.after es).queries := by
  induction es generalizing m with
  | nil => exact waits
  | cons e es ih =>
    refine ih (m := (m.react e).machine) ?_ fun answer h => unanswered answer (List.mem_cons_of_mem e h)
    have reacts := m.reacts e
    generalize m.react e = r at reacts ⊢
    cases reacts with
    | query => exact List.mem_append_left _ waits
    | @keep _ p answer found | @discard _ p answer found =>
      refine List.mem_filter.mpr ⟨waits, ?_⟩
      obtain rfl : p.number = _ := by simpa using List.find?_some found
      have other : q.number ≠ p.number := fun same =>
        unanswered answer (same ▸ List.mem_cons_self)
      simpa using other
    | check | spent | unasked | stop | unheld | letGo | notClosing => exact waits

/-- What queries a punctual run of a probe issues. -/
structure Debounced [AddCommMonoid T] [LinearOrder T] (quiet : T) (run : List (Stamped T))
    (now : T) : Prop where
  /-- Nothing but a timer that runs out issues a query. -/
  only : ∀ s ∈ history (untimed run), s.reaction.called ≠ none → ∃ timer, s.event = .expire timer
  /-- A query is issued at the end of the quiet time after its check, for the port of the check. -/
  punctual : ∀ c ∈ calls run, ∃ before time later, run = before ++ ⟨time, .check c.port⟩ :: later ∧
    c.check = (checkTimes before).length ∧ c.time = time + quiet
  once : ((calls run).map Call.check).Nodup
  /-- A check whose timer outlasts what follows is queried for. -/
  answered : ∀ c ∈ settled quiet 0 run, c ∈ calls run
  /-- There are no other queries unless a closing is interrupted. -/
  queried : Unbroken (untimed run) → calls run = settled quiet 0 run
  increasing : Unbroken (untimed run) → (calls run).Pairwise fun c d => c.check < d.check
  outlasting : ∀ before time port later, run = before ++ ⟨time, .check port⟩ :: later →
    LeftAlone quiet time now later → outlasts (checkTimes before).length later = true
  overtaken : ∀ before time port later, run = before ++ ⟨time, .check port⟩ :: later →
    ∀ a ∈ later, a.event.Stops → a.time < time + quiet →
      outlasts (checkTimes before).length later = false
  burst : Unbroken (untimed run) →
    ∀ before time port later, run = before ++ ⟨time, .check port⟩ :: later →
    LeftAlone quiet time now later → ∀ first ≤ (checkTimes before).length,
      (∀ check, first ≤ check → check < (checkTimes before).length → Hurried quiet run check) →
      (calls run).filter (fun c => first ≤ c.check ∧ c.check ≤ (checkTimes before).length) =
        [⟨(checkTimes before).length, time + quiet, port⟩]
  underWay : ∀ before later, run = before ++ later →
    ∀ q ∈ (reached (untimed before)).queries, (∀ answer, .answer q.number answer ∉ untimed later) →
      q ∈ (reached (untimed run)).queries

theorem debounced [AddCommMonoid T] [LinearOrder T] [IsOrderedAddMonoid T] {quiet now : T}
    {run : List (Stamped T)} (h : Punctual quiet run now) (nonneg : 0 ≤ quiet) :
    Debounced quiet run now := by
  constructor
  · intro s hs called
    obtain ⟨before, e, later, -, rfl⟩ := exists_of_mem_history hs
    have reacts := (reached before).reacts e
    generalize (reached before).react e = r at reacts called
    cases reacts with
    | query => exact ⟨_, rfl⟩
    | check | spent | keep | discard | unasked | stop | unheld | letGo | notClosing =>
      exact absurd rfl called
  · intro c hc
    exact exists_check_of_mem_calls h nonneg hc
  · exact calls_nodup run
  · intro c hc
    exact mem_calls_of_mem_settled h nonneg hc
  · exact calls_eq_settled h nonneg
  · exact calls_increasing
  · rintro before time port later rfl left
    exact outlasts_of_leftAlone h nonneg left
  · rintro before time port later rfl a ha stops early
    exact not_outlasts_of_stops h nonneg ha stops early
  · rintro whole before time port later rfl left first reaches hurried
    exact filter_calls_of_hurried h nonneg whole left reaches hurried
  · rintro before later rfl q waits unanswered
    rw [untimed_append, reached_append]
    exact query_stays waits unanswered

/-- A closing that is not interrupted, seen event by event. -/
theorem unbroken_of_take {es : List Event} (h : ∀ i ∈ List.range es.length,
    (es[i]?.bind Event.port?).isSome → (reached (es.take i)).closing = 0) : Unbroken es := by
  rintro before port later rfl
  have within := h before.length (by simp) (by simp [Event.port?])
  rwa [List.take_left' rfl] at within

/-- A check that another overtakes, one that a closing stops, and two that settle. -/
def mixed : List (Stamped Nat) :=
  [⟨0, .check 8080⟩, ⟨1, .check 9090⟩, ⟨3, .expire 1⟩, ⟨4, .check 7070⟩, ⟨4, .answer 0 (.ok true)⟩,
    ⟨5, .close⟩, ⟨5, .closed⟩, ⟨6, .check 8080⟩, ⟨8, .expire 3⟩]

theorem mixed_debounced :
    Punctual 2 mixed 9 ∧ (0 : Nat) ≤ 2 ∧ Unbroken (untimed mixed) ∧
      calls mixed = [⟨1, 3, 9090⟩, ⟨3, 8, 8080⟩] ∧ Debounced 2 mixed 9 := by
  have h : Punctual 2 (mixed.take 1) 0 := (Punctual.start 0).event _ (by decide)
  have h : Punctual 2 (mixed.take 2) 1 := h.next ⟨1, .check 9090⟩ (by decide) (by decide) (by decide)
  have h : Punctual 2 (mixed.take 3) 3 := h.next ⟨3, .expire 1⟩ (by decide) (by decide) (by decide)
  have h : Punctual 2 (mixed.take 4) 4 := h.next ⟨4, .check 7070⟩ (by decide) (by decide) (by decide)
  have h : Punctual 2 (mixed.take 5) 4 := h.event _ (by decide)
  have h : Punctual 2 (mixed.take 6) 5 := h.next ⟨5, .close⟩ (by decide) (by decide) (by decide)
  have h : Punctual 2 (mixed.take 7) 5 := h.event _ (by decide)
  have h : Punctual 2 (mixed.take 8) 6 := h.next ⟨6, .check 8080⟩ (by decide) (by decide) (by decide)
  have h : Punctual 2 (mixed.take 9) 8 := h.next ⟨8, .expire 3⟩ (by decide) (by decide) (by decide)
  have punctual : Punctual 2 mixed 9 := h.pass (by decide) (by decide)
  have whole : Unbroken (untimed mixed) := unbroken_of_take (by decide)
  exact ⟨punctual, by decide, whole, by decide, debounced punctual (by decide)⟩

end DevEnv.PortProbe
