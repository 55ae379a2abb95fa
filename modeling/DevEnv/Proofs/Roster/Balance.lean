import DevEnv.Proofs.Roster.Answers
import Mathlib.Data.List.Nodup

/-!
How many calls for lists have not ended. The roster counts them: one more when a call is made, one less
when it is answered, when its caller gives it up, or when its cancelled tick notices. Ticks call at zero
alone, so that no tick ever calls while a call is under way.
-/

namespace DevEnv.Roster

set_option autoImplicit false

/-! ### Calls that have not ended -/

def Waiting.isList (w : Waiting) : Bool := w.token?.isSome

/-- The call was made by a tick, of a caller or of the loop. -/
def Waiting.ofTick (w : Waiting) : Bool :=
  match w.purpose with
  | .list .tick _ | .list .loop _ => true
  | _ => false

theorem Waiting.isList_of_list {w : Waiting} {origin : Origin} {token : Nat}
    (h : w.purpose = .list origin token) : w.isList = true := by
  rw [isList, token?_of_list h, Option.isSome_some]

theorem Waiting.exists_list_of_isList {w : Waiting} (h : w.isList = true) :
    ∃ origin token, w.purpose = .list origin token := by
  obtain ⟨token, some⟩ := Option.isSome_iff_exists.mp h
  obtain ⟨origin, list⟩ := exists_list_of_token? some
  exact ⟨origin, token, list⟩

namespace Machine

/-- Calls that have not ended. A call that was cancelled ends when its tick notices. -/
def underWay (m : Machine) : List Waiting := m.cancelled ++ m.waiting

/-- Calls for lists that have not ended. -/
def outstanding (m : Machine) : List Waiting := m.underWay.filter Waiting.isList

/-- The event lets a tick run. -/
inductive Ticks (m : Machine) : Event → Prop
  | tick (caller : Nat) : Ticks m (.tick caller)
  | loop (due : m.due ≠ 0) : Ticks m .beginTick

/-- The event ends a call for a list. -/
inductive Ends (m : Machine) : Event → Waiting → Prop
  | listed {w : Waiting} (answer : Except Failure (List Container)) (waits : w ∈ m.waiting)
    (list : w.isList = true) : Ends m (.listed w.number answer) w
  | abandoned {w : Waiting} (waits : w ∈ m.waiting) (list : w.isList = true) :
    Ends m (.abandon w.number) w
  | noticed {w : Waiting} (waits : w ∈ m.cancelled) : Ends m (.notice w.number) w

/-- Calls differ in their numbers, and only calls for lists are ever cancelled. -/
structure Numbered (m : Machine) : Prop where
  apart : (m.underWay.map Waiting.number).Nodup
  below : ∀ w ∈ m.underWay, w.number < m.issued
  lists : ∀ w ∈ m.cancelled, w.isList = true

theorem numbered_initial : Numbered .initial := ⟨.nil, by simp [initial, underWay], by simp [initial]⟩

section Steps
variable {m n : Machine} {e : Event} {v w : Waiting}

theorem isList_of_ofLoop (h : ofLoop w = true) : w.isList = true := by
  cases purpose : w.purpose with
  | list origin token => exact Waiting.isList_of_list purpose
  | details | act => simp [ofLoop, purpose] at h

theorem close_underWay (m : Machine) : m.close.underWay.Perm m.underWay := by
  simp only [underWay, close, List.append_assoc]
  exact (List.filter_append_perm ofLoop m.waiting).append_left _

theorem without_underWay_sublist (m : Machine) (w : Waiting) :
    (m.without w).underWay.Sublist m.underWay :=
  List.filter_sublist.append_left _

theorem issue_underWay (m : Machine) (purpose : Purpose) (caller : Option Nat) (call : Call) :
    (m.issue purpose caller call).machine.underWay =
      m.underWay ++ [⟨m.issued, purpose, caller⟩] := by
  simp [issue, underWay]

theorem Asks.cancelled_eq {origin : Origin} {caller : Option Nat} (h : Asks m e n origin caller) :
    n.cancelled = m.cancelled := by
  cases h <;> rfl

theorem Passes.cancelled_eq {caller : Option Nat} (h : Passes m e n caller) :
    n.cancelled = m.cancelled := by
  cases h <;> rfl

theorem Numbered.fewer (h : Numbered m) (fewer : n.underWay.Sublist m.underWay)
    (issued : n.issued = m.issued) (lists : ∀ w ∈ n.cancelled, w.isList = true) : Numbered n where
  apart := h.apart.sublist (fewer.map _)
  below := by
    intro w hw
    rw [issued]
    exact h.below w (fewer.subset hw)
  lists := lists

theorem Numbered.issue (h : Numbered m) (purpose : Purpose) (caller : Option Nat) (call : Call) :
    Numbered (m.issue purpose caller call).machine where
  apart := by
    rw [issue_underWay, List.map_append, List.nodup_append]
    refine ⟨h.apart, List.nodup_singleton _, ?_⟩
    intro number old _ new
    obtain ⟨w, hw, rfl⟩ := List.mem_map.mp old
    rw [List.mem_singleton.mp new]
    exact Nat.ne_of_lt (h.below w hw)
  below := by
    intro w hw
    rw [issue_underWay] at hw
    rcases List.mem_append.mp hw with hw | hw
    · exact Nat.lt_succ_of_lt (h.below w hw)
    · rw [List.mem_singleton.mp hw]
      exact Nat.lt_succ_self _
  lists := h.lists

theorem Numbered.react (h : Numbered m) (e : Event) : Numbered (m.react e).machine := by
  have reacts := m.reacts e
  generalize m.react e = r at reacts ⊢
  cases reacts with
  | @ask _ asker _ _ asks =>
    have asker_numbered : Numbered asker := by
      refine h.fewer ?_ asks.issued_eq (asks.cancelled_eq ▸ h.lists)
      rw [underWay, asks.cancelled_eq]
      exact asks.waiting_sublist.append_left _
    exact Numbered.issue (m := { asker with roster := asker.roster.request })
      ⟨asker_numbered.apart, asker_numbered.below, asker_numbered.lists⟩ _ _ _
  | issue => exact h.issue _ _ _
  | @listed w =>
    rw [listEnded_machine]
    exact h.fewer (m.without_underWay_sublist w) rfl h.lists
  | @withdraw w => exact h.fewer (m.without_underWay_sublist w) rfl h.lists
  | @finish _ w => exact h.fewer (m.without_underWay_sublist w) rfl h.lists
  | pass passes =>
    refine h.fewer ?_ passes.issued_eq (passes.cancelled_eq ▸ h.lists)
    rw [underWay, underWay]
    exact passes.cancelled_eq ▸ passes.waiting_eq ▸ List.Sublist.refl _
  | close =>
    have same := m.close_underWay
    refine ⟨(same.map _).nodup_iff.mpr h.apart, fun w hw => h.below w (same.mem_iff.mp hw), ?_⟩
    intro w hw
    rcases List.mem_append.mp hw with hw | hw
    · exact h.lists w hw
    · exact isList_of_ofLoop (List.mem_filter.mp hw).2
  | notice =>
    exact h.fewer (List.filter_sublist.append_right _) rfl
      fun w hw => h.lists w (List.mem_filter.mp hw).1
  | startPolling | wake | ignore => exact h.fewer (.refl _) rfl h.lists

theorem Numbered.eq_of_number (h : Numbered m) (hv : v ∈ m.underWay) (hw : w ∈ m.underWay)
    (same : v.number = w.number) : v = w :=
  List.inj_on_of_nodup_map h.apart hv hw same

end Steps

/-! ### What one event does to them -/

section Outstanding
variable {m n : Machine} {e : Event} {v w : Waiting}

theorem mem_outstanding : w ∈ m.outstanding ↔ w ∈ m.underWay ∧ w.isList = true :=
  List.mem_filter

theorem Ends.mem_outstanding (ends : Ends m e w) (h : m.Numbered) : w ∈ m.outstanding := by
  cases ends with
  | listed _ waits list | abandoned waits list =>
    exact Machine.mem_outstanding.mpr ⟨List.mem_append_right _ waits, list⟩
  | noticed waits =>
    exact Machine.mem_outstanding.mpr ⟨List.mem_append_left _ waits, h.lists w waits⟩

/-- The event takes this call off the list and the counter. -/
structure Takes (m : Machine) (w : Waiting) (r : Reaction) : Prop where
  called : r.called = none
  outstanding : r.machine.outstanding = m.outstanding.filter fun v => v.number != w.number
  counted : r.machine.roster.inFlight = m.roster.inFlight - 1

theorem filter_number_eq_self {l : List Waiting} {number : Nat}
    (other : ∀ w ∈ l, w.number ≠ number) : (l.filter fun v => v.number != number) = l :=
  List.filter_eq_self.mpr fun w hw => by simpa using other w hw

theorem Numbered.cancelled_ne (h : m.Numbered) (hv : v ∈ m.cancelled) (hw : w ∈ m.waiting) :
    v.number ≠ w.number := by
  have apart := h.apart
  rw [underWay, List.map_append, List.nodup_append] at apart
  exact apart.2.2 _ (List.mem_map_of_mem hv) _ (List.mem_map_of_mem hw)

theorem Numbered.without_underWay (h : m.Numbered) (hw : w ∈ m.waiting) :
    (m.without w).underWay = m.underWay.filter fun v => v.number != w.number := by
  rw [underWay, underWay, List.filter_append,
    filter_number_eq_self fun v hv => h.cancelled_ne hv hw]
  rfl

theorem Numbered.noticed_underWay (h : m.Numbered) (hw : w ∈ m.cancelled) :
    { m with cancelled := m.cancelled.filter fun v => v.number != w.number }.underWay =
      m.underWay.filter fun v => v.number != w.number := by
  rw [underWay, underWay, List.filter_append,
    filter_number_eq_self (l := m.waiting) fun v hv => (h.cancelled_ne hw hv).symm]

theorem outstanding_of_underWay {p : Waiting → Bool}
    (h : n.underWay = m.underWay.filter p) : n.outstanding = m.outstanding.filter p := by
  rw [outstanding, h, outstanding, List.filter_comm]

theorem Orderly.react_abandon (h : m.Orderly) (hw : w ∈ m.waiting) {origin : Origin} {token : Nat}
    (list : w.purpose = .list origin token) :
    m.react (.abandon w.number) =
      { m.without w with roster := m.roster.withdraw }.give w.caller .cancelled [] := by
  have found := h.find?_eq hw (p := fun v => v.number == w.number) (by simp) (by simp)
  simp only [Machine.react, found, abandon, list]

theorem react_notice (hw : w ∈ m.cancelled) :
    m.react (.notice w.number) =
      { m with
        roster := m.roster.withdraw
        cancelled := m.cancelled.filter fun v => v.number != w.number }.quiet := by
  cases found : m.cancelled.find? fun v => v.number == w.number with
  | none => simpa using List.find?_eq_none.mp found w hw
  | some v => simp only [Machine.react, found]

@[simp] theorem receive_inFlight (r : Roster) (token : Nat)
    (answer : Except Failure (List Container)) :
    (r.receive token answer).inFlight = r.inFlight - 1 := by
  simp only [receive]
  split
  · rfl
  · rcases answer with (_ | _) | _ <;> rfl

theorem Ends.takes (ends : Ends m e w) (orderly : m.Orderly) (h : m.Numbered) :
    Takes m w (m.react e) := by
  cases ends with
  | listed answer waits list =>
    obtain ⟨origin, token, list⟩ := Waiting.exists_list_of_isList list
    rw [orderly.react_listed waits list answer]
    refine ⟨listEnded_called _ _ _ _, ?_, ?_⟩
    · rw [listEnded_machine]
      exact outstanding_of_underWay (h.without_underWay waits)
    · simp
  | abandoned waits list =>
    obtain ⟨origin, token, list⟩ := Waiting.exists_list_of_isList list
    rw [orderly.react_abandon waits list]
    exact ⟨rfl, outstanding_of_underWay (h.without_underWay waits), rfl⟩
  | noticed waits =>
    rw [react_notice waits]
    exact ⟨rfl, outstanding_of_underWay (h.noticed_underWay waits), rfl⟩

/-- The event adds this call to the list and the counter. -/
structure Adds (m : Machine) (e : Event) (w : Waiting) (r : Reaction) : Prop where
  called : r.called = some (w.number, .list)
  list : w.isList = true
  number : w.number = m.issued
  outstanding : r.machine.outstanding = m.outstanding ++ [w]
  counted : r.machine.roster.inFlight = m.roster.inFlight + 1
  tick : w.ofTick = true ↔ Ticks m e
  free : Ticks m e → m.roster.inFlight = 0

/-- The event leaves the list and the counter alone. -/
structure Spares (m : Machine) (e : Event) (r : Reaction) : Prop where
  called : ∀ number, r.called ≠ some (number, .list)
  outstanding : r.machine.outstanding.Perm m.outstanding
  counted : r.machine.roster.inFlight = m.roster.inFlight
  busy : Ticks m e → m.roster.inFlight ≠ 0

theorem Asks.outstanding_eq {origin : Origin} {caller : Option Nat} (h : Asks m e n origin caller)
    (numbered : m.Numbered) : n.outstanding = m.outstanding := by
  cases h with
  | refresh | tick | loop => rfl
  | @action w waits acts =>
    -- What leaves is the action, which is no list.
    rw [outstanding_of_underWay (numbered.without_underWay waits)]
    refine filter_number_eq_self fun v hv same => ?_
    obtain ⟨hv, list⟩ := mem_outstanding.mp hv
    obtain rfl := numbered.eq_of_number hv (List.mem_append_right _ waits) same
    simp [Waiting.isList, Waiting.token?, acts] at list

theorem Asks.ofTick_iff {origin : Origin} {caller : Option Nat} (h : Asks m e n origin caller)
    (number token : Nat) :
    Waiting.ofTick ⟨number, .list origin token, caller⟩ = true ↔ Ticks m e := by
  cases h with
  | refresh | action =>
    refine ⟨fun no => by simp [Waiting.ofTick] at no, fun ticks => ?_⟩
    cases ticks
  | tick caller => exact ⟨fun _ => .tick caller, fun _ => rfl⟩
  | loop due => exact ⟨fun _ => .loop due, fun _ => rfl⟩

theorem Asks.free {origin : Origin} {caller : Option Nat} (h : Asks m e n origin caller)
    (ticks : Ticks m e) : m.roster.inFlight = 0 := by
  cases h with
  | refresh | action => cases ticks
  | tick _ free | loop _ free => exact free

theorem Asks.adds {origin : Origin} {caller : Option Nat} (h : Asks m e n origin caller)
    (numbered : m.Numbered) :
    Adds m e ⟨m.issued, .list origin (m.roster.token + 1), caller⟩ (n.ask origin caller) where
  called := congrArg (fun number => some (number, Call.list)) h.issued_eq
  list := rfl
  number := rfl
  outstanding := by
    rw [ask, outstanding, issue_underWay, List.filter_append]
    rw [← h.outstanding_eq numbered, ← h.issued_eq, ← h.roster_eq]
    rfl
  counted := congrArg (fun r => inFlight r + 1) h.roster_eq
  tick := h.ofTick_iff _ _
  free := h.free

theorem Passes.spares {caller : Option Nat} (h : Passes m e n caller) :
    Spares m e (n.give caller .done []) where
  called := by simp [give]
  outstanding := by
    rw [give, outstanding, underWay, h.cancelled_eq, h.waiting_eq]
    exact .refl _
  counted := congrArg inFlight h.roster_eq
  busy _ := by cases h <;> assumption

/-- A tick calls at zero and passes otherwise. -/
theorem Ticks.react (h : Ticks m e) :
    (∃ n origin caller, Asks m e n origin caller ∧ m.react e = n.ask origin caller) ∨
      ∃ n caller, Passes m e n caller ∧ m.react e = n.give caller .done [] := by
  cases h with
  | tick caller =>
    by_cases free : m.roster.inFlight = 0
    · exact .inl ⟨m, _, _, .tick caller free, by simp [Machine.react, beginTick, free]⟩
    · exact .inr ⟨m, _, .tick caller free, by simp [Machine.react, beginTick, free]⟩
  | loop due =>
    by_cases free : m.roster.inFlight = 0
    · exact .inl ⟨_, _, _, .loop due free, by simp [Machine.react, beginTick, due, free]⟩
    · exact .inr ⟨_, _, .loop due free, by simp [Machine.react, beginTick, due, free]⟩

/-- Calls that end and are not for lists. -/
theorem Numbered.finish_spares (h : m.Numbered) (hw : w ∈ m.waiting) (other : w.token? = none)
    (idle : ¬ Ticks m e) (caller : Option Nat) (value : Value) :
    Spares m e ((m.without w).give caller value []) where
  called := by simp [give]
  outstanding := by
    refine .of_eq (Eq.trans (outstanding_of_underWay (h.without_underWay hw)) ?_)
    refine filter_number_eq_self fun v hv same => ?_
    obtain ⟨hv, list⟩ := mem_outstanding.mp hv
    obtain rfl := h.eq_of_number hv (List.mem_append_right _ hw) same
    simp [Waiting.isList, other] at list
  counted := rfl
  busy ticks := absurd ticks idle

/-- An event ends a call for a list, makes one, or does neither. -/
theorem Numbered.react_outstanding (h : m.Numbered) (orderly : m.Orderly) (e : Event) :
    (∃ w, Ends m e w ∧ Takes m w (m.react e)) ∨ (∃ w, Adds m e w (m.react e)) ∨
      (Spares m e (m.react e) ∧ ∀ w, ¬ Ends m e w) := by
  by_cases ended : ∃ w, Ends m e w
  · obtain ⟨w, ends⟩ := ended
    exact .inl ⟨w, ends, ends.takes orderly h⟩
  have silent : ∀ w, ¬ Ends m e w := fun w ends => ended ⟨w, ends⟩
  by_cases idle : Ticks m e
  · rcases idle.react with ⟨n, origin, caller, asks, eq⟩ | ⟨n, caller, passes, eq⟩
    · exact .inr (.inl ⟨_, eq ▸ asks.adds h⟩)
    · exact .inr (.inr ⟨eq ▸ passes.spares, silent⟩)
  have reacts := m.reacts e
  generalize m.react e = r at reacts ⊢
  cases reacts with
  | ask asks => exact .inr (.inl ⟨_, asks.adds h⟩)
  | issue issues =>
    refine .inr (.inr ⟨⟨?_, ?_, rfl, fun ticks => absurd ticks idle⟩, silent⟩)
    · cases issues <;> simp [Machine.issue]
    · rw [outstanding, issue_underWay, List.filter_append]
      cases issues <;> simp [outstanding, Waiting.isList, Waiting.token?]
  | listed answer waits list =>
    exact absurd (Ends.listed answer waits (Waiting.isList_of_list list)) (silent _)
  | withdraw waits list =>
    exact absurd (Ends.abandoned waits (Waiting.isList_of_list list)) (silent _)
  | notice waits => exact absurd (Ends.noticed waits) (silent _)
  | finish waits finishes =>
    exact .inr (.inr ⟨h.finish_spares waits finishes.token? idle _ _, silent⟩)
  | pass passes => exact .inr (.inr ⟨passes.spares, silent⟩)
  | close =>
    refine .inr (.inr ⟨⟨by simp [quiet], ?_, rfl, fun ticks => absurd ticks idle⟩, silent⟩)
    exact m.close_underWay.filter _
  | startPolling | wake | ignore =>
    exact .inr (.inr ⟨⟨by simp [quiet], .refl _, rfl, fun ticks => absurd ticks idle⟩, silent⟩)

end Outstanding

/-! ### The counter -/

section Counter
variable {m : Machine} {e : Event} {w : Waiting}

/-- The roster counts the calls for lists that have not ended, and at most one of them is a tick's. -/
structure Balanced (m : Machine) : Prop where
  orderly : m.Orderly
  numbered : m.Numbered
  counted : m.roster.inFlight = m.outstanding.length
  single : m.outstanding.countP Waiting.ofTick ≤ 1

theorem balanced_initial : Balanced .initial :=
  ⟨orderly_initial, numbered_initial, rfl, by decide⟩

theorem Numbered.length_outstanding (h : m.Numbered) (hw : w ∈ m.outstanding) :
    m.outstanding.length = (m.outstanding.filter fun v => v.number != w.number).length + 1 := by
  have apart : (m.outstanding.map Waiting.number).Nodup :=
    h.apart.sublist (List.filter_sublist.map _)
  have once := List.count_eq_one_of_mem apart (List.mem_map_of_mem hw)
  rw [List.count, List.countP_map] at once
  rw [List.length_eq_countP_add_countP (fun v => v.number == w.number), ← List.countP_eq_length_filter]
  simp only [Function.comp_def] at once
  rw [once, Nat.add_comm, Nat.add_right_cancel_iff]
  exact List.countP_congr fun v _ => by simp

theorem Balanced.react (h : m.Balanced) (e : Event) : (m.react e).machine.Balanced := by
  have orderly := h.orderly.react e
  have numbered := h.numbered.react e
  rcases h.numbered.react_outstanding h.orderly e with
    ⟨w, ends, takes⟩ | ⟨w, adds⟩ | ⟨spares, -⟩
  · refine ⟨orderly, numbered, ?_, ?_⟩
    · have fewer := h.numbered.length_outstanding (ends.mem_outstanding h.numbered)
      rw [takes.counted, takes.outstanding, h.counted, fewer, Nat.add_sub_cancel]
    · rw [takes.outstanding]
      exact Nat.le_trans (List.filter_sublist.countP_le) h.single
  · refine ⟨orderly, numbered, ?_, ?_⟩
    · rw [adds.counted, adds.outstanding, h.counted, List.length_append, List.length_singleton]
    · rw [adds.outstanding, List.countP_append, List.countP_singleton]
      split
      · rename_i tick
        -- A tick calls when there is nothing on the list.
        have free := adds.free (adds.tick.mp tick)
        rw [h.counted] at free
        rw [List.eq_nil_of_length_eq_zero free]
        simp
      · exact h.single
  · refine ⟨orderly, numbered, ?_, ?_⟩
    · rw [spares.counted, h.counted, spares.outstanding.length_eq]
    · rw [spares.outstanding.countP_eq]
      exact h.single

end Counter

end Machine

theorem reached_balanced (es : List Event) : (reached es).Balanced :=
  Run.after_of_preserved (fun _ e h => h.react e) Machine.balanced_initial es

/-! ### Calls of a run -/

namespace Step

/-- The step ends the call for a list of this number. -/
def Ends (s : Step) (number : Nat) : Prop := ∃ w, s.before.Ends s.event w ∧ w.number = number

/-- The step is one of a tick that gets to run. -/
def Ticks (s : Step) : Prop := s.before.Ticks s.event

end Step

/-- The step makes the call for a list of this number, and no later step ends the call. -/
def Unended (h : List Step) (s : Step) (number : Nat) : Prop :=
  ∃ earlier later, h = earlier ++ s :: later ∧ s.reaction.called = some (number, .list) ∧
    ∀ u ∈ later, ¬ u.Ends number

theorem unended_append_singleton {h : List Step} {u s : Step} {number : Nat} :
    Unended (h ++ [u]) s number ↔
      (Unended h s number ∧ ¬ u.Ends number) ∨
        (s = u ∧ u.reaction.called = some (number, .list)) := by
  constructor
  · rintro ⟨earlier, later, split, called, stays⟩
    rcases List.eq_nil_or_concat' later with rfl | ⟨later, v, rfl⟩
    · obtain ⟨rfl, last⟩ := List.append_inj' split rfl
      obtain rfl := (List.cons.inj last).1
      exact .inr ⟨rfl, called⟩
    · rw [← List.cons_append, ← List.append_assoc] at split
      obtain ⟨rfl, last⟩ := List.append_inj' split rfl
      obtain rfl := (List.cons.inj last).1
      refine .inl ⟨⟨earlier, later, rfl, called, fun v hv => ?_⟩, ?_⟩
      · exact stays v (List.mem_append_left _ hv)
      · exact stays u (List.mem_append_right _ (List.mem_singleton_self _))
  · rintro (⟨⟨earlier, later, rfl, called, stays⟩, last⟩ | ⟨rfl, called⟩)
    · refine ⟨earlier, later ++ [u], by simp, called, fun v hv => ?_⟩
      rcases List.mem_append.mp hv with hv | hv
      · exact stays v hv
      · exact List.mem_singleton.mp hv ▸ last
    · exact ⟨h, [], rfl, called, by simp⟩

namespace Machine.Balanced
variable {m : Machine} {e : Event} {w : Waiting}

theorem mem_react (h : m.Balanced) (hw : w ∈ (m.react e).machine.outstanding) :
    (w ∈ m.outstanding ∧ ¬ Step.Ends ⟨m, e, m.react e⟩ w.number) ∨ Adds m e w (m.react e) := by
  have stays : ¬ Step.Ends ⟨m, e, m.react e⟩ w.number := by
    rintro ⟨v, ends, same⟩
    rw [(ends.takes h.orderly h.numbered).outstanding] at hw
    simp [same] at hw
  rcases h.numbered.react_outstanding h.orderly e with
    ⟨v, -, takes⟩ | ⟨v, adds⟩ | ⟨spares, -⟩
  · rw [takes.outstanding] at hw
    exact .inl ⟨(List.mem_filter.mp hw).1, stays⟩
  · rw [adds.outstanding] at hw
    rcases List.mem_append.mp hw with hw | hw
    · exact .inl ⟨hw, stays⟩
    · exact .inr (List.mem_singleton.mp hw ▸ adds)
  · exact .inl ⟨spares.outstanding.mem_iff.mp hw, stays⟩

theorem mem_react_of_stays (h : m.Balanced) (hw : w ∈ m.outstanding)
    (stays : ¬ Step.Ends ⟨m, e, m.react e⟩ w.number) : w ∈ (m.react e).machine.outstanding := by
  rcases h.numbered.react_outstanding h.orderly e with
    ⟨v, ends, takes⟩ | ⟨v, adds⟩ | ⟨spares, -⟩
  · rw [takes.outstanding]
    have other : w.number ≠ v.number := fun same => stays ⟨v, ends, same.symm⟩
    exact List.mem_filter.mpr ⟨hw, by simpa using other⟩
  · exact adds.outstanding ▸ List.mem_append_left _ hw
  · exact spares.outstanding.mem_iff.mpr hw

theorem adds_of_called (h : m.Balanced) {number : Nat}
    (called : (m.react e).called = some (number, .list)) :
    ∃ w, w.number = number ∧ Adds m e w (m.react e) := by
  rcases h.numbered.react_outstanding h.orderly e with
    ⟨v, -, takes⟩ | ⟨v, adds⟩ | ⟨spares, -⟩
  · rw [takes.called] at called
    cases called
  · rw [adds.called] at called
    exact ⟨v, (Prod.mk.inj (Option.some.inj called)).1, adds⟩
  · exact absurd called (spares.called number)

end Machine.Balanced

section Unended
variable {es : List Event} {s : Step} {w : Waiting} {number : Nat}

theorem unended_of_outstanding (hw : w ∈ (reached es).outstanding) :
    ∃ s, Unended (history es) s w.number ∧ (w.ofTick = true ↔ s.Ticks) := by
  induction es using List.reverseRecOn with
  | nil => cases hw
  | append_singleton es e ih =>
    rw [reached_append_singleton] at hw
    rw [history_append_singleton]
    rcases (reached_balanced es).mem_react hw with ⟨hw, stays⟩ | adds
    · obtain ⟨s, unended, tick⟩ := ih hw
      exact ⟨s, unended_append_singleton.mpr (.inl ⟨unended, stays⟩), tick⟩
    · exact ⟨_, unended_append_singleton.mpr (.inr ⟨rfl, adds.called⟩), adds.tick⟩

theorem Unended.outstanding (h : Unended (history es) s number) :
    ∃ w ∈ (reached es).outstanding, w.number = number ∧ (w.ofTick = true ↔ s.Ticks) := by
  induction es using List.reverseRecOn with
  | nil =>
    obtain ⟨earlier, later, split, -⟩ := h
    simp [history, Run.steps] at split
  | append_singleton es e ih =>
    rw [history_append_singleton] at h
    rw [reached_append_singleton]
    rcases unended_append_singleton.mp h with ⟨old, stays⟩ | ⟨rfl, called⟩
    · obtain ⟨w, hw, rfl, tick⟩ := ih old
      exact ⟨w, (reached_balanced es).mem_react_of_stays hw stays, rfl, tick⟩
    · obtain ⟨w, rfl, adds⟩ := (reached_balanced es).adds_of_called called
      rw [adds.outstanding]
      exact ⟨w, List.mem_append_right _ (List.mem_singleton_self _), rfl, adds.tick⟩

theorem exists_unended_iff :
    (∃ s, Unended (history es) s number) ↔
      number ∈ (reached es).outstanding.map Waiting.number := by
  constructor
  · rintro ⟨s, unended⟩
    obtain ⟨w, hw, rfl, -⟩ := unended.outstanding
    exact List.mem_map_of_mem hw
  · intro listed
    obtain ⟨w, hw, rfl⟩ := List.mem_map.mp listed
    obtain ⟨s, unended, -⟩ := unended_of_outstanding hw
    exact ⟨s, unended⟩

theorem inFlight_eq_zero_iff :
    (reached es).roster.inFlight = 0 ↔ ∀ s number, ¬ Unended (history es) s number := by
  rw [(reached_balanced es).counted, List.length_eq_zero_iff, List.eq_nil_iff_forall_not_mem]
  constructor
  · intro none s number unended
    obtain ⟨w, hw, -⟩ := unended.outstanding
    exact none w hw
  · intro none w hw
    obtain ⟨s, unended, -⟩ := unended_of_outstanding hw
    exact none s _ unended

theorem Unended.eq_of_ticks {s' : Step} {number' : Nat} (h : Unended (history es) s number)
    (h' : Unended (history es) s' number') (ticks : s.Ticks) (ticks' : s'.Ticks) :
    number = number' := by
  obtain ⟨w, hw, rfl, tick⟩ := h.outstanding
  obtain ⟨w', hw', rfl, tick'⟩ := h'.outstanding
  have single := (reached_balanced es).single
  rw [List.countP_eq_length_filter] at single
  have listed := List.mem_filter.mpr ⟨hw, tick.mpr ticks⟩
  have listed' := List.mem_filter.mpr ⟨hw', tick'.mpr ticks'⟩
  generalize (reached es).outstanding.filter Waiting.ofTick = ws at single listed listed'
  match ws with
  | [v] => rw [List.mem_singleton.mp listed, List.mem_singleton.mp listed']

theorem ticks_asks_iff {e : Event} (ticks : (reached es).Ticks e) :
    (∃ number, ((reached es).react e).called = some (number, .list)) ↔
      (reached es).roster.inFlight = 0 := by
  constructor
  · rintro ⟨number, called⟩
    obtain ⟨w, -, adds⟩ := (reached_balanced es).adds_of_called called
    exact adds.free ticks
  · intro free
    rcases ticks.react with ⟨n, origin, caller, asks, eq⟩ | ⟨n, caller, passes, -⟩
    · exact ⟨n.issued, by rw [eq]; rfl⟩
    · exact absurd free (passes.spares.busy ticks)

end Unended

/-- What the counter of a roster guarantees after any run, whatever event comes next. -/
structure Counted (es : List Event) : Prop where
  /-- The counter is the number of the calls for lists that the run has made and that have not
  ended. -/
  counted : ∃ numbers : List Nat, numbers.Nodup ∧
    (∀ number, number ∈ numbers ↔ ∃ s, Unended (history es) s number) ∧
    (reached es).roster.inFlight = numbers.length
  idle : (reached es).roster.inFlight = 0 ↔ ∀ s number, ¬ Unended (history es) s number
  made : ∀ e number, ((reached es).react e).called = some (number, .list) →
    ((reached es).react e).machine.roster.inFlight = (reached es).roster.inFlight + 1
  /-- No call ends at zero, so that the counter need never go below. -/
  ended : ∀ e w, (reached es).Ends e w →
    (reached es).roster.inFlight = ((reached es).react e).machine.roster.inFlight + 1
  kept : ∀ e, (∀ number, ((reached es).react e).called ≠ some (number, .list)) →
    (∀ w, ¬ (reached es).Ends e w) →
      ((reached es).react e).machine.roster.inFlight = (reached es).roster.inFlight
  /-- A tick that gets to run makes a call exactly if no call for a list is under way. -/
  tick : ∀ e, (reached es).Ticks e →
    ((∃ number, ((reached es).react e).called = some (number, .list)) ↔
      ∀ s number, ¬ Unended (history es) s number)
  single : ∀ s s' number number', Unended (history es) s number →
    Unended (history es) s' number' → s.Ticks → s'.Ticks → number = number'

theorem lists_counted (es : List Event) : Counted es := by
  have balanced := reached_balanced es
  refine ⟨?_, inFlight_eq_zero_iff, ?_, ?_, ?_, ?_, ?_⟩
  · refine ⟨(reached es).outstanding.map Waiting.number,
      balanced.numbered.apart.sublist (List.filter_sublist.map _),
      fun number => exists_unended_iff.symm, ?_⟩
    rw [balanced.counted, List.length_map]
  · intro e number called
    obtain ⟨w, -, adds⟩ := balanced.adds_of_called called
    exact adds.counted
  · intro e w ends
    have fewer := balanced.numbered.length_outstanding (ends.mem_outstanding balanced.numbered)
    have takes := ends.takes balanced.orderly balanced.numbered
    rw [takes.counted, balanced.counted, fewer, Nat.add_sub_cancel]
  · intro e silent kept
    rcases balanced.numbered.react_outstanding balanced.orderly e with
      ⟨w, ends, -⟩ | ⟨w, adds⟩ | ⟨spares, -⟩
    · exact absurd ends (kept w)
    · exact absurd adds.called (silent _)
    · exact spares.counted
  · intro e ticks
    rw [ticks_asks_iff ticks, inFlight_eq_zero_iff]
  · intro s s' number number' unended unended' ticks ticks'
    exact unended.eq_of_ticks unended' ticks ticks'

/-- An older list outlives a newer one, and ticks that come due meanwhile pass. -/
example :
    let es := [.startPolling, .wake, .beginTick, .refresh 0, .listed 1 (.ok []), .wake, .beginTick]
    (reached es).roster.inFlight = 1 ∧ (reached es).issued = 2 := by decide

end DevEnv.Roster
