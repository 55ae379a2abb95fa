import DevEnv.Proofs.Roster.Tasks

/-!
What starting and closing do to the polling of a roster. Once polling has been closed, and until it is
started again, no tick calls, and the answers to calls that ticks had made come to nothing at all. What
callers ask for is heard nevertheless. A loop that is started makes a tick at once, and the tick calls
unless a call for a list is under way.
-/

namespace DevEnv.Roster

set_option autoImplicit false

open Machine (ofLoop)

/-! ### What callers ask for -/

/-- The call that an event of a caller or of the engine is about. -/
def Event.about? : Event → Option Nat
  | .abandon number | .listed number _ | .detailed number _ | .acted number _ => some number
  | _ => none

/-- A caller asks for a list, by a refresh or by an action that has succeeded. -/
inductive Event.Requests : Event → Prop
  | refresh (caller : Nat) : Requests (.refresh caller)
  | acted (number : Nat) : Requests (.acted number (.ok ()))

theorem Event.isOutside_of_about {e : Event} {number : Nat} (about : e.about? = some number) :
    e.isOutside = true := by
  cases e with
  | abandon | listed | detailed | acted => rfl
  | refresh | tick | inspect | act | startPolling | wake | beginTick | close | notice => cases about

theorem Event.Requests.isOutside {e : Event} (h : e.Requests) : e.isOutside = true := by
  cases h <;> rfl

/-- The turn is about this call. -/
inductive Turn.Concerns (number : Nat) : Turn → Prop
  | outside {e : Event} (about : e.about? = some number) : Concerns number (.outside e)

/-- A caller asks for a list at this turn. -/
inductive Turn.Requests : Turn → Prop
  | outside {e : Event} (requests : e.Requests) : Requests (.outside e)

namespace Machine
variable {m : Machine} {e : Event} {w : Waiting}

/-- A caller's call waits until an event is about it. -/
theorem mem_react_of_caller (hw : w ∈ m.waiting) (caller : ofLoop w = false)
    (other : e.about? ≠ some w.number) : w ∈ (m.react e).machine.waiting := by
  have stays {v : Waiting} (about : e.about? = some v.number) : w ∈ (m.without v).waiting := by
    refine List.mem_filter.mpr ⟨hw, ?_⟩
    have differ : w.number ≠ v.number := fun same => other (same ▸ about)
    simpa using differ
  have reacts := m.reacts e
  generalize m.react e = r at reacts ⊢
  cases reacts with
  | ask asks =>
    refine List.mem_append_left _ ?_
    cases asks with
    | action => exact stays rfl
    | refresh | tick | loop => exact hw
  | issue => exact List.mem_append_left _ hw
  | listed =>
    rw [listEnded_machine]
    exact stays rfl
  | withdraw => exact stays rfl
  | finish _ finishes => cases finishes <;> exact stays rfl
  | pass passes =>
    rw [show (Machine.give _ _ _ _).machine.waiting = m.waiting from passes.waiting_eq]
    exact hw
  | close => exact List.mem_filter.mpr ⟨hw, by simp [caller]⟩
  | startPolling | wake | notice | ignore => exact hw

/-- No call of this number waits any more, nor will one ever. -/
structure Gone (call : Nat) (m : Machine) : Prop where
  issued : call < m.issued
  absent : ∀ w ∈ m.waiting, w.number ≠ call

theorem Gone.react {call : Nat} (h : m.Gone call) (e : Event) : (m.react e).machine.Gone call where
  issued := Nat.lt_of_lt_of_le h.issued (m.issued_le_react e)
  absent := by
    intro w hw
    rcases mem_waiting_react hw with old | ⟨number, -⟩
    · exact h.absent w old
    · exact number ▸ Nat.ne_of_gt h.issued

theorem Gone.react_listed {call : Nat} (h : m.Gone call)
    (answer : Except Failure (List Container)) : m.react (.listed call answer) = m.quiet := by
  have missing : m.waiting.find? (fun w => w.number == call) = none :=
    List.find?_eq_none.mpr fun w hw => by simpa using h.absent w hw
  simp only [Machine.react, missing]

/-- Ticks ask for nothing while a call for a list waits. -/
theorem Balanced.react_token (h : m.Balanced) (hw : w ∈ m.waiting) (list : w.isList = true)
    (quiet : ¬ e.Requests) : (m.react e).machine.roster.token = m.roster.token := by
  have busy : m.roster.inFlight ≠ 0 := by
    rw [h.counted]
    exact Nat.ne_of_gt (List.length_pos_of_mem
      (mem_outstanding.mpr ⟨List.mem_append_right _ hw, list⟩))
  have reacts := m.reacts e
  generalize m.react e = r at reacts ⊢
  cases reacts with
  | ask asks =>
    cases asks with
    | refresh caller => exact absurd (.refresh caller) quiet
    | action => exact absurd (.acted _) quiet
    | tick _ free | loop _ free => exact absurd free busy
  | listed answer => simp
  | pass passes => exact congrArg token passes.roster_eq
  | issue | withdraw | finish | startPolling | wake | close | notice | ignore => rfl

end Machine

namespace Tasks

variable {s : Tasks} {turn : Turn} {closing call loop tick : Nat} {w : Waiting}

/-- What every turn that may come keeps, turns that come keep. -/
theorem after_of_forall {P : Tasks → Prop} {E : Turn → Prop}
    (keeps : ∀ n turn, E turn → P n → P (n.react turn).tasks) (h : P s) {turns : List Turn}
    (may : ∀ turn ∈ turns, E turn) : P (Run.after Tasks.react Response.tasks s turns) :=
  Run.after_of_forall keeps h may

/-! ### Closing -/

theorem Sound.live_length_le_one (h : s.Sound) :
    (s.loops.filter fun l => !l.cancelled).length ≤ 1 := by
  have apart : ((s.loops.filter fun l => !l.cancelled).map Loop.number).Nodup :=
    h.loops.sublist (List.filter_sublist.map _)
  have held : ∀ l ∈ s.loops.filter fun l => !l.cancelled, s.held = some l.number := by
    intro l hl
    obtain ⟨hl, live⟩ := List.mem_filter.mp hl
    exact h.live l hl (by simpa using live)
  -- Two such loops would both be the one that is held, and have one number.
  generalize (s.loops.filter fun l => !l.cancelled) = ls at apart held
  match ls with
  | [] | [_] => simp
  | l :: l' :: _ =>
    have same := (held l (by simp)).symm.trans (held l' (by simp))
    simp [Option.some.inj same] at apart

/-- Nothing is left that could make a tick or call, and what this closing waits for includes every tick
that is left. -/
structure Stilled (closing : Nat) (s : Tasks) : Prop where
  held : s.held = none
  loops : ∀ l ∈ s.loops, l.cancelled = true
  ticks : ∀ t ∈ s.ticks, t.cancelled = true
  before : closing < s.created
  listed : ∀ c ∈ s.closings, c.number = closing → ∀ t ∈ s.ticks, t.number ∈ c.tasks

theorem Sound.stilled_close (h : s.Sound) : s.close.Stilled s.created where
  held := rfl
  loops := by
    rintro _ hl
    obtain ⟨l, old, rfl⟩ := List.mem_map.mp hl
    cases live : l.cancelled with
    | true => simp
    | false => simp [h.live l old live]
  ticks := by
    rintro _ ht
    obtain ⟨t, old, rfl⟩ := List.mem_map.mp ht
    rfl
  before := Nat.lt_succ_self _
  listed := by
    rintro c hc number _ ht
    obtain ⟨t, old, rfl⟩ := List.mem_map.mp ht
    rcases List.mem_append.mp hc with hc | hc
    · exact absurd number (Nat.ne_of_lt (h.closingsBefore c hc))
    · rw [List.mem_singleton.mp hc]
      exact List.mem_append_left _ (List.mem_map.mpr ⟨t, old, rfl⟩)

namespace Stilled

theorem fewer (h : s.Stilled closing) {ticks : List Tick} (fewer : ∀ t ∈ ticks, t ∈ s.ticks) :
    { s with ticks := ticks }.Stilled closing :=
  { h with
    ticks := fun t ht => h.ticks t (fewer t ht)
    listed := fun c hc number t ht => h.listed c hc number t (fewer t ht) }

theorem not_live (h : s.Stilled closing) {l : Loop} (hl : l ∈ s.loops) : l.cancelled ≠ false := by
  simp [h.loops l hl]

theorem not_due (h : s.Stilled closing) {t : Tick} (ht : t ∈ s.ticks) : t.isDue ≠ true := by
  simp [Tick.isDue, h.ticks t ht]

theorem close (h : s.Stilled closing) : s.close.Stilled closing where
  held := rfl
  loops := by
    rintro _ hl
    obtain ⟨l, old, rfl⟩ := List.mem_map.mp hl
    simp [h.loops l old]
  ticks := by
    rintro _ ht
    obtain ⟨t, old, rfl⟩ := List.mem_map.mp ht
    rfl
  before := Nat.lt_succ_of_lt h.before
  listed := by
    rintro c hc number _ ht
    obtain ⟨t, old, rfl⟩ := List.mem_map.mp ht
    rcases List.mem_append.mp hc with hc | hc
    · exact h.listed c hc number t old
    · rw [List.mem_singleton.mp hc] at number
      exact absurd number (Nat.ne_of_gt h.before)

/-- Nothing starts by itself, and nothing that has ended comes back. -/
theorem react (h : s.Stilled closing) (goesOn : turn ≠ .startPolling) :
    (s.react turn).tasks.Stilled closing ∧
      (s.ticks = [] → (s.react turn).tasks.ticks = []) := by
  obtain ⟨e, goes⟩ := s.goes turn
  generalize s.react turn = r at goes ⊢
  cases goes with
  | @outside e =>
    have followed : (s.follow (s.machine.react e)).tasks.Stilled closing := { h with }
    refine ⟨followed.fewer fun t ht => (List.mem_filter.mp ht).1, fun none => ?_⟩
    simp [endTicks, follow, none]
  | startPolling => exact absurd rfl goesOn
  | make hl live => exact absurd live (h.not_live hl)
  | call ht due | pass ht due => exact absurd due (h.not_due ht)
  | close => exact ⟨h.close, fun none => by simp [Tasks.close, quiet, none]⟩
  | @endCall t call ht =>
    have ended : (s.withoutTick t).Stilled closing := h.fewer fun u => List.mem_of_mem_erase
    exact ⟨{ ended with }, fun none => by simp [withoutTick, follow, none]⟩
  | endTick =>
    exact ⟨h.fewer fun u => List.mem_of_mem_erase, fun none => by simp [withoutTick, quiet, none]⟩
  | endLoop loop => exact ⟨{ h with loops := fun l hl => h.loops l (List.mem_filter.mp hl).1 }, id⟩
  | closed => exact ⟨{ h with listed := fun c hc => h.listed c (List.mem_of_mem_erase hc) }, id⟩
  | idle => exact ⟨h, id⟩

theorem after (h : s.Stilled closing) {turns : List Turn} (goesOn : .startPolling ∉ turns) :
    (Run.after Tasks.react Response.tasks s turns).Stilled closing ∧
      (s.ticks = [] → (Run.after Tasks.react Response.tasks s turns).ticks = []) := by
  refine after_of_forall (P := fun n => n.Stilled closing ∧ (s.ticks = [] → n.ticks = []))
    (E := (· ≠ .startPolling)) (fun n turn other hn => ?_) ⟨h, id⟩
    fun turn hturn same => goesOn (same ▸ hturn)
  obtain ⟨stilled, none⟩ := hn.1.react other
  exact ⟨stilled, fun empty => none (hn.2 empty)⟩

theorem outside_of_called (h : s.Stilled closing) {c : Nat × Call}
    (called : (s.react turn).called = some c) : ∃ e, turn = .outside e := by
  obtain ⟨e, goes⟩ := s.goes turn
  generalize s.react turn = r at goes called
  cases goes with
  | @outside e => exact ⟨e, rfl⟩
  | make hl live => exact absurd live (h.not_live hl)
  | call ht due | pass ht due => exact absurd due (h.not_due ht)
  | @endCall t call =>
    have silent : (s.machine.react (.notice call)).called = some c := called
    rw [Machine.react_notice_called] at silent
    cases silent
  | startPolling | close | endTick | endLoop | closed | idle => cases called

/-- A closing returns when no tick is left. -/
theorem ticks_of_closed (h : s.Stilled closing)
    (returned : (s.react (.closed closing)).closed = some closing) : s.ticks = [] := by
  obtain ⟨e, goes⟩ := s.goes (.closed closing)
  generalize s.react (.closed closing) = r at goes returned
  generalize eq : Turn.closed closing = turn at goes
  cases goes with
  | @closed c hc ended =>
    cases eq
    refine List.eq_nil_iff_forall_not_mem.mpr fun t ht => ?_
    have past := ended _ (h.listed c hc rfl t ht)
    rw [hasEnded, Bool.and_eq_true, List.all_eq_true, List.all_eq_true] at past
    simpa using past.2 t ht
  | _ => cases returned

end Stilled

theorem Sound.cancelled_eq_nil (h : s.Sound) (none : s.ticks = []) : s.cancelled = [] := by
  refine List.eq_nil_iff_forall_not_mem.mpr fun w hw => ?_
  obtain ⟨t, ht, -⟩ := h.givenUp w hw
  simp [none] at ht

/-! ### Calls of ticks that were cancelled -/

theorem Sound.gone_close (h : s.Sound) {t : Tick} (ht : t ∈ s.ticks) (waits : t.call = some call) :
    s.close.machine.Gone call where
  issued := h.calls t ht call waits
  absent := by
    rintro w hw rfl
    have free : s.awaited w = false := by simpa using (List.mem_filter.mp hw).2
    rw [awaited_iff.mpr ⟨t, ht, Tick.awaits_iff.mpr waits⟩] at free
    cases free

theorem Runs.gone_after (h : s.Runs) (gone : s.machine.Gone call) (turns : List Turn) :
    (Run.after Tasks.react Response.tasks s turns).machine.Gone call := by
  have kept := after_of_forall (P := fun n => n.Runs ∧ n.machine.Gone call) (E := fun _ => True)
    (fun n turn _ hn => ⟨hn.1.react turn, hn.1.sound.machine_react hn.2 fun d _ => hn.2.react d⟩)
    ⟨h, gone⟩ fun turn (_ : turn ∈ turns) => trivial
  exact kept.2

/-- The answer to such a call changes nothing that is shown and reaches nobody. -/
theorem react_listed_of_gone (h : s.machine.Gone call) (answer : Except Failure (List Container)) :
    (s.react (.outside (.listed call answer))).tasks.roster = s.roster ∧
      (s.react (.outside (.listed call answer))).called = none ∧
      (s.react (.outside (.listed call answer))).returned = none ∧
      (s.react (.outside (.listed call answer))).log = [] := by
  rw [show s.react (.outside (.listed call answer)) =
    endTicks (s.follow (s.machine.react (.listed call answer))) from rfl, h.react_listed]
  exact ⟨rfl, rfl, rfl, rfl⟩

/-! ### Calls of callers -/

theorem Sound.mem_react_of_caller (h : s.Sound) (hw : w ∈ s.waiting) (caller : ofLoop w = false)
    (other : ¬ turn.Concerns w.number) : w ∈ (s.react turn).tasks.waiting := by
  refine h.machine_react (P := fun m => w ∈ m.waiting) hw fun d its => ?_
  refine Machine.mem_react_of_caller hw caller fun about => other ?_
  rw [its (Event.isOutside_of_about about)]
  exact .outside about

theorem Runs.token_react (h : s.Runs) (hw : w ∈ s.waiting) (list : w.isList = true)
    (quiet : ¬ turn.Requests) : (s.react turn).tasks.roster.token = s.roster.token := by
  refine h.sound.machine_react (P := fun m => m.roster.token = s.roster.token) rfl fun d its => ?_
  refine h.balanced.react_token hw list fun requests => quiet ?_
  rw [its requests.isOutside]
  exact .outside requests

theorem Runs.mem_after_of_caller (h : s.Runs) (hw : w ∈ s.waiting) (caller : ofLoop w = false)
    {turns : List Turn} (other : ∀ turn ∈ turns, ¬ turn.Concerns w.number) :
    w ∈ (Run.after Tasks.react Response.tasks s turns).waiting := by
  have kept := after_of_forall (P := fun n => n.Runs ∧ w ∈ n.waiting)
    (E := fun turn => ¬ turn.Concerns w.number)
    (fun n turn other hn => ⟨hn.1.react turn, hn.1.sound.mem_react_of_caller hn.2 caller other⟩)
    ⟨h, hw⟩ other
  exact kept.2

/-- The latest list that a caller has asked for is the latest until callers ask for another. -/
theorem Runs.latest_after_of_caller (h : s.Runs) (hw : w ∈ s.waiting) (caller : ofLoop w = false)
    (latest : w.token? = some s.roster.token) {turns : List Turn}
    (other : ∀ turn ∈ turns, ¬ turn.Concerns w.number) (quiet : ∀ turn ∈ turns, ¬ turn.Requests) :
    (Run.after Tasks.react Response.tasks s turns).roster.token = s.roster.token := by
  have list : w.isList = true := by simp [Waiting.isList, latest]
  have kept := after_of_forall
    (P := fun n => n.Runs ∧ w ∈ n.waiting ∧ n.roster.token = s.roster.token)
    (E := fun turn => ¬ turn.Concerns w.number ∧ ¬ turn.Requests)
    (fun n turn hturn hn => ⟨hn.1.react turn, hn.1.sound.mem_react_of_caller hn.2.1 caller hturn.1,
      (hn.1.token_react hn.2.1 list hturn.2).trans hn.2.2⟩) ⟨h, hw, rfl⟩
    fun turn hturn => ⟨other turn hturn, quiet turn hturn⟩
  exact kept.2.2

theorem Runs.react_listed (h : s.Runs) (hw : w ∈ s.waiting) {origin : Origin} {token : Nat}
    (list : w.purpose = .list origin token) (answer : Except Failure (List Container)) :
    (s.react (.outside (.listed w.number answer))).tasks.roster = s.roster.receive token answer := by
  change (s.machine.react (.listed w.number answer)).machine.roster = _
  rw [h.orderly.react_listed hw list, Machine.listEnded_machine]
  rfl

/-- The answer to the latest call for a list is shown. -/
theorem Runs.shows_listed (h : s.Runs) (hw : w ∈ s.waiting)
    (latest : w.token? = some s.roster.token) (answer : Except Failure (List Container)) :
    Shows (s.react (.outside (.listed w.number answer))).tasks.roster answer := by
  obtain ⟨origin, list⟩ := Waiting.exists_list_of_token? latest
  rw [h.react_listed hw list, receive_latest]
  rcases answer with (_ | _) | _
  · rfl
  · trivial
  · exact ⟨rfl, rfl⟩

/-- A list that a caller asks for is the latest when it leaves. -/
theorem Runs.exists_asked (h : s.Runs) {e : Event} {number : Nat}
    (called : (s.react (.outside e)).called = some (number, .list)) :
    ∃ w ∈ (s.react (.outside e)).tasks.waiting, w.number = number ∧ ofLoop w = false ∧
      w.token? = some (s.react (.outside e)).tasks.roster.token := by
  simp only [Tasks.react] at called ⊢
  split at called
  · rename_i outside
    rw [if_pos outside]
    rcases s.machine.react_token e with ⟨w, hw, token, asks, next⟩ | ⟨-, silent⟩
    · refine ⟨w, hw, ?_, ?_, token.trans (congrArg some next.symm)⟩
      · have same := asks.symm.trans called
        exact (Prod.mk.inj (Option.some.inj same)).1
      · -- The token is new, so the call is none that had been waiting.
        rcases Machine.mem_waiting_react hw with old | ⟨-, other⟩
        · have known := h.orderly.tokens w old _ token
          exact absurd known (Nat.not_succ_le_self _)
        · exact other outside
    · exact absurd called (silent number)
  · cases called

theorem Runs.acted_called (h : s.Runs) (hw : w ∈ s.waiting) (acts : w.purpose = .act) :
    (s.react (.outside (.acted w.number (.ok ())))).called = some (s.issued, .list) := by
  change (s.machine.react (.acted w.number (.ok ()))).called = _
  rw [h.orderly.react_acted_ok hw acts]
  rfl

/-! ### Starting again -/

theorem mem_loops_startPolling (unheld : s.held = none) :
    ⟨s.created, false, false⟩ ∈ (s.react .startPolling).tasks.loops := by
  simp only [react, unheld]
  exact List.mem_append_right _ (List.mem_singleton_self _)

/-- A loop that has not begun stays so until it begins or is closed. -/
theorem Sound.mem_loops_react (h : s.Sound) (hl : ⟨loop, false, false⟩ ∈ s.loops)
    (goesOn : turn ≠ .close) (waits : turn ≠ .begin loop) :
    ⟨loop, false, false⟩ ∈ (s.react turn).tasks.loops := by
  obtain ⟨e, goes⟩ := s.goes turn
  generalize s.react turn = r at goes ⊢
  cases goes with
  | startPolling => exact List.mem_append_left _ hl
  | @make l _ hl' _ its =>
    have other : loop ≠ l.number := by
      rintro rfl
      rw [List.inj_on_of_nodup_map h.loops hl' hl rfl] at its
      exact waits its
    exact List.mem_map.mpr ⟨_, hl, by simp [other]⟩
  | close => exact absurd rfl goesOn
  | endLoop => exact List.mem_filter.mpr ⟨hl, by simp⟩
  | outside | call | pass | endCall | endTick | closed | idle => exact hl

theorem mem_ticks_react (ht : ⟨tick, none, false⟩ ∈ s.ticks) (goesOn : turn ≠ .close)
    (waits : turn ≠ .beginTick tick) : ⟨tick, none, false⟩ ∈ (s.react turn).tasks.ticks := by
  have stays {t : Tick} (other : ⟨tick, none, false⟩ ≠ t) : ⟨tick, none, false⟩ ∈ s.ticks.erase t :=
    (List.mem_erase_of_ne other).mpr ht
  obtain ⟨e, goes⟩ := s.goes turn
  generalize s.react turn = r at goes ⊢
  cases goes with
  | outside => exact List.mem_filter.mpr ⟨ht, rfl⟩
  | make => exact List.mem_append_left _ ht
  | call =>
    refine List.mem_append_left _ (stays ?_)
    rintro rfl
    exact waits rfl
  | pass =>
    refine stays ?_
    rintro rfl
    exact waits rfl
  | close => exact absurd rfl goesOn
  | endCall _ cancelled | endTick _ cancelled =>
    refine stays ?_
    rintro rfl
    cases cancelled
  | startPolling | endLoop | closed | idle => exact ht

theorem Runs.mem_loops_after (h : s.Runs) (hl : ⟨loop, false, false⟩ ∈ s.loops) {turns : List Turn}
    (goesOn : .close ∉ turns) (waits : .begin loop ∉ turns) :
    ⟨loop, false, false⟩ ∈ (Run.after Tasks.react Response.tasks s turns).loops := by
  have kept := after_of_forall (P := fun n => n.Runs ∧ ⟨loop, false, false⟩ ∈ n.loops)
    (E := fun turn => turn ≠ .close ∧ turn ≠ .begin loop)
    (fun n turn hturn hn => ⟨hn.1.react turn, hn.1.sound.mem_loops_react hn.2 hturn.1 hturn.2⟩)
    ⟨h, hl⟩ fun turn hturn => ⟨fun same => goesOn (same ▸ hturn), fun same => waits (same ▸ hturn)⟩
  exact kept.2

theorem mem_ticks_after (ht : ⟨tick, none, false⟩ ∈ s.ticks) {turns : List Turn}
    (goesOn : .close ∉ turns) (waits : .beginTick tick ∉ turns) :
    ⟨tick, none, false⟩ ∈ (Run.after Tasks.react Response.tasks s turns).ticks :=
  after_of_forall (P := fun n => ⟨tick, none, false⟩ ∈ n.ticks)
    (E := fun turn => turn ≠ .close ∧ turn ≠ .beginTick tick)
    (fun _ _ hturn hn => mem_ticks_react hn hturn.1 hturn.2) ht
    fun _ hturn => ⟨fun same => goesOn (same ▸ hturn), fun same => waits (same ▸ hturn)⟩

theorem mem_ticks_begin (hl : ⟨loop, false, false⟩ ∈ s.loops) :
    ⟨s.created, none, false⟩ ∈ (s.react (.begin loop)).tasks.ticks := by
  have there : s.hasLoop loop false = true := List.any_eq_true.mpr ⟨_, hl, by simp⟩
  simp only [react, there, if_true]
  exact List.mem_append_right _ (List.mem_singleton_self _)

theorem beginTick_called (s : Tasks) (t : Tick) :
    (s.beginTick t).called = if s.roster.inFlight = 0 then some (s.issued, .list) else none := by
  by_cases free : s.machine.roster.inFlight = 0
  · rw [if_pos (show s.roster.inFlight = 0 from free), beginTick, Machine.beginTick, if_pos free]
    rfl
  · rw [if_neg (show s.roster.inFlight ≠ 0 from free), beginTick, Machine.beginTick, if_neg free]
    rfl

theorem Runs.inFlight_eq_zero_iff (h : s.Runs) :
    s.roster.inFlight = 0 ↔ ∀ w ∈ s.cancelled ++ s.waiting, w.isList = false := by
  rw [show s.roster.inFlight = s.machine.outstanding.length from h.balanced.counted,
    List.length_eq_zero_iff, Machine.outstanding, List.filter_eq_nil_iff]
  simp only [Bool.not_eq_true]
  rfl

/-- A tick that begins calls unless a call for a list is under way. -/
theorem Runs.beginTick_called_iff (h : s.Runs) (ht : ⟨tick, none, false⟩ ∈ s.ticks) :
    (∃ number, (s.react (.beginTick tick)).called = some (number, .list)) ↔
      ∀ w ∈ s.cancelled ++ s.waiting, w.isList = false := by
  rw [← h.inFlight_eq_zero_iff]
  cases found : s.ticks.find? fun t => t.number == tick && t.isDue with
  | none =>
    have missing := List.find?_eq_none.mp found _ ht
    simp [Tick.isDue] at missing
  | some t =>
    have begins : s.react (.beginTick tick) = s.beginTick t := by simp only [Tasks.react, found]
    rw [begins, beginTick_called]
    constructor
    · rintro ⟨number, called⟩
      split at called
      · assumption
      · cases called
    · intro free
      exact ⟨s.issued, if_pos free⟩

end Tasks

/-- What starts and closings do to polling, after any turns. -/
structure Governed (turns : List Turn) : Prop where
  /-- Loops that are not held are cancelled, and make no ticks any more. -/
  held : ∀ l ∈ (worked turns).loops, l.cancelled = false → (worked turns).held = some l.number
  single : ((worked turns).loops.filter fun l => !l.cancelled).length ≤ 1
  /-- Since polling was closed it has not been started again: nothing is left that is not cancelled. -/
  stilled : ∀ before since, turns = before ++ .close :: since → .startPolling ∉ since →
    (worked turns).held = none ∧ (∀ l ∈ (worked turns).loops, l.cancelled = true) ∧
      ∀ t ∈ (worked turns).ticks, t.cancelled = true
  /-- No tick calls then. -/
  silent : ∀ before since, turns = before ++ .close :: since → .startPolling ∉ since →
    ∀ turn c, ((worked turns).react turn).called = some c → ∃ e, turn = .outside e
  /-- Once the closing has returned there are no ticks at all, nor calls of theirs. -/
  ended : ∀ before mid since,
    turns = before ++ .close :: (mid ++ .closed (worked before).created :: since) →
    .startPolling ∉ mid → .startPolling ∉ since →
    ((worked (before ++ .close :: mid)).react (.closed (worked before).created)).closed =
      some (worked before).created →
    (worked turns).ticks = [] ∧ (worked turns).cancelled = []
  /-- The answer to a call that a tick had made before a closing comes to nothing, whenever it comes. -/
  unheard : ∀ before since, turns = before ++ .close :: since →
    ∀ t ∈ (worked before).ticks, ∀ call, t.call = some call → ∀ answer,
      ((worked turns).react (.outside (.listed call answer))).tasks.roster = (worked turns).roster ∧
      ((worked turns).react (.outside (.listed call answer))).called = none ∧
      ((worked turns).react (.outside (.listed call answer))).returned = none ∧
      ((worked turns).react (.outside (.listed call answer))).log = []
  /-- What callers have called waits for its answer, closings or not. -/
  kept : ∀ before since, turns = before ++ since → ∀ w ∈ (worked before).waiting,
    ofLoop w = false → (∀ turn ∈ since, ¬ turn.Concerns w.number) → w ∈ (worked turns).waiting
  /-- An action that succeeds asks for a list. -/
  acted : ∀ w ∈ (worked turns).waiting, w.purpose = .act →
    ∃ number, ((worked turns).react (.outside (.acted w.number (.ok ())))).called =
      some (number, .list)
  /-- A list that a caller asks for is the latest one. -/
  asked : ∀ e number, ((worked turns).react (.outside e)).called = some (number, .list) →
    ∃ w ∈ ((worked turns).react (.outside e)).tasks.waiting, w.number = number ∧
      ofLoop w = false ∧
      w.token? = some ((worked turns).react (.outside e)).tasks.roster.token
  /-- Its answer is shown, unless callers have asked for another meanwhile. -/
  heard : ∀ before since, turns = before ++ since → ∀ w ∈ (worked before).waiting,
    ofLoop w = false → w.token? = some (worked before).roster.token →
    (∀ turn ∈ since, ¬ turn.Concerns w.number ∧ ¬ turn.Requests) → ∀ answer,
      Shows ((worked turns).react (.outside (.listed w.number answer))).tasks.roster answer
  /-- Once polling is started again the loop makes a tick as soon as it begins, and the tick calls
  exactly if no call for a list is under way. -/
  restarted : ∀ before mid since, turns = before ++ .startPolling ::
      (mid ++ .begin (worked before).created :: since) → (worked before).held = none →
    .close ∉ mid → .begin (worked before).created ∉ mid → .close ∉ since →
    .beginTick (worked (before ++ .startPolling :: mid)).created ∉ since →
    ((∃ number, ((worked turns).react
        (.beginTick (worked (before ++ .startPolling :: mid)).created)).called =
          some (number, .list)) ↔
      ∀ w ∈ (worked turns).cancelled ++ (worked turns).waiting, w.isList = false)

theorem polling_governed (turns : List Turn) : Governed turns := by
  have runs := worked_runs turns
  -- From a closing on everything stays still, whatever came before it.
  have closed (before since : List Turn) (goesOn : .startPolling ∉ since) :
      (worked (before ++ .close :: since)).Stilled (worked before).created := by
    rw [worked_append_cons]
    exact ((worked_runs before).sound.stilled_close.after goesOn).1
  constructor
  · exact runs.sound.live
  · exact runs.sound.live_length_le_one
  · rintro before since rfl goesOn
    have stilled := closed before since goesOn
    exact ⟨stilled.held, stilled.loops, stilled.ticks⟩
  · rintro before since rfl goesOn turn c called
    exact (closed before since goesOn).outside_of_called called
  · rintro before mid since rfl goesOn goesOn' returned
    have stilled := closed before mid goesOn
    have onwards : .startPolling ∉ .closed (worked before).created :: since := by simpa using goesOn'
    have none := (stilled.after onwards).2 (stilled.ticks_of_closed returned)
    rw [← worked_append, List.append_assoc, List.cons_append] at none
    exact ⟨none, runs.sound.cancelled_eq_nil none⟩
  · rintro before since rfl t ht call waits answer
    have earlier := worked_runs before
    have gone := (earlier.react .close).gone_after (earlier.sound.gone_close ht waits) since
    rw [worked_append_cons]
    exact Tasks.react_listed_of_gone gone answer
  · rintro before since rfl w hw caller other
    rw [worked_append]
    exact (worked_runs before).mem_after_of_caller hw caller other
  · intro w hw acts
    exact ⟨_, runs.acted_called hw acts⟩
  · intro e number called
    exact runs.exists_asked called
  · rintro before since rfl w hw caller latest other answer
    have earlier := worked_runs before
    have about : ∀ turn ∈ since, ¬ turn.Concerns w.number := fun turn hturn => (other turn hturn).1
    have waits := earlier.mem_after_of_caller hw caller about
    have token := earlier.latest_after_of_caller hw caller latest about
      fun turn hturn => (other turn hturn).2
    rw [← worked_append] at waits token
    rw [← token] at latest
    exact runs.shows_listed waits latest answer
  · rintro before mid since rfl unheld goesOn waits goesOn' waits'
    have started := ((worked_runs before).react .startPolling).mem_loops_after
      (Tasks.mem_loops_startPolling unheld) goesOn waits
    rw [← worked_append_cons] at started
    have made := Tasks.mem_ticks_after (Tasks.mem_ticks_begin started) goesOn' waits'
    rw [← worked_append_cons, List.append_assoc, List.cons_append] at made
    exact runs.beginTick_called_iff made

/-- A closing waits for the tick and the loop. A refresh outlives it, and the answer to the call of the
tick comes too late. -/
example :
    let turns := [.startPolling, .begin 0, .beginTick 1, .outside (.refresh 7), .close, .notice 1,
      .notice 0, .closed 2, .outside (.listed 0 (.error (.engine (.unreachable "down"))))]
    (worked turns).loops = [] ∧ (worked turns).ticks = [] ∧ (worked turns).closings = [] ∧
      (worked turns).roster = ⟨[], none, 1, 2⟩ := by decide

end DevEnv.Roster
