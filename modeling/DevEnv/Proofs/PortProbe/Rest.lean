import DevEnv.Proofs.PortProbe.History
import Mathlib.Data.List.Pairwise

/-!
Runs in which nobody closes the probe. It then waits for no timer but that of the last check, issues
queries in the order of the checks, and shows an answer for the port of the last check as soon as it
waits for nothing.
-/

namespace DevEnv.PortProbe

set_option autoImplicit false

/-- The timers of a probe that nobody closes. -/
inductive Watches (checks : List Int) (asked : List Nat) : Option Nat → List Numbered → Prop
  | resting (through : ∀ check, check + 1 = checks.length → asked.getLast? = some check) :
    Watches checks asked none []
  | timing {t : Numbered} (newest : t.number + 1 = checks.length)
    (before : ∀ check ∈ asked, check < t.number) :
    Watches checks asked (some t.number) [t]

structure Undisturbed (l : Ledger) (m : Machine) : Prop where
  closing : m.closing = 0
  watches : Watches l.checks l.asked m.held m.timers
  increasing : l.asked.Pairwise (· < ·)
  /-- With no timer left, the port of the last check is shown or asked about. -/
  answered : m.timers = [] → m.port = m.requested ∨ ∃ q ∈ m.queries, m.requested = some q.port

theorem undisturbed_initial : Undisturbed ⟨[], [], []⟩ .initial where
  closing := rfl
  watches := .resting (by simp)
  increasing := .nil
  answered := fun _ => .inl rfl

theorem Undisturbed.otherTimers {l : Ledger} {m : Machine} (h : Undisturbed l m) :
    m.otherTimers = [] := by
  have watches := h.watches
  rw [Machine.otherTimers]
  generalize m.held = held, m.timers = timers at watches ⊢
  cases watches with
  | resting => rfl
  | timing => simp

/-- Waiting queries of one number are about one port. -/
theorem Coherent.port_eq {l : Ledger} {m : Machine} (h : Coherent l m) {p q : Numbered}
    (hp : p ∈ m.queries) (hq : q ∈ m.queries) (same : p.number = q.number) : p.port = q.port := by
  obtain ⟨check, asked, checked⟩ := h.queries p hp
  obtain ⟨check', asked', checked'⟩ := h.queries q hq
  rw [same, asked'] at asked
  obtain rfl := Option.some.inj asked
  rw [checked'] at checked
  exact (Option.some.inj checked).symm

namespace Undisturbed
variable {l : Ledger} {m : Machine}

theorem check (h : Undisturbed l m) (c : Coherent l m) (port : Int) :
    Undisturbed { l with checks := l.checks ++ [port] } (m.check port) where
  closing := h.closing
  watches := by
    have timers : (m.check port).timers = [⟨m.started, port⟩] := by
      simp [Machine.check, h.otherTimers]
    rw [timers]
    refine .timing (t := ⟨m.started, port⟩) (by simp [c.started]) ?_
    intro check hcheck
    rw [c.started]
    exact c.known check hcheck
  increasing := h.increasing
  answered := by simp [Machine.check]

/-- A timer that is left is that of the last check. -/
theorem timers_eq (h : Undisturbed l m) {t : Numbered} (pending : t ∈ m.timers) :
    m.timers = [t] ∧ t.number + 1 = l.checks.length ∧ ∀ check ∈ l.asked, check < t.number := by
  have watches := h.watches
  generalize m.held = held, m.timers = timers at watches pending ⊢
  cases watches with
  | resting => simp at pending
  | timing newest before =>
    obtain rfl := List.mem_singleton.mp pending
    exact ⟨rfl, newest, before⟩

theorem query (h : Undisturbed l m) (c : Coherent l m) {t : Numbered} (pending : t ∈ m.timers) :
    Undisturbed { l with asked := l.asked ++ [t.number] } (m.query t).machine := by
  obtain ⟨timers, newest, before⟩ := h.timers_eq pending
  have gone : (m.query t).machine.timers = [] := by simp [Machine.query, timers]
  refine ⟨h.closing, ?_, ?_, fun _ => .inr ⟨⟨m.issued, t.port⟩, by simp [Machine.query], ?_⟩⟩
  · rw [gone]
    refine .resting fun check hcheck => ?_
    have : check = t.number := Nat.succ.inj (hcheck.trans newest.symm)
    simp [this]
  · refine List.pairwise_append.mpr ⟨h.increasing, List.pairwise_singleton _ _, ?_⟩
    intro check hcheck _ ht
    rw [List.mem_singleton.mp ht]
    exact before check hcheck
  · have last := c.timers t pending
    rw [show t.number = l.checks.length - 1 by omega, ← List.getLast?_eq_getElem?,
      ← c.requested] at last
    exact last

theorem discard (h : Undisturbed l m) (c : Coherent l m) {q : Numbered} (waits : q ∈ m.queries)
    (late : m.requested ≠ some q.port) : Undisturbed l (m.withoutQuery q) where
  closing := h.closing
  watches := h.watches
  increasing := h.increasing
  answered := by
    intro timers
    rcases h.answered timers with shown | ⟨p, hp, current⟩
    · exact .inl shown
    · refine .inr ⟨p, List.mem_filter.mpr ⟨hp, ?_⟩, current⟩
      have differ : p.number ≠ q.number := fun same =>
        late (c.port_eq hp waits same ▸ current)
      simpa using differ

theorem enters {e : Event} {l' : Ledger} {m' : Machine} (h : Undisturbed l m) (c : Coherent l m)
    (enters : Enters l m e l' m') (goesOn : e ≠ .close) : Undisturbed l' m' := by
  cases enters with
  | check port => exact h.check c port
  | query pending => exact h.query c pending
  | keep answer waits current =>
    exact ⟨h.closing, h.watches, h.increasing, fun _ => .inl current.symm⟩
  | discard answer waits late => exact h.discard c waits late
  | stop => exact absurd rfl goesOn
  | letGo waits => exact absurd h.closing waits
  | idle => exact h

end Undisturbed

theorem undisturbed {es : List Event} (goesOn : .close ∉ es) :
    Undisturbed (ledger es) (reached es) := by
  induction es using List.reverseRecOn with
  | nil => exact undisturbed_initial
  | append_singleton es e ih =>
    rw [ledger_append_singleton, reached_append_singleton]
    refine (ih ?_).enters (coherent es) (enters _ _ e) ?_
    · exact fun h => goesOn (List.mem_append_left _ h)
    · rintro rfl
      exact goesOn (List.mem_append_right _ (List.mem_singleton_self _))

theorem succ_eq_length_of_increasing {xs : List Nat} {i x : Nat} (increasing : xs.Pairwise (· < ·))
    (here : xs[i]? = some x) (last : xs.getLast? = some x) : i + 1 = xs.length := by
  obtain ⟨hi, hx⟩ := List.getElem?_eq_some_iff.mp here
  rw [List.getLast?_eq_getElem?] at last
  obtain ⟨hl, hy⟩ := List.getElem?_eq_some_iff.mp last
  by_contra other
  have less := List.pairwise_iff_getElem.mp increasing i (xs.length - 1) hi hl (by omega)
  rw [hx, hy] at less
  exact Nat.lt_irrefl x less

/-- The last query of a probe at rest was issued for the last check. -/
theorem Undisturbed.asked_getLast? {l : Ledger} {m : Machine} (h : Undisturbed l m)
    (timers : m.timers = []) {check : Nat} (newest : check + 1 = l.checks.length) :
    l.asked.getLast? = some check := by
  have watches := h.watches
  rw [timers] at watches
  generalize m.held = held at watches
  cases watches with
  | resting through => exact through check newest

/-- A probe that nobody closes and that waits for nothing shows an answer for the port of the last
check, and the answer of the last query if no check before was one of that port. -/
theorem shown_at_rest {es : List Event} (goesOn : .close ∉ es) (timers : (reached es).timers = [])
    (queries : (reached es).queries = []) {port : Int}
    (last : (ledger es).checks.getLast? = some port) :
    ∃ r, (ledger es).kept.getLast? = some r ∧ r.port = port ∧ (reached es).port = some port ∧
      (reached es).inUse = some r.inUse ∧
      ((∀ check, (ledger es).checks[check]? = some port → check + 1 = (ledger es).checks.length) →
        r.query + 1 = (ledger es).asked.length) := by
  have c := coherent es
  have u := undisturbed goesOn
  have shown : (reached es).port = some port := by
    rcases u.answered timers with shown | ⟨q, waits, -⟩
    · rw [shown, c.requested, last]
    · simp [queries] at waits
  obtain ⟨r, hr, hport⟩ := Option.map_eq_some_iff.mp (c.port.symm.trans shown)
  refine ⟨r, hr, hport, shown, by rw [c.inUse, hr]; rfl, fun once => ?_⟩
  obtain ⟨check, asked, checked⟩ := c.kept r (List.mem_of_getLast? hr)
  have newest := once check (hport ▸ checked)
  exact succ_eq_length_of_increasing u.increasing asked (u.asked_getLast? timers newest)

end DevEnv.PortProbe
