import DevEnv.Proofs.PortProbe.Reaction
import DevEnv.Proofs.Run
import Mathlib.Data.List.Induction

/-!
What happened in a run of a port probe: the checks, the checks that queries were issued for, and the
answers that were kept, each in order. The state of the probe is what these lists say.
-/

namespace DevEnv.PortProbe

set_option autoImplicit false

abbrev Step := Run.Step Machine Event Reaction

/-- The steps of a run of a new probe. -/
def history (es : List Event) : List Step :=
  Run.steps Machine.react Reaction.machine .initial es

/-- A new probe after a run. -/
def reached (es : List Event) : Machine := Machine.initial.after es

def Event.port? : Event → Option Int
  | .check port => some port
  | _ => none

/-- The timer, and thereby the check, that a query is issued for. -/
def Step.asks? (s : Step) : Option Nat :=
  match s.event with
  | .expire timer => s.reaction.called.map fun _ => timer
  | _ => none

/-- An answer that is kept. -/
structure Kept where
  query : Nat
  port : Int
  inUse : Bool
deriving DecidableEq, Repr

def Step.keeps? (s : Step) : Option Kept :=
  match s.event with
  | .answer number answer =>
    match s.before.queries.find? fun q => q.number == number with
    | some q =>
      if s.before.requested = some q.port then some ⟨number, q.port, meansInUse answer⟩ else none
    | none => none
  | _ => none

structure Ledger where
  /-- The ports that were checked. Checks have the numbers of their timers. -/
  checks : List Int
  /-- The checks that queries were issued for, by the number of the query. -/
  asked : List Nat
  kept : List Kept
deriving DecidableEq, Repr

namespace Ledger

def enter (l : Ledger) (s : Step) : Ledger where
  checks := l.checks ++ s.event.port?.toList
  asked := l.asked ++ s.asks?.toList
  kept := l.kept ++ s.keeps?.toList

/-- The query was issued for this check, which is one of this port. -/
def Concerns (l : Ledger) (query check : Nat) (port : Int) : Prop :=
  l.asked[query]? = some check ∧ l.checks[check]? = some port

theorem getElem?_append_of_some {α : Type} {xs : List α} {i : Nat} {x : α}
    (h : xs[i]? = some x) (ys : List α) : (xs ++ ys)[i]? = some x := by
  obtain ⟨hi, -⟩ := List.getElem?_eq_some_iff.mp h
  rw [List.getElem?_append_left hi, h]

theorem Concerns.grow {l l' : Ledger} {query check : Nat} {port : Int}
    (h : l.Concerns query check port) (asked : l.asked <+: l'.asked)
    (checks : l.checks <+: l'.checks) : l'.Concerns query check port := by
  obtain ⟨more, hasked⟩ := asked
  obtain ⟨more', hchecks⟩ := checks
  rw [Concerns, ← hasked, ← hchecks]
  exact ⟨getElem?_append_of_some h.1 _, getElem?_append_of_some h.2 _⟩

end Ledger

/-- The ledger of a run of a new probe. -/
def ledger (es : List Event) : Ledger := (history es).foldl Ledger.enter ⟨[], [], []⟩

theorem reached_append_singleton (es : List Event) (e : Event) :
    reached (es ++ [e]) = ((reached es).react e).machine :=
  Run.after_append_singleton _ _ _ _ _

theorem ledger_append_singleton (es : List Event) (e : Event) :
    ledger (es ++ [e]) = (ledger es).enter ⟨reached es, e, (reached es).react e⟩ := by
  rw [ledger, history, Run.steps_append_singleton, List.foldl_append]
  rfl

/-- What an event does to a probe and to the ledger of its run. -/
inductive Enters (l : Ledger) (m : Machine) : Event → Ledger → Machine → Prop
  | check (port : Int) :
    Enters l m (.check port) { l with checks := l.checks ++ [port] } (m.check port)
  | query {t : Numbered} (pending : t ∈ m.timers) :
    Enters l m (.expire t.number) { l with asked := l.asked ++ [t.number] } (m.query t).machine
  | keep {q : Numbered} (answer : Except Failure Bool) (waits : q ∈ m.queries)
    (current : m.requested = some q.port) :
    Enters l m (.answer q.number answer)
      { l with kept := l.kept ++ [⟨q.number, q.port, meansInUse answer⟩] } (m.keep q answer)
  | discard {q : Numbered} (answer : Except Failure Bool) (waits : q ∈ m.queries)
    (late : m.requested ≠ some q.port) :
    Enters l m (.answer q.number answer) l (m.withoutQuery q)
  | stop {timer : Nat} (holds : m.held = some timer) :
    Enters l m .close l { m with timers := m.otherTimers, closing := m.closing + 1 }
  | letGo (waits : m.closing ≠ 0) :
    Enters l m .closed l { m with held := none, closing := m.closing - 1 }
  | idle (e : Event) : Enters l m e l m

theorem enters (l : Ledger) (m : Machine) (e : Event) :
    Enters l m e (l.enter ⟨m, e, m.react e⟩) (m.react e).machine := by
  have reacts := m.reacts e
  generalize m.react e = r at reacts ⊢
  cases reacts with
  | check port =>
    simpa [Ledger.enter, Event.port?, Step.asks?, Step.keeps?] using Enters.check port
  | @query _ t found =>
    obtain rfl : t.number = _ := by simpa using List.find?_some found
    simpa [Ledger.enter, Event.port?, Step.asks?, Step.keeps?] using
      Enters.query (l := l) (List.mem_of_find?_eq_some found)
  | @keep _ q answer found current =>
    obtain rfl : q.number = _ := by simpa using List.find?_some found
    simpa [Ledger.enter, Event.port?, Step.asks?, Step.keeps?, found, current] using
      Enters.keep (l := l) answer (List.mem_of_find?_eq_some found) current
  | @discard _ q answer found late =>
    obtain rfl : q.number = _ := by simpa using List.find?_some found
    simpa [Ledger.enter, Event.port?, Step.asks?, Step.keeps?, found, late] using
      Enters.discard (l := l) answer (List.mem_of_find?_eq_some found) late
  | unasked answer missing =>
    simpa [Ledger.enter, Event.port?, Step.asks?, Step.keeps?, missing] using Enters.idle _
  | stop holds =>
    simpa [Ledger.enter, Event.port?, Step.asks?, Step.keeps?] using Enters.stop holds
  | letGo waits =>
    simpa [Ledger.enter, Event.port?, Step.asks?, Step.keeps?] using Enters.letGo waits
  | spent | unheld | notClosing =>
    simpa [Ledger.enter, Event.port?, Step.asks?, Step.keeps?] using Enters.idle _

/-- How a probe agrees with the ledger of its run. -/
structure Coherent (l : Ledger) (m : Machine) : Prop where
  started : m.started = l.checks.length
  requested : m.requested = l.checks.getLast?
  timers : ∀ t ∈ m.timers, l.checks[t.number]? = some t.port
  issued : m.issued = l.asked.length
  known : ∀ check ∈ l.asked, check < l.checks.length
  queries : ∀ q ∈ m.queries, ∃ check, l.Concerns q.number check q.port
  kept : ∀ r ∈ l.kept, ∃ check, l.Concerns r.query check r.port
  port : m.port = l.kept.getLast?.map Kept.port
  inUse : m.inUse = l.kept.getLast?.map Kept.inUse

theorem coherent_initial : Coherent ⟨[], [], []⟩ .initial := by
  constructor <;> simp [Machine.initial]

namespace Coherent
variable {l : Ledger} {m : Machine}

theorem check (h : Coherent l m) (port : Int) :
    Coherent { l with checks := l.checks ++ [port] } (m.check port) where
  started := by simp [Machine.check, h.started]
  requested := by simp [Machine.check]
  timers := by
    intro t ht
    simp only [Machine.check, List.mem_append, List.mem_singleton] at ht
    rcases ht with ht | rfl
    · exact Ledger.getElem?_append_of_some (h.timers t (List.mem_filter.mp ht).1) _
    · simp [h.started]
  issued := h.issued
  known := by
    intro check hcheck
    have := h.known check hcheck
    simp only [List.length_append, List.length_singleton]
    omega
  queries := by
    intro q hq
    obtain ⟨check, known⟩ := h.queries q hq
    exact ⟨check, known.grow (List.prefix_refl _) (List.prefix_append _ _)⟩
  kept := by
    intro r hr
    obtain ⟨check, known⟩ := h.kept r hr
    exact ⟨check, known.grow (List.prefix_refl _) (List.prefix_append _ _)⟩
  port := h.port
  inUse := h.inUse

theorem query (h : Coherent l m) {t : Numbered} (pending : t ∈ m.timers) :
    Coherent { l with asked := l.asked ++ [t.number] } (m.query t).machine where
  started := h.started
  requested := h.requested
  timers := fun u hu => h.timers u (List.mem_filter.mp hu).1
  issued := by simp [Machine.query, h.issued]
  known := by
    intro check hcheck
    simp only [List.mem_append, List.mem_singleton] at hcheck
    rcases hcheck with hcheck | rfl
    · exact h.known check hcheck
    · exact (List.getElem?_eq_some_iff.mp (h.timers t pending)).1
  queries := by
    intro q hq
    simp only [Machine.query, List.mem_append, List.mem_singleton] at hq
    rcases hq with hq | rfl
    · obtain ⟨check, known⟩ := h.queries q hq
      exact ⟨check, known.grow (List.prefix_append _ _) (List.prefix_refl _)⟩
    · exact ⟨t.number, by simp [h.issued], h.timers t pending⟩
  kept := by
    intro r hr
    obtain ⟨check, known⟩ := h.kept r hr
    exact ⟨check, known.grow (List.prefix_append _ _) (List.prefix_refl _)⟩
  port := h.port
  inUse := h.inUse

theorem withoutQuery (h : Coherent l m) (q : Numbered) : Coherent l (m.withoutQuery q) :=
  { h with queries := fun p hp => h.queries p (List.mem_filter.mp hp).1 }

theorem keep (h : Coherent l m) {q : Numbered} (waits : q ∈ m.queries)
    (answer : Except Failure Bool) :
    Coherent { l with kept := l.kept ++ [⟨q.number, q.port, meansInUse answer⟩] }
      (m.keep q answer) where
  started := h.started
  requested := h.requested
  timers := h.timers
  issued := h.issued
  known := h.known
  queries := (h.withoutQuery q).queries
  kept := by
    intro r hr
    simp only [List.mem_append, List.mem_singleton] at hr
    rcases hr with hr | rfl
    · exact h.kept r hr
    · exact h.queries q waits
  port := by simp [Machine.keep]
  inUse := by simp [Machine.keep]

/-- One event keeps a probe in agreement with its ledger. -/
theorem enters {e : Event} {l' : Ledger} {m' : Machine} (h : Coherent l m)
    (enters : Enters l m e l' m') : Coherent l' m' := by
  cases enters with
  | check port => exact h.check port
  | query pending => exact h.query pending
  | keep answer waits => exact h.keep waits answer
  | discard answer waits => exact h.withoutQuery _
  | stop => exact { h with timers := fun t ht => h.timers t (List.mem_filter.mp ht).1 }
  | letGo => exact { h with }
  | idle => exact h

end Coherent

theorem coherent (es : List Event) : Coherent (ledger es) (reached es) := by
  induction es using List.reverseRecOn with
  | nil => exact coherent_initial
  | append_singleton es e ih =>
    rw [ledger_append_singleton, reached_append_singleton]
    exact ih.enters (enters _ _ e)

end DevEnv.PortProbe
