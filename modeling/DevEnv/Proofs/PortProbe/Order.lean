import DevEnv.Proofs.PortProbe.Rest

/-!
In which order answers are kept. The probe looks at ports, not at requests: an answer to an earlier
check is kept after that to a later one only if its port has been asked for again since. With no port
asked for twice the answers are kept in the order of their checks, and a probe at rest shows the
answer of the last query.
-/

namespace DevEnv.PortProbe

set_option autoImplicit false

/-- The second answer belongs to no earlier check than the first, or to a port that has been checked
again since. -/
def Ledger.InOrder (l : Ledger) (r r' : Kept) : Prop :=
  ∀ check check', l.asked[r.query]? = some check → l.asked[r'.query]? = some check' →
    check ≤ check' ∨ ∃ again, check' < again ∧ check ≤ again ∧ l.checks[again]? = some r'.port

section Steps
variable {l l' : Ledger} {m m' : Machine} {r r' : Kept}

theorem Ledger.InOrder.grow (h : l.InOrder r r') (asked : l.asked <+: l'.asked)
    (checks : l.checks <+: l'.checks) (hr : ∃ check, l.Concerns r.query check r.port)
    (hr' : ∃ check, l.Concerns r'.query check r'.port) : l'.InOrder r r' := by
  obtain ⟨known, hknown⟩ := hr
  obtain ⟨known', hknown'⟩ := hr'
  intro check check' hc hc'
  rw [(hknown.grow asked checks).1] at hc
  rw [(hknown'.grow asked checks).1] at hc'
  obtain rfl := Option.some.inj hc
  obtain rfl := Option.some.inj hc'
  rcases h known known' hknown.1 hknown'.1 with le | ⟨again, later, notBefore, checked⟩
  · exact .inl le
  · obtain ⟨more, hchecks⟩ := checks
    refine .inr ⟨again, later, notBefore, ?_⟩
    rw [← hchecks]
    exact Ledger.getElem?_append_of_some checked _

/-- What is kept now has the port of the last check, and every other answer that of a check. -/
theorem Coherent.inOrder (h : Coherent l m) (hr : r ∈ l.kept)
    (current : m.requested = some r'.port) : l.InOrder r r' := by
  intro check check' hc hc'
  by_cases le : check ≤ check'
  · exact .inl le
  · obtain ⟨known, asked, checked⟩ := h.kept r hr
    rw [asked] at hc
    obtain rfl := Option.some.inj hc
    obtain ⟨bound, -⟩ := List.getElem?_eq_some_iff.mp checked
    -- It is the last check that asks for the port again.
    refine .inr ⟨l.checks.length - 1, by omega, by omega, ?_⟩
    rw [← List.getLast?_eq_getElem?, ← h.requested, current]

theorem Coherent.pairwise_enters {e : Event} (h : Coherent l m) (enters : Enters l m e l' m')
    (ordered : l.kept.Pairwise l.InOrder) : l'.kept.Pairwise l'.InOrder := by
  cases enters with
  | check | query =>
    refine ordered.imp_of_mem fun {r r'} hr hr' inOrder => ?_
    exact inOrder.grow (by simp) (by simp) (h.kept r hr) (h.kept r' hr')
  | keep answer waits current =>
    refine List.pairwise_append.mpr ⟨ordered, List.pairwise_singleton _ _, ?_⟩
    intro r hr r' hr'
    rw [List.mem_singleton.mp hr']
    exact h.inOrder hr current
  | discard | stop | letGo | idle => exact ordered

end Steps

theorem kept_pairwise (es : List Event) : (ledger es).kept.Pairwise (ledger es).InOrder := by
  induction es using List.reverseRecOn with
  | nil => exact .nil
  | append_singleton es e ih =>
    rw [ledger_append_singleton]
    exact (coherent es).pairwise_enters (enters _ _ e) ih

/-- The second answer is to a check that is not earlier. -/
def Ledger.Follows (l : Ledger) (r r' : Kept) : Prop :=
  ∀ check check', l.asked[r.query]? = some check → l.asked[r'.query]? = some check' →
    check ≤ check'

theorem follows_of_inOrder {l : Ledger} {r r' : Kept} (distinct : l.checks.Nodup)
    (hr' : ∃ check, l.Concerns r'.query check r'.port) (h : l.InOrder r r') : l.Follows r r' := by
  intro check check' hc hc'
  rcases h check check' hc hc' with le | ⟨again, later, -, checked⟩
  · exact le
  · obtain ⟨known, asked, checked'⟩ := hr'
    rw [asked] at hc'
    obtain rfl := Option.some.inj hc'
    obtain ⟨bound, -⟩ := List.getElem?_eq_some_iff.mp checked'
    have same := (List.getElem?_inj bound distinct).mp (checked'.trans checked.symm)
    omega

theorem kept_pairwise_follows {es : List Event} (distinct : (ledger es).checks.Nodup) :
    (ledger es).kept.Pairwise (ledger es).Follows :=
  (kept_pairwise es).imp_of_mem fun {_ r'} _ hr' =>
    follows_of_inOrder distinct ((coherent es).kept r' hr')

/-- Stale answers are kept for ports that have been checked again, and for no others. -/
theorem stale_only_if_rechecked (es : List Event) :
    (∀ r ∈ (ledger es).kept, ∃ check, (ledger es).Concerns r.query check r.port) ∧
    (ledger es).kept.Pairwise (ledger es).InOrder ∧
    ((ledger es).checks.Nodup → (ledger es).kept.Pairwise (ledger es).Follows) ∧
    (.close ∉ es → (reached es).timers = [] → (reached es).queries = [] →
      ∀ port, (ledger es).checks.getLast? = some port →
        ∃ r, (ledger es).kept.getLast? = some r ∧ r.port = port ∧
          (reached es).port = some port ∧ (reached es).inUse = some r.inUse ∧
          ((∀ check, (ledger es).checks[check]? = some port →
              check + 1 = (ledger es).checks.length) →
            r.query + 1 = (ledger es).asked.length)) :=
  ⟨(coherent es).kept, kept_pairwise es, kept_pairwise_follows,
    fun goesOn timers queries _ last => shown_at_rest goesOn timers queries last⟩

/-- Two checks of one port. The first query is answered last. -/
def rechecked : List Event :=
  [.check 8080, .expire 0, .check 8080, .expire 1, .answer 1 (.ok true), .answer 0 (.ok false)]

/-- The answer of the first query takes the place of that of the second. -/
theorem rechecked_stale :
    ledger rechecked = ⟨[8080, 8080], [0, 1], [⟨1, 8080, true⟩, ⟨0, 8080, false⟩]⟩ ∧
    ¬ (ledger rechecked).kept.Pairwise (ledger rechecked).Follows ∧
    (reached rechecked).timers = [] ∧ (reached rechecked).queries = [] ∧
    (reached rechecked).inUse = some false := by
  have entered : ledger rechecked = ⟨[8080, 8080], [0, 1], [⟨1, 8080, true⟩, ⟨0, 8080, false⟩]⟩ :=
    rfl
  refine ⟨entered, ?_, rfl, rfl, rfl⟩
  rw [entered]
  intro ordered
  have follows := List.rel_of_pairwise_cons ordered (List.mem_singleton_self _)
  exact absurd (follows 1 0 rfl rfl) (by decide)

end DevEnv.PortProbe
