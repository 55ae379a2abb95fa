import Mathlib.Data.List.Forall2

/-!
Runs of machines that react to events, as lists of steps. A step keeps the machine that it starts from,
so that statements about a run can say what was under way when an event came.
-/

namespace DevEnv.Run

set_option autoImplicit false

universe u v w
variable {σ : Type u} {ε : Type v} {ρ : Type w}

/-- An event that comes to a machine, and what it brings about. -/
structure Step (σ : Type u) (ε : Type v) (ρ : Type w) where
  before : σ
  event : ε
  reaction : ρ

variable (react : σ → ε → ρ) (next : ρ → σ)

/-- The machine that a run leaves behind. -/
def after (s : σ) (es : List ε) : σ := es.foldl (fun s e => next (react s e)) s

def steps (s : σ) : List ε → List (Step σ ε ρ)
  | [] => []
  | e :: es => ⟨s, e, react s e⟩ :: steps (next (react s e)) es

theorem after_append (s : σ) (es ds : List ε) :
    after react next s (es ++ ds) = after react next (after react next s es) ds :=
  List.foldl_append

theorem after_append_singleton (s : σ) (es : List ε) (e : ε) :
    after react next s (es ++ [e]) = next (react (after react next s es) e) := by
  simp [after, List.foldl_append]

theorem steps_append_singleton (s : σ) (es : List ε) (e : ε) :
    steps react next s (es ++ [e]) =
      steps react next s es ++
        [⟨after react next s es, e, react (after react next s es) e⟩] := by
  induction es generalizing s with
  | nil => rfl
  | cons d ds ih =>
    simp only [List.cons_append, steps, ih]
    rfl

theorem steps_append (s : σ) (es ds : List ε) :
    steps react next s (es ++ ds) =
      steps react next s es ++ steps react next (after react next s es) ds := by
  induction es generalizing s with
  | nil => rfl
  | cons e es ih => exact congrArg (_ :: ·) (ih _)

section Invariants
variable {react next} {P : σ → Prop} {R : Step σ ε ρ → Step σ ε ρ → Prop} {s : σ}
  {es : List ε} {x : Step σ ε ρ}

/-- A step of a run starts from what the events before it leave behind. -/
theorem exists_split_of_mem_steps (hx : x ∈ steps react next s es) :
    ∃ before later, es = before ++ x.event :: later ∧ x.before = after react next s before ∧
      x.reaction = react x.before x.event := by
  induction es generalizing s with
  | nil => cases hx
  | cons e es ih =>
    rcases List.mem_cons.mp hx with rfl | hx
    · exact ⟨[], es, rfl, rfl, rfl⟩
    · obtain ⟨before, later, split, start, reacts⟩ := ih hx
      exact ⟨e :: before, later, by rw [split]; rfl, start, reacts⟩

theorem after_of_preserved (preserved : ∀ s e, P s → P (next (react s e))) (h : P s)
    (es : List ε) : P (after react next s es) := by
  induction es generalizing s with
  | nil => exact h
  | cons e es ih => exact ih (preserved s e h)

/-- What all events of a run preserve holds after the run. -/
theorem after_of_forall {E : ε → Prop} (preserved : ∀ s e, E e → P s → P (next (react s e)))
    (h : P s) (hes : ∀ e ∈ es, E e) : P (after react next s es) := by
  induction es generalizing s with
  | nil => exact h
  | cons e es ih =>
    exact ih (preserved s e (hes e List.mem_cons_self) h) fun d hd =>
      hes d (List.mem_cons_of_mem e hd)

/-- Steps start from machines that keep what every event preserves. -/
theorem before_of_mem_steps (preserved : ∀ s e, P s → P (next (react s e))) (h : P s)
    (hx : x ∈ steps react next s es) : P x.before ∧ x.reaction = react x.before x.event := by
  induction es generalizing s with
  | nil => cases hx
  | cons e es ih =>
    rcases List.mem_cons.mp hx with rfl | hx
    · exact ⟨h, rfl⟩
    · exact ih (preserved s e h) hx

/-- What a step leaves behind and every event preserves holds to the end of the run. -/
theorem after_of_mem_steps (preserved : ∀ s e, P s → P (next (react s e)))
    (hx : x ∈ steps react next s es) (h : P (next x.reaction)) : P (after react next s es) := by
  induction es generalizing s with
  | nil => cases hx
  | cons e es ih =>
    rcases List.mem_cons.mp hx with rfl | hx
    · exact after_of_preserved preserved h es
    · exact ih hx

theorem event_mem_of_mem_steps (hx : x ∈ steps react next s es) : x.event ∈ es := by
  induction es generalizing s with
  | nil => cases hx
  | cons e es ih =>
    rcases List.mem_cons.mp hx with rfl | hx
    · exact List.mem_cons_self
    · exact List.mem_cons_of_mem _ (ih hx)

theorem pairwise_steps (preserved : ∀ s e, P s → P (next (react s e)))
    (later : ∀ s e, P s → ∀ es, ∀ x ∈ steps react next (next (react s e)) es,
      R ⟨s, e, react s e⟩ x) (h : P s) : (steps react next s es).Pairwise R := by
  induction es generalizing s with
  | nil => exact .nil
  | cons e es ih => exact .cons (later s e h es) (ih (preserved s e h))

end Invariants

/-! ### Two machines -/

section Simulation
universe u' w'
variable {τ : Type u'} {ρ' : Type w'} {react next} {react' : τ → ε → ρ'} {next' : ρ' → τ}
  {R : σ → τ → Prop} {E : ε → Prop} {S : Step σ ε ρ → Step τ ε ρ' → Prop}

/-- Machines that are related stay related, and take related steps, over events that see to it. -/
theorem simulates
    (step : ∀ s t e, R s t → E e →
      S ⟨s, e, react s e⟩ ⟨t, e, react' t e⟩ ∧ R (next (react s e)) (next' (react' t e)))
    {s : σ} {t : τ} (related : R s t) {es : List ε} (hes : ∀ e ∈ es, E e) :
    List.Forall₂ S (steps react next s es) (steps react' next' t es) ∧
      R (after react next s es) (after react' next' t es) := by
  induction es generalizing s t with
  | nil => exact ⟨.nil, related⟩
  | cons e es ih =>
    obtain ⟨hstep, hnext⟩ := step s t e related (hes e List.mem_cons_self)
    obtain ⟨hsteps, hafter⟩ := ih hnext fun d hd => hes d (List.mem_cons_of_mem e hd)
    exact ⟨.cons hstep hsteps, hafter⟩

end Simulation

end DevEnv.Run
