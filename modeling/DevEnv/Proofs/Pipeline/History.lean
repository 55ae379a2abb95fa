import DevEnv.Proofs.Pipeline.Invariant

/-!
Runs as lists of steps. A step keeps the machine that it starts from, so that statements about a run
can say what was under way when an event came.
-/

namespace DevEnv.Pipeline

set_option autoImplicit false

/-- An event that comes to a machine, and what it brings about. -/
structure Step where
  before : Machine
  event : Event
  reaction : Reaction

/-- The pipeline that a step leaves behind. -/
def Step.pipeline (s : Step) : Pipeline := s.reaction.machine.pipeline

namespace Machine

/-- The steps of a run. -/
def steps (m : Machine) : List Event → List Step
  | [] => []
  | e :: es => ⟨m, e, m.react e⟩ :: steps (m.react e).machine es

theorem after_append_singleton (m : Machine) (es : List Event) (e : Event) :
    m.after (es ++ [e]) = ((m.after es).react e).machine := by
  simp [after, List.foldl_append]

theorem steps_append_singleton (m : Machine) (es : List Event) (e : Event) :
    m.steps (es ++ [e]) = m.steps es ++ [⟨m.after es, e, (m.after es).react e⟩] := by
  induction es generalizing m with
  | nil => rfl
  | cons d ds ih =>
    simp only [List.cons_append, steps, ih]
    rfl

/-- Every step of a run starts from a machine that keeps the invariant. -/
theorem Inv.before_of_mem_steps {m : Machine} (h : m.Inv) {es : List Event} {s : Step}
    (hs : s ∈ m.steps es) : s.before.Inv ∧ s.reaction = s.before.react s.event := by
  induction es generalizing m with
  | nil => simp [steps] at hs
  | cons e es ih =>
    rcases List.mem_cons.mp hs with rfl | hs
    · exact ⟨h, rfl⟩
    · exact ih (h.react e) hs

end Machine

end DevEnv.Pipeline
