import DevEnv.Proofs.Daemon.Output
import DevEnv.Proofs.Pipeline.History
import DevEnv.Proofs.Pipeline.Superseded

/-!
The output of a build at a pipeline. A build stays the current call until a draft comes up or it is
answered, and its answer brings the output of this one attempt and no other.
-/

namespace DevEnv

set_option autoImplicit false

open Daemon

namespace Pipeline

/-- The event neither outdates a build of this number nor answers it. -/
def Event.Spares (e : Event) (number : Nat) : Prop :=
  e.request? ≠ some .generate ∧ e.answers? ≠ some (number, .build)

namespace Machine

variable {m : Machine} {e : Event} {number : Nat} {text tag : String}

/-- The build of this number is under way, and nothing has outdated it. -/
def Builds (m : Machine) (number : Nat) : Prop :=
  ∃ w ∈ m.current, w.number = number ∧ w.task = .build

theorem Builds.stage (h : m.Inv) (builds : m.Builds number) : m.pipeline.stage = .building := by
  obtain ⟨w, hw, -, task⟩ := builds
  rw [(current_eq_singleton h hw).2, task]
  rfl

theorem Builds.react (h : m.Inv) (builds : m.Builds number) (spared : Event.Spares e number) :
    (m.react e).machine.Builds number := by
  have building := builds.stage h
  obtain ⟨w, hw, rfl, task⟩ := builds
  obtain ⟨alone, -⟩ := current_eq_singleton h hw
  have reacts := m.reacts e
  generalize m.react e = r at reacts
  cases reacts with
  | issue granted =>
    -- While something is built, only a new draft is let in.
    cases granted with
    | generate => exact absurd rfl spared.1
    | build can => simp [canBuild, building] at can
    | run can => simp [canRun, building] at can
  | refuse => exact ⟨w, hw, rfl, task⟩
  | fail precluded =>
    cases precluded with
    | build can => simp [canBuild, building] at can
    | run can => simp [canRun, building] at can
  | @count v move value log waits counts =>
    rw [alone] at waits
    obtain rfl := List.mem_singleton.mp waits
    rw [task] at counts
    exact absurd counts.answers? spared.2
  | supersede log waits late =>
    refine ⟨w, ?_, rfl, task⟩
    rw [current_supersede h.tidy waits late]
    exact hw
  | ignore => exact ⟨w, hw, rfl, task⟩

theorem Builds.after (h : m.Inv) (builds : m.Builds number) {es : List Event}
    (spared : ∀ e ∈ es, Event.Spares e number) : (m.after es).Builds number := by
  induction es generalizing m with
  | nil => exact builds
  | cons e es ih =>
    exact ih (h.react e) (builds.react h (spared e List.mem_cons_self))
      fun f hf => spared f (.tail e hf)

/-! ### Answers -/

theorem Builds.concludes (h : m.Inv) (builds : m.Builds number) {move : Move} {value : Value}
    (counts : Counts m.pipeline number e .build move value) :
    (m.react e).machine.pipeline = move.pipeline ∧
      (m.react e).returned = some (some number, value) := by
  obtain ⟨w, hw, rfl, task⟩ := builds
  rw [← task] at counts
  obtain ⟨log, reaction⟩ := react_of_counts (find?_of_mem_current h.tidy hw) hw counts
  rw [reaction]
  exact ⟨rfl, rfl⟩

theorem Builds.logs (h : m.Inv) (builds : m.Builds number) : m.pipeline.logs = [] :=
  h.coherent.logs (by simp [builds.stage h])

/-- The answer to a build as the engine layer gives it. -/
inductive Answers {σ : Type} (a : Attempt σ) : Except Failure BuildResult → Prop
  | ok {result : BuildResult} (came : a.answer = .ok result) : Answers a (.ok result)
  | error {f : Failure} (came : a.answer = .error (.failed f)) : Answers a (.error f)

end Machine

end Pipeline

end DevEnv
