import DevEnv.Container.Query
import DevEnv.Failure
import Mathlib.Data.List.Chain

/-!
What a reader of a list is shown of it over time. Polls of the list and refreshes of the screen take
turns in any order. A refresh shows the failure of the latest poll, or else the list, unless it is the
one that was shown last.
-/

namespace DevEnv.Watching

set_option autoImplicit false

abbrev Answer := Except EngineFailure (List Container)

inductive Turn
  | polled (answer : Answer)
  | refreshed

inductive Sight
  | failure (message : String)
  | list (cs : List Container)
  | unchanged

def Turn.answer? : Turn → Option Answer
  | polled answer => some answer
  | refreshed => none

def Turn.isRefresh : Turn → Bool
  | polled _ => false
  | refreshed => true

def Sight.list? : Sight → Option (List Container)
  | list cs => some cs
  | _ => none

/-! ### Histories -/

def latest? (past : List Turn) : Option Answer := (past.filterMap Turn.answer?).getLast?

/-- The latest poll, if there was any, has not failed. -/
def Calm (past : List Turn) : Prop := ∀ e, latest? past ≠ some (.error e)

/-- The list that was answered last, which is empty at first. -/
def standing (past : List Turn) : List Container :=
  ((past.filterMap Turn.answer?).filterMap Except.toOption).getLast?.getD []

def shown? (seen : List Sight) : Option (List Container) := (seen.filterMap Sight.list?).getLast?

variable {state : StateFilter} {past turns later : List Turn} {seen sights : List Sight} {s : Sight}

/-- What is due at a refresh, after these turns and sights. -/
inductive Due (state : StateFilter) (past : List Turn) (seen : List Sight) : Sight → Prop
  | failure {e : EngineFailure} (failed : latest? past = some (.error e)) :
    Due state past seen (.failure (Failure.engine e).describe)
  | list (calm : Calm past) (new : shown? seen ≠ some (Container.inState state (standing past))) :
    Due state past seen (.list (Container.inState state (standing past)))
  | unchanged (calm : Calm past)
    (same : shown? seen = some (Container.inState state (standing past))) :
    Due state past seen .unchanged

/-- Each refresh shows what is due. -/
inductive Watched (state : StateFilter) : List Turn → List Sight → Prop
  | begin : Watched state [] []
  | polled {past : List Turn} {seen : List Sight} (before : Watched state past seen)
    (answer : Answer) : Watched state (past ++ [.polled answer]) seen
  | refreshed {past : List Turn} {seen : List Sight} {s : Sight} (before : Watched state past seen)
    (due : Due state past seen s) : Watched state (past ++ [.refreshed]) (seen ++ [s])

theorem latest?_polled (past : List Turn) (answer : Answer) :
    latest? (past ++ [.polled answer]) = some answer := by
  simp [latest?, Turn.answer?]

theorem standing_ok (past : List Turn) (cs : List Container) :
    standing (past ++ [.polled (.ok cs)]) = cs := by
  simp [standing, Turn.answer?, Except.toOption]

theorem standing_error (past : List Turn) (e : EngineFailure) :
    standing (past ++ [.polled (.error e)]) = standing past := by
  simp [standing, Turn.answer?, Except.toOption]

@[simp] theorem latest?_refreshed (past : List Turn) :
    latest? (past ++ [.refreshed]) = latest? past := by
  simp [latest?, Turn.answer?]

@[simp] theorem standing_refreshed (past : List Turn) :
    standing (past ++ [.refreshed]) = standing past := by
  have silent : [Turn.refreshed].filterMap Turn.answer? = [] := rfl
  rw [standing, standing, List.filterMap_append, silent, List.append_nil]

theorem shown?_list (seen : List Sight) (cs : List Container) :
    shown? (seen ++ [.list cs]) = some cs := by
  simp [shown?, Sight.list?]

theorem shown?_of_list?_none (seen : List Sight) (h : s.list? = none) :
    shown? (seen ++ [s]) = shown? seen := by
  simp [shown?, h]

theorem Due.shown (due : Due state past seen s) (calm : Calm past) :
    shown? (seen ++ [s]) = some (Container.inState state (standing past)) := by
  cases due with
  | @failure e failed => exact absurd failed (calm e)
  | list calm new => exact shown?_list seen _
  | unchanged calm same => rw [shown?_of_list?_none seen rfl, same]

theorem Due.unique {s' : Sight} (h : Due state past seen s) (h' : Due state past seen s') :
    s = s' := by
  cases h with
  | @failure e failed =>
    cases h' with
    | @failure e' failed' =>
      obtain rfl := Except.error.inj (Option.some.inj (failed.symm.trans failed'))
      rfl
    | list calm | unchanged calm => exact absurd failed (calm e)
  | list calm new =>
    cases h' with
    | @failure e failed => exact absurd failed (calm e)
    | list => rfl
    | unchanged calm same => exact absurd same new
  | unchanged calm same =>
    cases h' with
    | @failure e failed => exact absurd failed (calm e)
    | list calm new => exact absurd same new
    | unchanged => rfl

namespace Watched

theorem unique {others : List Sight} (h : Watched state turns sights)
    (h' : Watched state turns others) : sights = others := by
  induction h generalizing others with
  | begin =>
    generalize so : [] = all at h'
    cases h' with
    | begin => rfl
    | polled | refreshed => exact absurd so (by simp)
  | @polled past seen before answer ih =>
    generalize so : past ++ [.polled answer] = all at h'
    cases h' with
    | begin => exact absurd so (by simp)
    | polled before' => exact ih (List.append_inj_left' so rfl ▸ before')
    | refreshed => exact absurd (List.append_inj_right' so rfl) nofun
  | @refreshed past seen s before due ih =>
    generalize so : past ++ [.refreshed] = all at h'
    cases h' with
    | begin => exact absurd so (by simp)
    | polled => exact absurd (List.append_inj_right' so rfl) nofun
    | refreshed before' due' =>
      obtain rfl := List.append_inj_left' so rfl
      obtain rfl := ih before'
      rw [due.unique due']

theorem length_eq (h : Watched state turns sights) :
    sights.length = turns.countP Turn.isRefresh := by
  induction h with
  | begin => rfl
  | polled before answer ih =>
    rw [ih, List.countP_append]
    rfl
  | refreshed before due ih =>
    rw [List.length_append, ih, List.countP_append]
    rfl

theorem isChain (h : Watched state turns sights) :
    (sights.filterMap Sight.list?).IsChain (· ≠ ·) := by
  induction h with
  | begin => exact .nil
  | polled before answer ih => exact ih
  | @refreshed past seen s before due ih =>
    rw [List.filterMap_append]
    cases due with
    | failure | unchanged =>
      rw [List.filterMap_cons_none rfl, List.filterMap_nil, List.append_nil]
      exact ih
    | list calm new =>
      refine List.isChain_append.mpr ⟨ih, .singleton _, ?_⟩
      rintro cs last ds first rfl
      obtain rfl := Option.some.inj first
      exact new last

theorem split (h : Watched state turns sights) (parts : turns = past ++ later) :
    ∃ before after, sights = before ++ after ∧ Watched state past before := by
  induction h generalizing later with
  | begin =>
    obtain ⟨rfl, -⟩ := List.nil_eq_append_iff.mp parts
    exact ⟨[], [], rfl, .begin⟩
  | @polled past' seen before answer ih =>
    -- The last turn is either the last of these, or of those that come later.
    rcases List.eq_nil_or_concat' later with rfl | ⟨later, t, rfl⟩
    · rw [List.append_nil] at parts
      exact ⟨seen, [], (List.append_nil _).symm, parts ▸ before.polled answer⟩
    · rw [← List.append_assoc] at parts
      exact ih (List.append_inj_left' parts rfl)
  | @refreshed past' seen s before due ih =>
    rcases List.eq_nil_or_concat' later with rfl | ⟨later, t, rfl⟩
    · rw [List.append_nil] at parts
      exact ⟨seen ++ [s], [], (List.append_nil _).symm, parts ▸ before.refreshed due⟩
    · rw [← List.append_assoc] at parts
      obtain ⟨first, rest, rfl, watched⟩ := ih (List.append_inj_left' parts rfl)
      exact ⟨first, rest ++ [s], List.append_assoc .., watched⟩

/-- After a refresh without an error the list that was shown last is the one that stands. -/
theorem shown (h : Watched state turns sights) (parts : turns = past ++ .refreshed :: later)
    (calm : Calm past) : ∃ before after, sights = before ++ after ∧
      Watched state (past ++ [.refreshed]) before ∧
        shown? before = some (Container.inState state (standing past)) := by
  rw [List.append_cons] at parts
  obtain ⟨before, after, whole, watched⟩ := h.split parts
  refine ⟨before, after, whole, watched, ?_⟩
  generalize so : past ++ [.refreshed] = far at watched
  cases watched with
  | begin => exact absurd so (by simp)
  | polled first answer => exact absurd (List.append_inj_right' so rfl) nofun
  | refreshed first due =>
    obtain rfl := List.append_inj_left' so rfl
    exact due.shown calm

end Watched

end DevEnv.Watching
