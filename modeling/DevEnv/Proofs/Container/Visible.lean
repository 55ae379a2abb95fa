import DevEnv.Container.Query
import Mathlib.Data.List.Basic
import Mathlib.Logic.Basic

/-!
What a list shows for a state and a query. Either may choose first, and every container is let through
or not for what it is itself, wherever it stands. So the running containers and the stopped ones are
two parts of the list, which come together again by their places.
-/

namespace DevEnv.Container

set_option autoImplicit false

/-! ### Names of states -/

theorem name_of_ofName? {state : String} {f : StateFilter}
    (h : StateFilter.ofName? state = some f) : state = f.name := by
  rw [StateFilter.ofName?] at h
  have same := List.find?_some h
  exact (beq_iff_eq.mp same).symm

theorem ofName?_eq_none_iff {state : String} :
    StateFilter.ofName? state = none ↔ state ∉ StateFilter.options.map StateFilter.name := by
  constructor
  · intro unknown member
    obtain ⟨f, -, rfl⟩ := List.mem_map.mp member
    rw [StateFilter.ofName?_name] at unknown
    cases unknown
  · intro missing
    apply Option.eq_none_iff_forall_ne_some.mpr
    intro f known
    apply missing
    rw [name_of_ofName? known]
    cases f <;> decide

section Choosing
variable {query state : String} {f : StateFilter} {cs shown : List Container}

theorem visible_name (f : StateFilter) (query : String) (cs : List Container) :
    visible f.name query cs = .ok (search query (inState f cs)) := by
  rw [visible, inNamedState, StateFilter.ofName?_name]
  rfl

theorem exists_filter_of_visible (h : visible state query cs = .ok shown) :
    ∃ f : StateFilter, state = f.name ∧ shown = search query (inState f cs) := by
  cases known : StateFilter.ofName? state with
  | none =>
    rw [visible, inNamedState, known] at h
    cases h
  | some f =>
    obtain rfl := name_of_ofName? known
    rw [visible_name] at h
    exact ⟨f, rfl, (Except.ok.inj h).symm⟩

theorem visible_eq_error_iff : visible state query cs = .error (.named state) ↔
    state ∉ StateFilter.options.map StateFilter.name := by
  rw [← ofName?_eq_none_iff]
  cases known : StateFilter.ofName? state with
  | none => simp [visible, inNamedState, known, Except.map]
  | some f => simp [visible, inNamedState, known, Except.map]

theorem search_inState (f : StateFilter) (query : String) (cs : List Container) :
    search query (inState f cs) = inState f (search query cs) :=
  List.filter_comm (answers query) f.admits cs

theorem inNamedState_search (state query : String) (cs : List Container) :
    inNamedState state (search query cs) = visible state query cs := by
  cases known : StateFilter.ofName? state with
  | none =>
    rw [visible, inNamedState, inNamedState, known]
    rfl
  | some f =>
    obtain rfl := name_of_ofName? known
    rw [visible_name, search_inState, inNamedState, known]

theorem search_search (query : String) (cs : List Container) :
    search query (search query cs) = search query cs := by
  unfold search
  rw [List.filter_filter]
  simp only [Bool.and_self]

theorem visible_of_visible (h : visible state query cs = .ok shown) :
    visible state query shown = .ok shown := by
  obtain ⟨f, rfl, rfl⟩ := exists_filter_of_visible h
  have again : inState f (inState f (search query cs)) = inState f (search query cs) := by
    unfold inState
    rw [List.filter_filter]
    simp only [Bool.and_self]
  rw [visible_name, search_inState f query cs, again, search_inState, search_search]

theorem sublist_of_visible (h : visible state query cs = .ok shown) : shown.Sublist cs := by
  obtain ⟨f, rfl, rfl⟩ := exists_filter_of_visible h
  exact List.filter_sublist.trans List.filter_sublist

end Choosing

/-! ### Places -/

/-- The containers that are shown, each with its place in the list. -/
def occurrences (f : StateFilter) (query : String) (cs : List Container) : List (Container × Nat) :=
  cs.zipIdx.filter fun x => f.admits x.1 && answers query x.1

/-- Occurrences of two lists in the order of their places. -/
def mergePlaces (xs ys : List (Container × Nat)) : List (Container × Nat) :=
  xs.merge ys fun x y => decide (x.2 ≤ y.2)

section Places
variable (f : StateFilter) (query : String) (cs : List Container)

theorem map_fst_occurrences :
    (occurrences f query cs).map Prod.fst = search query (inState f cs) := by
  have places : cs.zipIdx.map Prod.fst = cs := List.zipIdx_map_fst 0 cs
  unfold occurrences search inState
  rw [List.filter_filter]
  conv_rhs => rw [← places]
  rw [List.filter_map]
  apply congrArg (List.map Prod.fst)
  apply List.filter_congr
  intro x _
  exact Bool.and_comm _ _

theorem pairwise_zipIdx : cs.zipIdx.Pairwise fun x y => x.2 < y.2 := by
  have places := List.pairwise_lt_range' (s := 0) (n := cs.length) 1
  rw [← List.zipIdx_map_snd 0 cs, List.pairwise_map] at places
  exact places

theorem pairwise_occurrences : (occurrences f query cs).Pairwise fun x y => x.2 < y.2 :=
  (pairwise_zipIdx cs).filter _

/-- Nothing but a container itself decides whether it is shown. -/
theorem mem_occurrences_iff {x : Container × Nat} : x ∈ occurrences f query cs ↔
    cs[x.2]? = some x.1 ∧ visible f.name query [x.1] = .ok [x.1] := by
  have alone : visible f.name query [x.1] = .ok [x.1] ↔
      (f.admits x.1 && answers query x.1) = true := by
    rw [visible_name, Except.ok.injEq, search, inState, List.filter_filter, List.filter_eq_self,
      List.forall_mem_singleton, Bool.and_comm]
  rw [occurrences, List.mem_filter, List.mem_zipIdx_iff_getElem?, alone]

end Places

section Merging
variable {x : Container × Nat} {xs ys : List (Container × Nat)}

theorem mergePlaces_cons_left (first : ∀ y ∈ ys, x.2 < y.2) :
    mergePlaces (x :: xs) ys = x :: mergePlaces xs ys := by
  unfold mergePlaces
  cases ys with
  | nil => rw [List.merge_right, List.merge_right]
  | cons y ys =>
    have before : x.2 < y.2 := first y List.mem_cons_self
    exact List.cons_merge_cons_pos _ _ _ (decide_eq_true (by omega))

theorem mergePlaces_cons_right (first : ∀ y ∈ xs, x.2 < y.2) :
    mergePlaces xs (x :: ys) = x :: mergePlaces xs ys := by
  unfold mergePlaces
  cases xs with
  | nil => rw [List.nil_merge, List.nil_merge]
  | cons y xs =>
    have before : x.2 < y.2 := first y List.mem_cons_self
    apply List.cons_merge_cons_neg
    rw [decide_eq_true_eq]
    omega

/-- Two parts of a list that is in order make up the list when they are merged. -/
theorem mergePlaces_filter (p : Container × Nat → Bool) {xs : List (Container × Nat)}
    (sorted : xs.Pairwise fun x y => x.2 < y.2) :
    mergePlaces (xs.filter p) (xs.filter fun x => !p x) = xs := by
  induction xs with
  | nil => exact List.nil_merge _
  | cons x xs ih =>
    obtain ⟨first, rest⟩ := List.pairwise_cons.mp sorted
    -- The first entry is in front of all others, whichever part it is in itself.
    have front : ∀ (q : Container × Nat → Bool), ∀ y ∈ xs.filter q, x.2 < y.2 := by
      intro q y hy
      exact first y (List.mem_filter.mp hy).1
    cases chosen : p x with
    | true =>
      rw [List.filter_cons_of_pos chosen, List.filter_cons_of_neg (by simp [chosen]),
        mergePlaces_cons_left (front _), ih rest]
    | false =>
      rw [List.filter_cons_of_neg (by simp [chosen]), List.filter_cons_of_pos (by simp [chosen]),
        mergePlaces_cons_right (front _), ih rest]

end Merging

section Parts
variable (query : String) (cs : List Container)

theorem occurrences_running : occurrences .running query cs =
    (occurrences .all query cs).filter fun x => x.1.isRunning := by
  unfold occurrences
  rw [List.filter_filter]
  rfl

theorem occurrences_stopped : occurrences .stopped query cs =
    (occurrences .all query cs).filter fun x => !x.1.isRunning := by
  unfold occurrences
  rw [List.filter_filter]
  rfl

/-- The choices by state and by query go together. -/
structure Composes : Prop where
  ordered : ∀ state, (inNamedState state cs).map (search query) = visible state query cs ∧
    inNamedState state (search query cs) = visible state query cs
  unknown : ∀ state, visible state query cs = .error (.named state) ↔
    state ∉ StateFilter.options.map StateFilter.name
  sublist : ∀ state shown, visible state query cs = .ok shown →
    shown.Sublist cs ∧ visible state query shown = .ok shown
  settled : search query (search query cs) = search query cs
  placed : ∀ f : StateFilter,
    visible f.name query cs = .ok ((occurrences f query cs).map Prod.fst) ∧
      ((occurrences f query cs).Pairwise fun x y => x.2 < y.2) ∧
      ∀ x, x ∈ occurrences f query cs ↔
        cs[x.2]? = some x.1 ∧ visible f.name query [x.1] = .ok [x.1]
  parted : ∀ x ∈ occurrences .all query cs,
    Xor (x ∈ occurrences .running query cs) (x ∈ occurrences .stopped query cs)
  merged : mergePlaces (occurrences .running query cs) (occurrences .stopped query cs) =
    occurrences .all query cs

theorem choices_compose : Composes query cs where
  ordered state := ⟨rfl, inNamedState_search state query cs⟩
  unknown _ := visible_eq_error_iff
  sublist _ _ h := ⟨sublist_of_visible h, visible_of_visible h⟩
  settled := search_search query cs
  placed f := by
    refine ⟨?_, pairwise_occurrences f query cs, fun x => mem_occurrences_iff f query cs⟩
    rw [visible_name, map_fst_occurrences]
  parted x shown := by
    rw [occurrences_running, occurrences_stopped, List.mem_filter, List.mem_filter]
    cases x.1.isRunning with
    | true => exact .inl ⟨⟨shown, rfl⟩, fun stopped => by cases stopped.2⟩
    | false => exact .inr ⟨⟨shown, rfl⟩, fun running => by cases running.2⟩
  merged := by
    rw [occurrences_running, occurrences_stopped]
    exact mergePlaces_filter _ (pairwise_occurrences .all query cs)

end Parts

end DevEnv.Container
