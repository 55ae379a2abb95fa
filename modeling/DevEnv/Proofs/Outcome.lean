import Mathlib.Data.List.Forall2

/-!
Taking a computation apart that may fail: it has a result exactly if all its parts have.
-/

namespace DevEnv.Outcome

set_option autoImplicit false

universe u v w
variable {ε : Type u} {α β : Type v}

theorem bind_eq_ok_iff {x : Except ε α} {f : α → Except ε β} {b : β} :
    (x >>= f) = .ok b ↔ ∃ a, x = .ok a ∧ f a = .ok b := by
  cases x with
  | error e => simp [bind, Except.bind]
  | ok a => simp [bind, Except.bind]

theorem bind_eq_error_iff {x : Except ε α} {f : α → Except ε β} {e : ε} :
    (x >>= f) = .error e ↔ x = .error e ∨ ∃ a, x = .ok a ∧ f a = .error e := by
  cases x with
  | error e' => simp [bind, Except.bind]
  | ok a => simp [bind, Except.bind]

theorem map_eq_ok_iff {x : Except ε α} {f : α → β} {b : β} :
    x.map f = .ok b ↔ ∃ a, x = .ok a ∧ f a = b := by
  cases x with
  | error e => simp [Except.map]
  | ok a => simp [Except.map]

theorem map_eq_error_iff {x : Except ε α} {f : α → β} {e : ε} :
    x.map f = .error e ↔ x = .error e := by
  cases x with
  | error e' => simp [Except.map]
  | ok a => simp [Except.map]

theorem mapError_eq_ok_iff {δ : Type w} {x : Except ε α} {f : ε → δ} {a : α} :
    x.mapError f = .ok a ↔ x = .ok a := by
  cases x with
  | error e =>
    constructor <;> intro h <;> cases h
  | ok b =>
    constructor
    · intro h
      rw [Except.ok.inj h]
    · intro h
      rw [Except.ok.inj h]
      rfl

theorem ite_eq_ok_iff {p : Prop} [Decidable p] {a b : α} {e : ε} :
    (if p then .ok a else .error e : Except ε α) = .ok b ↔ p ∧ a = b := by
  split
  · rename_i holds
    rw [Except.ok.injEq, and_iff_right holds]
  · rename_i fails
    exact iff_of_false nofun fun h => fails h.1

theorem exists_of_isOk {x : Except ε α} (h : x.isOk = true) : ∃ a, x = .ok a := by
  cases x with
  | error e => cases h
  | ok a => exact ⟨a, rfl⟩

/-- A list is mapped item by item. -/
theorem mapM_eq_ok_iff_forall₂ {f : α → Except ε β} {as : List α} {bs : List β} :
    as.mapM f = .ok bs ↔ List.Forall₂ (fun a b => f a = .ok b) as bs := by
  induction as generalizing bs with
  | nil =>
    rw [List.forall₂_nil_left_iff]
    constructor
    · intro h
      exact (Except.ok.inj h).symm
    · rintro rfl
      rfl
  | cons a as ih =>
    rw [List.mapM_cons, bind_eq_ok_iff, List.forall₂_cons_left_iff]
    constructor
    · rintro ⟨b, first, h⟩
      obtain ⟨rest, others, h⟩ := bind_eq_ok_iff.mp h
      exact ⟨b, rest, first, ih.mp others, (Except.ok.inj h).symm⟩
    · rintro ⟨b, rest, first, others, rfl⟩
      exact ⟨b, first, bind_eq_ok_iff.mpr ⟨rest, ih.mpr others, rfl⟩⟩

theorem exists_of_mapM {f : α → Except ε β} {as : List α} {bs : List β}
    (h : as.mapM f = .ok bs) :
    (∀ a ∈ as, ∃ b ∈ bs, f a = .ok b) ∧ ∀ b ∈ bs, ∃ a ∈ as, f a = .ok b := by
  induction mapM_eq_ok_iff_forall₂.mp h with
  | nil => exact ⟨nofun, nofun⟩
  | @cons a b as bs first others ih =>
    obtain ⟨forward, back⟩ := ih (mapM_eq_ok_iff_forall₂.mpr others)
    constructor
    · refine List.forall_mem_cons.mpr ⟨⟨b, List.mem_cons_self, first⟩, fun a' ha' => ?_⟩
      obtain ⟨b', hb', same⟩ := forward a' ha'
      exact ⟨b', .tail b hb', same⟩
    · refine List.forall_mem_cons.mpr ⟨⟨a, List.mem_cons_self, first⟩, fun b' hb' => ?_⟩
      obtain ⟨a', ha', same⟩ := back b' hb'
      exact ⟨a', .tail a ha', same⟩

theorem exists_mapM_iff {f : α → Except ε β} {as : List α} :
    (∃ bs, as.mapM f = .ok bs) ↔ ∀ a ∈ as, ∃ b, f a = .ok b := by
  constructor
  · rintro ⟨bs, mapped⟩ a ha
    obtain ⟨b, -, result⟩ := (exists_of_mapM mapped).1 a ha
    exact ⟨b, result⟩
  · intro each
    induction as with
    | nil => exact ⟨[], rfl⟩
    | cons a as ih =>
      obtain ⟨b, first⟩ := each a List.mem_cons_self
      obtain ⟨bs, rest⟩ := ih fun a' ha' => each a' (.tail a ha')
      exact ⟨b :: bs, mapM_eq_ok_iff_forall₂.mpr (.cons first (mapM_eq_ok_iff_forall₂.mp rest))⟩

/-- A list is mapped by a function that has a result exactly where a condition holds. -/
theorem mapM_eq_ok_iff {f : α → Except ε β} {p : α → Prop} {g : α → β}
    (each : ∀ {a b}, f a = .ok b ↔ p a ∧ g a = b) {as : List α} {bs : List β} :
    as.mapM f = .ok bs ↔ (∀ a ∈ as, p a) ∧ as.map g = bs := by
  simp only [mapM_eq_ok_iff_forall₂, each]
  rw [List.forall₂_and_left, ← List.forall₂_eq_eq_eq, List.forall₂_map_left_iff]

/-- Where items can fail in one way only, a list fails in that way if one of its items does. -/
theorem mapM_eq_error_iff {f : α → Except ε β} {e : ε} (only : ∀ a e', f a = .error e' → e' = e)
    {as : List α} {e' : ε} :
    as.mapM f = .error e' ↔ e' = e ∧ ∃ a ∈ as, f a = .error e := by
  induction as with
  | nil =>
    constructor
    · intro h
      cases h
    · rintro ⟨-, a, ha, -⟩
      cases ha
  | cons a as ih =>
    rw [List.mapM_cons]
    simp only [List.mem_cons, exists_eq_or_imp]
    cases first : f a with
    | error e'' =>
      obtain rfl := only a e'' first
      constructor
      · intro h
        obtain rfl := Except.error.inj h
        exact ⟨rfl, .inl rfl⟩
      · rintro ⟨rfl, -⟩
        rfl
    | ok b =>
      have alike : (Except.ok b : Except ε β) ≠ .error e := nofun
      rw [or_iff_right alike, ← ih]
      cases as.mapM f with
      | error e'' => exact Iff.rfl
      | ok bs => exact iff_of_false nofun nofun

end DevEnv.Outcome
