import DevEnv.Proofs.Outcome
import DevEnv.Validation.Reader
import Mathlib.Data.List.Forall2

/-!
What readers accept, reader by reader. A reader of a whole accepts exactly if the readers of its
parts do, and one that refuses always says why.
-/

namespace DevEnv

set_option autoImplicit false

open Outcome

variable {α β : Type}

namespace Checked

theorem both_eq_ok_iff {x : Checked α} {y : Checked β} {p : α × β} :
    x.both y = .ok p ↔ x = .ok p.1 ∧ y = .ok p.2 := by
  obtain ⟨a, b⟩ := p
  cases x <;> cases y <;> simp [both]

theorem under_eq_ok_iff {step : PathStep} {x : Checked α} {a : α} :
    x.under step = .ok a ↔ x = .ok a := by
  cases x <;> simp [under]

theorem ofRule_eq_ok_iff {x : Except Refusal α} {a : α} : ofRule x = .ok a ↔ x = .ok a := by
  cases x <;> simp [ofRule]

/-! ### Refusals name an issue -/

/-- Whoever refuses gives a reason. -/
def Explained (x : Checked α) : Prop := x ≠ .error []

theorem explained_ok (a : α) : Explained (.ok a : Checked α) := nofun

theorem explained_ofRule (x : Except Refusal α) : Explained (ofRule x) := by
  cases x with
  | ok a => exact explained_ok a
  | error cause => exact fun h => List.cons_ne_nil _ _ (Except.error.inj h)

theorem Explained.both {x : Checked α} {y : Checked β} (hx : Explained x) (hy : Explained y) :
    Explained (x.both y) := by
  cases x with
  | ok a =>
    cases y with
    | ok b => exact explained_ok (a, b)
    | error js => exact fun h => hy (by rw [Except.error.inj h])
  | error is =>
    cases y with
    | ok b => exact fun h => hx (by rw [Except.error.inj h])
    | error js =>
      exact fun h => hx (by rw [List.append_eq_nil_iff.mp (Except.error.inj h) |>.1])

theorem Explained.under {step : PathStep} {x : Checked α} (hx : Explained x) :
    Explained (x.under step) := by
  cases x with
  | ok a => exact explained_ok a
  | error is =>
    intro h
    have hnil := List.map_eq_nil_iff.mp (Except.error.inj h)
    exact hx (by rw [hnil])

theorem Explained.map {f : α → β} {x : Checked α} (hx : Explained x) : Explained (x.map f) := by
  cases x with
  | ok a => exact explained_ok (f a)
  | error is => exact fun h => hx (by rw [Except.error.inj h])

theorem Explained.bind {f : α → Checked β} {x : Checked α} (hx : Explained x)
    (hf : ∀ a, Explained (f a)) : Explained (x >>= f) := by
  cases x with
  | ok a => exact hf a
  | error is => exact fun h => hx (by rw [Except.error.inj h])

end Checked

namespace Reader

open Checked

/-- What a value that may be null stands for, if `R` tells it of all others. -/
inductive Nullably (R : Json → α → Prop) : Json → Option α → Prop
  | null : Nullably R .null none
  | given {v : Json} {a : α} : v ≠ .null → R v a → Nullably R v (some a)

/-- What a field that may be absent stands for, if `R` tells it of what is given. -/
inductive Optionally (R : Json → α → Prop) (default : α) : Option Json → α → Prop
  | absent : Optionally R default none default
  | given {v : Json} {a : α} : R v a → Optionally R default (some v) a

section Accepting
variable {read : Json → Checked α} {fs : Fields} {name : String}

theorem text_eq_ok_iff {v : Json} {s : String} : text v = .ok s ↔ v = .text s := by
  cases v <;> simp [text, fail]

theorem nullable_eq_ok_iff {v : Json} {o : Option α} :
    nullable read v = .ok o ↔ Nullably (fun v a => read v = .ok a) v o := by
  unfold nullable
  constructor
  · intro h
    split at h
    · rw [← Except.ok.inj h]
      exact .null
    · rename_i hnull
      obtain ⟨a, ha, rfl⟩ := map_eq_ok_iff.mp h
      exact .given hnull ha
  · intro h
    cases h with
    | null => rfl
    | given hnull ha =>
      split
      · exact absurd rfl hnull
      · exact map_eq_ok_iff.mpr ⟨_, ha, rfl⟩

theorem itemsFrom_eq_ok_iff {vs : List Json} {i : Nat} {as : List α} :
    itemsFrom read i vs = .ok as ↔ List.Forall₂ (fun v a => read v = .ok a) vs as := by
  induction vs generalizing i as with
  | nil => simp [itemsFrom, eq_comm]
  | cons v vs ih =>
    rw [itemsFrom, map_eq_ok_iff, List.forall₂_cons_left_iff]
    constructor
    · rintro ⟨⟨a, rest⟩, hboth, rfl⟩
      obtain ⟨ha, hrest⟩ := both_eq_ok_iff.mp hboth
      exact ⟨a, rest, under_eq_ok_iff.mp ha, ih.mp hrest, rfl⟩
    · rintro ⟨a, rest, ha, hrest, rfl⟩
      exact ⟨(a, rest), both_eq_ok_iff.mpr ⟨under_eq_ok_iff.mpr ha, ih.mpr hrest⟩, rfl⟩

theorem listOf_eq_ok_iff {v : Json} {as : List α} :
    listOf read v = .ok as ↔
      ∃ vs, v = .list vs ∧ List.Forall₂ (fun v a => read v = .ok a) vs as := by
  cases v <;> simp [listOf, fail, itemsFrom_eq_ok_iff]

theorem record_eq_ok_iff {kind : String} {readFields : Fields → Checked α} {v : Json} {a : α} :
    record kind readFields v = .ok a ↔ ∃ fs, v = .object fs ∧ readFields fs = .ok a := by
  cases v <;> simp [record, fail]

theorem required_eq_ok_iff {a : α} :
    required name read fs = .ok a ↔ ∃ v, fs.lookup name = some v ∧ read v = .ok a := by
  unfold required
  split
  · rename_i v hv
    simp [hv, under_eq_ok_iff]
  · rename_i hv
    simp [hv]

theorem defaulted_eq_ok_iff {default a : α} :
    defaulted name default read fs = .ok a ↔
      Optionally (fun v a => read v = .ok a) default (fs.lookup name) a := by
  unfold defaulted
  split
  · rename_i v hv
    rw [under_eq_ok_iff, hv]
    constructor
    · exact fun h => .given h
    · intro h
      cases h with
      | given ha => exact ha
  · rename_i hv
    rw [hv]
    constructor
    · intro h
      rw [← Except.ok.inj h]
      exact .absent
    · intro h
      cases h
      rfl

/-- Two texts and a rule on them. -/
theorem texts_eq_ok_iff {first second : String} {rule : String → String → Except Refusal α}
    {a : α} :
    ((required first text fs).both (required second text fs) >>= fun p =>
      ofRule (rule p.1 p.2)) = .ok a ↔
      ∃ s t, fs.lookup first = some (.text s) ∧ fs.lookup second = some (.text t) ∧
        rule s t = .ok a := by
  simp only [bind_eq_ok_iff, both_eq_ok_iff, required_eq_ok_iff, text_eq_ok_iff, ofRule_eq_ok_iff]
  constructor
  · rintro ⟨⟨s, t⟩, ⟨⟨_, hs, rfl⟩, _, ht, rfl⟩, hrule⟩
    exact ⟨s, t, hs, ht, hrule⟩
  · rintro ⟨s, t, hs, ht, hrule⟩
    exact ⟨(s, t), ⟨⟨_, hs, rfl⟩, _, ht, rfl⟩, hrule⟩

end Accepting

section Refusing
variable {read : Json → Checked α} (hread : ∀ v, Explained (read v))

theorem explained_fail (p : Problem) : Explained (fail p : Checked α) :=
  fun h => List.cons_ne_nil _ _ (Except.error.inj h)

theorem explained_text (v : Json) : Explained (text v) := by
  cases v with
  | text s => exact explained_ok s
  | _ => exact explained_fail _

theorem explained_integerOfReal (x : Binary64) : Explained (integerOfReal x) := by
  unfold integerOfReal
  split
  · exact explained_fail _
  · split
    · split
      · exact explained_ok _
      · exact explained_fail _
    · exact explained_fail _

theorem explained_integer (v : Json) : Explained (integer v) := by
  cases v with
  | integer n => exact explained_ok n
  | bool b => exact explained_ok _
  | real x => exact explained_integerOfReal x
  | text s =>
    simp only [integer, integerOfText]
    split
    · exact explained_ok _
    · exact explained_fail _
    · exact explained_fail _
  | _ => exact explained_fail _

theorem explained_flagOfInteger (n : Int) : Explained (flagOfInteger n) := by
  unfold flagOfInteger
  split
  · exact explained_ok _
  · split
    · exact explained_ok _
    · exact explained_fail _

theorem explained_flag (v : Json) : Explained (flag v) := by
  cases v with
  | bool b => exact explained_ok b
  | integer n => exact explained_flagOfInteger n
  | real x =>
    simp only [flag]
    split
    · exact explained_flagOfInteger _
    · exact explained_fail _
  | text s =>
    simp only [flag, flagOfText]
    split
    · exact explained_ok _
    · split
      · exact explained_ok _
      · exact explained_fail _
  | _ => exact explained_fail _

include hread

theorem explained_nullable (v : Json) : Explained (nullable read v) := by
  unfold nullable
  split
  · exact explained_ok _
  · exact (hread v).map

theorem explained_itemsFrom (i : Nat) (vs : List Json) : Explained (itemsFrom read i vs) := by
  induction vs generalizing i with
  | nil => exact explained_ok _
  | cons v vs ih => exact ((hread v).under.both (ih (i + 1))).map

theorem explained_listOf (v : Json) : Explained (listOf read v) := by
  cases v with
  | list vs => exact explained_itemsFrom hread 0 vs
  | _ => exact explained_fail _

theorem explained_required (name : String) (fs : Fields) : Explained (required name read fs) := by
  unfold required
  split
  · exact (hread _).under
  · exact fun h => List.cons_ne_nil _ _ (Except.error.inj h)

theorem explained_defaulted (name : String) (default : α) (fs : Fields) :
    Explained (defaulted name default read fs) := by
  unfold defaulted
  split
  · exact (hread _).under
  · exact explained_ok _

omit hread

theorem explained_record {kind : String} {readFields : Fields → Checked α}
    (hfields : ∀ fs, Explained (readFields fs)) (v : Json) :
    Explained (record kind readFields v) := by
  cases v with
  | object fs => exact hfields fs
  | _ => exact explained_fail _

end Refusing

end Reader

end DevEnv
