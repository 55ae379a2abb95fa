import DevEnv.Proofs.ImageName.Legality
import DevEnv.Proofs.Text.Lower
import Mathlib.Data.Set.Operations

/-!
The texts that are tokens. A text of their form is left as it is when a token is made of it, so tokens
are exactly the texts of that form.
-/

namespace DevEnv.ImageName

set_option autoImplicit false

def TokenChar (c : Char) : Prop :=
  ('a' ≤ c ∧ c ≤ 'z') ∨ ('0' ≤ c ∧ c ≤ '9') ∨ c = '_' ∨ c = '.' ∨ c = '-'

structure Normal (s : String) : Prop where
  filled : s ≠ ""
  characters : ∀ c ∈ s.toList, TokenChar c
  alone : ¬ ['-', '-'] <:+: s.toList
  first : s.toList.head? ≠ some '-'
  last : s.toList.getLast? ≠ some '-'

variable {c : Char} {cs : List Char} {s : String}

theorem isKept_iff : isKept c = true ↔ TokenChar c := by
  have digit : c.isDigit = true ↔ '0' ≤ c ∧ c ≤ '9' := by
    unfold Char.isDigit
    rw [Bool.and_eq_true, decide_eq_true_iff, decide_eq_true_iff]
    rfl
  unfold isKept TokenChar
  simp only [Bool.or_eq_true, Bool.and_eq_true, decide_eq_true_eq, beq_iff_eq, or_assoc, digit]

/-! ### Lower case -/

theorem TokenChar.code (h : TokenChar c) :
    (97 ≤ c.toNat ∧ c.toNat ≤ 122) ∨ (45 ≤ c.toNat ∧ c.toNat ≤ 57) ∨ c.toNat = 95 := by
  rcases h with ⟨above, below⟩ | ⟨above, below⟩ | rfl | rfl | rfl
  · exact .inl ⟨above, below⟩
  · have least : 48 ≤ c.toNat := above
    exact .inr (.inl ⟨by omega, below⟩)
  all_goals decide

theorem TokenChar.lowerChar_eq (h : TokenChar c) : Text.lowerChar c = [c] := by
  have code := h.code
  rw [Text.lowerChar, if_pos (by omega), Text.toLower_eq_self (by omega)]

theorem lowerAfter_eq_self (h : ∀ c ∈ cs, TokenChar c) (before : List Char) :
    Text.lowerAfter before cs = cs := by
  induction cs generalizing before with
  | nil => rfl
  | cons c cs ih =>
    have here : TokenChar c := h c List.mem_cons_self
    have sigma : c ≠ 'Σ' := by
      rintro rfl
      have code : 'Σ'.toNat < 128 := by
        have := here.code
        omega
      exact absurd code (by decide)
    rw [Text.lowerAfter, if_neg sigma, here.lowerChar_eq, ih fun d hd => h d (.tail c hd)]
    rfl

theorem lowered_eq_self (h : ∀ c ∈ s.toList, TokenChar c) : lowered (some s) = s.toList := by
  change (String.ofList (Text.lowerAfter [] s.toList)).toList = s.toList
  rw [String.toList_ofList, lowerAfter_eq_self h]

/-! ### Hyphens -/

theorem map_hyphenate_eq_self (h : ∀ c ∈ cs, TokenChar c) : cs.map hyphenate = cs := by
  have each : ∀ c ∈ cs, hyphenate c = id c := by
    intro c hc
    exact if_pos (isKept_iff.mpr (h c hc))
  rw [List.map_congr_left each, List.map_id]

theorem squeeze_eq_self (h : ¬ ['-', '-'] <:+: cs) : squeeze cs = cs := by
  induction cs using squeeze.induct with
  | case1 rest ih => exact absurd ⟨[], rest, rfl⟩ h
  | case2 c rest other ih =>
    rw [squeeze_cons other, ih]
    intro inside
    exact h (inside.trans (List.suffix_cons c rest).isInfix)
  | case3 => rfl

theorem trim_eq_self {fills : Char → Bool} (first : ∀ c ∈ cs.head?, fills c = false)
    (last : ∀ c ∈ cs.getLast?, fills c = false) : trim fills cs = cs := by
  have front : cs.dropWhile fills = cs := by
    cases cs with
    | nil => rfl
    | cons c cs => exact List.dropWhile_cons_of_neg (by simp [first c rfl])
  unfold trim
  rw [front, List.rdropWhile_eq_self_iff]
  intro filled
  rw [last _ (List.getLast?_eq_some_getLast filled)]
  exact Bool.false_ne_true

theorem isHyphen_eq_false (h : c ≠ '-') : isHyphen c = false := beq_false_of_ne h

theorem kept_eq_self (h : Normal s) : kept (some s) = s.toList := by
  unfold kept
  rw [lowered_eq_self h.characters, map_hyphenate_eq_self h.characters, squeeze_eq_self h.alone,
    trimHyphens_eq]
  apply trim_eq_self
  · intro c hc
    apply isHyphen_eq_false
    rintro rfl
    exact h.first hc
  · intro c hc
    apply isHyphen_eq_false
    rintro rfl
    exact h.last hc

theorem token_eq_self (h : Normal s) : token (some s) = s := by
  apply String.toList_inj.mp
  rw [token_toList, kept_eq_self h, if_neg]
  intro empty
  exact h.filled (String.toList_eq_nil_iff.mp empty)

theorem normal_token (name : Option String) : Normal (token name) where
  filled := by
    obtain ⟨c, cs, token_eq, -⟩ := token_toList_eq_cons name
    intro empty
    rw [empty] at token_eq
    cases token_eq
  characters c hc := isKept_iff.mp (isKept_of_mem_token hc)
  alone := by
    rintro ⟨before, rest, whole⟩
    have apart := isChain_token name
    have here := List.isChain_iff_forall_rel_of_append_cons_cons.mp apart
      (whole.symm.trans (List.append_assoc before ['-', '-'] rest))
    exact here ⟨rfl, rfl⟩
  first h := ends_token (.inl h) rfl
  last h := ends_token (.inr h) rfl

/-- Making a token of a name is a retraction onto the normal texts: what it makes is normal, and it
leaves as they are the normal texts and no others. -/
theorem token_retracts :
    (∀ name, Normal (token name)) ∧
    (∀ s, token (some s) = s ↔ Normal s) ∧
    (∀ name, token (some (token name)) = token name) ∧
    Set.range token = {s | Normal s} := by
  refine ⟨normal_token, fun s => ⟨?_, token_eq_self⟩, fun name => token_eq_self (normal_token name), ?_⟩
  · intro fixed
    rw [← fixed]
    exact normal_token (some s)
  · ext s
    constructor
    · rintro ⟨name, rfl⟩
      exact normal_token name
    · intro normal
      exact ⟨some s, token_eq_self normal⟩

end DevEnv.ImageName
