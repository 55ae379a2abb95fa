import DevEnv.Json.Parser
import DevEnv.Json.Printer

/-!
Strings of JSON text. Whatever a string is escaped by, it is read back up to its closing quote, and
what stands behind that is left alone.
-/

namespace DevEnv

set_option autoImplicit false

theorem Text.isSurrogate_toNat (c : Char) : isSurrogate c.toNat = false := by
  have hvalid : c.toNat < 0xD800 ∨ 0xDFFF < c.toNat ∧ c.toNat < 0x110000 := c.valid
  simp only [isSurrogate, Bool.and_eq_false_iff, decide_eq_false_iff_not]
  omega

namespace Json

/-! ### Escapes -/

theorem hexDigit?_digitChar {n : Nat} (h : n < 16) : Text.hexDigit? (Nat.digitChar n) = some n := by
  have all : ∀ n, n < 16 → Text.hexDigit? (Nat.digitChar n) = some n := by decide
  exact all n h

theorem stringPoints_unitEscape {n : Nat} (h : n < 0x10000) (cs : List Char) :
    stringPoints (unitEscape n ++ cs) = (stringPoints cs).map fun r => (n :: r.1, r.2) := by
  have hdigit : ∀ m, Text.hexDigit? (Nat.digitChar (m % 16)) = some (m % 16) :=
    fun m => hexDigit?_digitChar (Nat.mod_lt m (by decide))
  have hunit : unit? (Nat.digitChar (n / 16 / 16 / 16 % 16)) (Nat.digitChar (n / 16 / 16 % 16))
      (Nat.digitChar (n / 16 % 16)) (Nat.digitChar (n % 16)) = some n := by
    simp only [unit?, hdigit, Option.pure_def, Option.bind_eq_bind, Option.bind_some,
      Option.some.injEq]
    omega
  simp only [unitEscape, Text.hex, List.nil_append, List.cons_append]
  rw [stringPoints, if_neg (by decide), if_pos rfl]
  simp only [hunit, Option.bind_eq_bind, Option.bind_some]
  cases stringPoints cs <;> rfl

/-- A backslash and a letter that no digits follow. -/
theorem stringPoints_escape {c : Char} {n : Nat} (h : escape? c = some n) (cs : List Char) :
    stringPoints ('\\' :: c :: cs) = (stringPoints cs).map fun r => (n :: r.1, r.2) := by
  have hc : c ≠ 'u' := by
    rintro rfl
    simp [escape?] at h
  rw [stringPoints.eq_def]
  simp only [if_pos]
  rw [if_neg (by decide)]
  split
  · rename_i heq
    exact absurd (List.cons.inj heq).1 hc
  · rename_i heq
    obtain ⟨rfl, rfl⟩ := List.cons.inj heq
    simp only [h, Option.bind_eq_bind, Option.bind_some]
    cases stringPoints cs <;> rfl
  · rename_i heq
    cases heq

theorem stringPoints_plain {c : Char} (hquote : c ≠ '"') (hslash : c ≠ '\\')
    (hcontrol : ¬ c.toNat < 0x20) (cs : List Char) :
    stringPoints (c :: cs) = (stringPoints cs).map fun r => (c.toNat :: r.1, r.2) := by
  rw [stringPoints.eq_def]
  simp only [if_neg hquote, if_neg hslash, if_neg hcontrol]
  cases stringPoints cs <;> rfl

/-! ### Characters -/

/-- What a character is read as before halves are joined: its code point, or the two halves that an
escape of it is made of. -/
def units (e : Escaping) (c : Char) : List Nat :=
  if e = .required ∨ c.toNat < 0x10000 then [c.toNat]
  else [0xD800 + (c.toNat - 0x10000) / 0x400, 0xDC00 + (c.toNat - 0x10000) % 0x400]

theorem stringPoints_escapedChar (e : Escaping) (c : Char) (cs : List Char) :
    stringPoints (escapedChar e c ++ cs) =
      (stringPoints cs).map fun r => (units e c ++ r.1, r.2) := by
  have hsmall : ∀ {c : Char}, c.toNat < 0x10000 → units e c = [c.toNat] := fun h => if_pos (.inr h)
  unfold escapedChar
  dsimp only
  -- The last case is that of the characters for which there is no letter.
  split
  case h_8 hquote hslash _ _ _ _ _ =>
    split
    · rename_i hcontrol
      have hc : c.toNat < 0x10000 := by omega
      rw [hsmall hc]
      exact stringPoints_unitEscape hc cs
    · rename_i hcontrol
      split
      · rename_i hplain
        have hunits : units e c = [c.toNat] :=
          if_pos (hplain.symm.imp id fun h => by omega)
        rw [hunits]
        exact stringPoints_plain hquote hslash hcontrol cs
      · rename_i hescaped
        split
        · rename_i hc
          rw [hsmall hc]
          exact stringPoints_unitEscape hc cs
        · rename_i hc
          have hvalid : c.toNat < 0xD800 ∨ 0xDFFF < c.toNat ∧ c.toNat < 0x110000 := c.valid
          have hunits : units e c = [0xD800 + (c.toNat - 0x10000) / 0x400,
              0xDC00 + (c.toNat - 0x10000) % 0x400] :=
            if_neg fun h => h.elim (fun he => hescaped (.inr he)) hc
          rw [hunits, List.append_assoc, stringPoints_unitEscape (by omega),
            stringPoints_unitEscape (by omega), Option.map_map]
          rfl
  all_goals
    rw [hsmall (by decide)]
    exact stringPoints_escape rfl cs

theorem joinPairs_cons_of_apart {n : Nat} {ns : List Nat}
    (h : ∀ m ∈ ns.head?, ¬ (Text.isHighSurrogate n = true ∧ Text.isLowSurrogate m = true)) :
    Text.joinPairs (n :: ns) = n :: Text.joinPairs ns := by
  cases ns with
  | nil => rfl
  | cons m ns =>
    rw [Text.joinPairs, if_neg]
    rw [Bool.and_eq_true]
    exact h m rfl

theorem joinPairs_cons {n : Nat} (h : Text.isHighSurrogate n = false) (ns : List Nat) :
    Text.joinPairs (n :: ns) = n :: Text.joinPairs ns := by
  refine joinPairs_cons_of_apart ?_
  rintro m - ⟨high, -⟩
  rw [h] at high
  cases high

theorem pairPoint_halves {n : Nat} (h : 0x10000 ≤ n) :
    Text.pairPoint (0xD800 + (n - 0x10000) / 0x400) (0xDC00 + (n - 0x10000) % 0x400) = n := by
  unfold Text.pairPoint
  omega

theorem joinPairs_units (e : Escaping) (c : Char) (ns : List Nat) :
    Text.joinPairs (units e c ++ ns) = c.toNat :: Text.joinPairs ns := by
  have hvalid : c.toNat < 0xD800 ∨ 0xDFFF < c.toNat ∧ c.toNat < 0x110000 := c.valid
  unfold units
  split
  · refine joinPairs_cons ?_ ns
    simp only [Text.isHighSurrogate, Bool.and_eq_false_iff, decide_eq_false_iff_not]
    omega
  · have hhigh : Text.isHighSurrogate (0xD800 + (c.toNat - 0x10000) / 0x400) = true := by
      simp only [Text.isHighSurrogate, Bool.and_eq_true, decide_eq_true_eq]
      omega
    have hlow : Text.isLowSurrogate (0xDC00 + (c.toNat - 0x10000) % 0x400) = true := by
      simp only [Text.isLowSurrogate, Bool.and_eq_true, decide_eq_true_eq]
      omega
    have hpoint := pairPoint_halves (n := c.toNat) (by omega)
    simp only [List.cons_append, List.nil_append]
    rw [Text.joinPairs.eq_def]
    simp only [hhigh, hlow, hpoint, Bool.and_self, if_true]

/-! ### Strings -/

/-- A string is read piece by piece. -/
theorem stringPoints_flatMap {α : Type} {f : α → List Char} {u : α → List Nat}
    (piece : ∀ a cs, stringPoints (f a ++ cs) =
      (stringPoints cs).map fun r => (u a ++ r.1, r.2)) (as : List α) (rest : List Char) :
    stringPoints (as.flatMap f ++ '"' :: rest) = some (as.flatMap u, rest) := by
  induction as with
  | nil =>
    rw [List.flatMap_nil, List.nil_append, stringPoints.eq_def]
    exact if_pos rfl
  | cons a as ih =>
    rw [List.flatMap_cons, List.append_assoc, piece, ih]
    rfl

theorem stringPoints_escaped (e : Escaping) (cs rest : List Char) :
    stringPoints (cs.flatMap (escapedChar e) ++ '"' :: rest) =
      some (cs.flatMap (units e), rest) :=
  stringPoints_flatMap (stringPoints_escapedChar e) cs rest

theorem joinPairs_flatMap_units (e : Escaping) (cs : List Char) :
    Text.joinPairs (cs.flatMap (units e)) = cs.map Char.toNat := by
  induction cs with
  | nil => rfl
  | cons c cs ih => rw [List.flatMap_cons, joinPairs_units, ih, List.map_cons]

theorem string_escaped (e : Escaping) (s : String) (rest : List Char) :
    string (s.toList.flatMap (escapedChar e) ++ '"' :: rest) =
      .ok (s.toList.map Char.toNat, rest) := by
  simp only [string, stringPoints_escaped, joinPairs_flatMap_units]

theorem textOfPoints?_toNat (s : String) : textOfPoints? (s.toList.map Char.toNat) = some s := by
  have hnone : (s.toList.map Char.toNat).any Text.isSurrogate = false := by
    simp [List.any_eq_false, Text.isSurrogate_toNat]
  have hback : (s.toList.map Char.toNat).map Char.ofNat = s.toList := by
    simp [Function.comp_def]
  rw [textOfPoints?, hnone, hback]
  simp

theorem ofPoints_toNat (s : String) : ofPoints (s.toList.map Char.toNat) = .text s := by
  simp [ofPoints, textOfPoints?_toNat]

theorem bindPoints_toNat (key : String) (v : Json) (found : List (String × Json)) :
    bindPoints (key.toList.map Char.toNat) v found = bind key v found := by
  rw [bindPoints, textOfPoints?_toNat]

theorem toList_quote (e : Escaping) (s : String) :
    (quote e s).toList = '"' :: (s.toList.flatMap (escapedChar e) ++ ['"']) := by
  simp [quote]

end Json

end DevEnv
