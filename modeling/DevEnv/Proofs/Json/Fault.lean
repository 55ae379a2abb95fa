import DevEnv.Json.Parser
import Mathlib.Data.List.Infix

/-!
Why reading JSON text goes wrong otherwise than by bad form: there is a run of digits over the limit
in the text, or it has more opening brackets than values may be nested.
-/

namespace DevEnv.Json

set_option autoImplicit false

/-- Whether a list or an object begins with this. -/
def isOpening (c : Char) : Bool := c == '[' || c == '\x7b'

/-- What a text has that makes a fault of it; text of any kind can be of bad form. -/
def ParseFault.CausedBy (limit : DigitLimit) (depth : Nat) (cs : List Char) : ParseFault → Prop
  | .malformed => True
  | .integerTooLong =>
    ∃ ds, ds <:+: cs ∧ (∀ c ∈ ds, c.isDigit = true) ∧ limit.allows ds.length = false
  | .tooDeep _ => depth < cs.countP isOpening

/-- A reader goes on in the text, or has a cause for its fault in it. -/
def Consumes (limit : DigitLimit) (depth : Nat) (cs : List Char) {α : Type} :
    Parsed (α × List Char) → Prop
  | .ok (_, rest) => rest <:+ cs
  | .error fault => fault.CausedBy limit depth cs

section Readers
variable {limit : DigitLimit} {depth : Nat} {cs rest : List Char} {α β : Type}

theorem ParseFault.CausedBy.mono {fault : ParseFault} (h : fault.CausedBy limit depth rest)
    (hrest : rest <:+ cs) : fault.CausedBy limit depth cs := by
  cases fault with
  | malformed => trivial
  | integerTooLong =>
    obtain ⟨ds, hds, hdigits, hlong⟩ := h
    exact ⟨ds, hds.trans hrest.isInfix, hdigits, hlong⟩
  | tooDeep isList => exact Nat.lt_of_lt_of_le h (hrest.sublist.countP_le)

theorem Consumes.mono {x : Parsed (α × List Char)} (h : Consumes limit depth rest x)
    (hrest : rest <:+ cs) : Consumes limit depth cs x := by
  cases x with
  | ok p => exact List.IsSuffix.trans h hrest
  | error fault => exact ParseFault.CausedBy.mono h hrest

/-- A bracket in front makes up for one level. -/
theorem ParseFault.CausedBy.below {fault : ParseFault} {c : Char} (hc : isOpening c = true)
    (h : fault.CausedBy limit depth rest) : fault.CausedBy limit (depth + 1) (c :: rest) := by
  cases fault with
  | malformed => trivial
  | integerTooLong =>
    obtain ⟨ds, hds, hdigits, hlong⟩ := h
    exact ⟨ds, hds.trans (List.suffix_cons c rest).isInfix, hdigits, hlong⟩
  | tooDeep isList =>
    change depth + 1 < (c :: rest).countP isOpening
    rw [List.countP_cons_of_pos hc]
    exact Nat.succ_lt_succ h

theorem Consumes.below {x : Parsed (α × List Char)} {c : Char} (hc : isOpening c = true)
    (h : Consumes limit depth rest x) : Consumes limit (depth + 1) (c :: rest) x := by
  cases x with
  | ok p => exact List.IsSuffix.trans h (List.suffix_cons c rest)
  | error fault => exact ParseFault.CausedBy.below hc h

theorem Consumes.map {x : Parsed (α × List Char)} (h : Consumes limit depth cs x) (f : α → β) :
    Consumes limit depth cs (x.map fun (a, rest) => (f a, rest)) := by
  cases x with
  | ok p => exact h
  | error fault => exact h

theorem Consumes.bind {x : Parsed (α × List Char)} {f : α × List Char → Parsed (β × List Char)}
    (h : Consumes limit depth cs x)
    (hf : ∀ a rest, Consumes limit depth rest (f (a, rest))) :
    Consumes limit depth cs (x >>= f) := by
  cases x with
  | ok p => exact (hf p.1 p.2).mono h
  | error fault => exact h

theorem skipSpace_suffix (cs : List Char) : skipSpace cs <:+ cs := List.dropWhile_suffix _

theorem stringPoints_suffix (cs : List Char) :
    ∀ ns rest, stringPoints cs = some (ns, rest) → rest <:+ cs := by
  fun_induction stringPoints cs with
  | case1 => exact nofun
  | case2 rest =>
    intro ns after h
    obtain ⟨-, rfl⟩ := Prod.mk.inj (Option.some.inj h)
    exact List.suffix_cons _ _
  | case3 a b c d more hquote ih =>
    intro ns after h
    simp only [Bind.bind, Option.bind_eq_some_iff] at h
    obtain ⟨n, -, ⟨ms, rest⟩, hmore, heq⟩ := h
    obtain ⟨-, rfl⟩ := Prod.mk.inj (Option.some.inj heq)
    exact (ih ms rest hmore).trans ⟨['\\', 'u', a, b, c, d], rfl⟩
  | case4 e more hquote hunit ih =>
    intro ns after h
    simp only [Bind.bind, Option.bind_eq_some_iff] at h
    obtain ⟨n, -, ⟨ms, rest⟩, hmore, heq⟩ := h
    obtain ⟨-, rfl⟩ := Prod.mk.inj (Option.some.inj heq)
    exact (ih ms rest hmore).trans ⟨['\\', e], rfl⟩
  | case5 => exact nofun
  | case6 => exact nofun
  | case7 c more hquote hescape hprintable ih =>
    intro ns after h
    simp only [Bind.bind, Option.bind_eq_some_iff] at h
    obtain ⟨⟨ms, rest⟩, hmore, heq⟩ := h
    obtain ⟨-, rfl⟩ := Prod.mk.inj (Option.some.inj heq)
    exact (ih ms rest hmore).trans (List.suffix_cons c more)

theorem consumes_string (cs : List Char) : Consumes limit depth cs (string cs) := by
  unfold string
  split
  · rename_i ns rest h
    exact stringPoints_suffix cs ns rest h
  · trivial

theorem digits_eq_append (cs : List Char) :
    cs = (digits cs).1 ++ (digits cs).2 ∧ ∀ c ∈ (digits cs).1, c.isDigit = true := by
  rw [digits, List.span_eq_takeWhile_dropWhile]
  exact ⟨List.takeWhile_append_dropWhile.symm,
    fun c hc => List.all_eq_true.mp List.all_takeWhile c hc⟩

theorem digits_suffix (cs : List Char) : (digits cs).2 <:+ cs :=
  ⟨_, (digits_eq_append cs).1.symm⟩

theorem numeralDigits_eq_append (cs : List Char) :
    cs = (numeralDigits cs).1 ++ (numeralDigits cs).2 ∧
      ∀ c ∈ (numeralDigits cs).1, c.isDigit = true := by
  unfold numeralDigits
  split
  · exact ⟨rfl, List.forall_mem_singleton.mpr rfl⟩
  · exact digits_eq_append cs

theorem fraction_suffix (cs : List Char) : (fraction cs).2 <:+ cs := by
  unfold fraction
  split
  · rename_i more
    dsimp only
    split
    · exact List.suffix_rfl
    · exact (digits_suffix more).trans (List.suffix_cons _ _)
  · exact List.suffix_rfl

theorem splitSign_suffix (cs : List Char) : (Text.splitSign cs).2 <:+ cs := by
  unfold Text.splitSign
  split
  · exact List.suffix_cons _ _
  · exact List.suffix_cons _ _
  · exact List.suffix_rfl

theorem exponent_suffix (cs : List Char) : (exponent cs).2 <:+ cs := by
  unfold exponent
  split
  · rename_i e more
    split
    · dsimp only
      split
      · exact List.suffix_rfl
      · have hdigits := digits_suffix (Text.splitSign more).2
        exact (hdigits.trans (splitSign_suffix more)).trans (List.suffix_cons e more)
    · exact List.suffix_rfl
  · exact List.suffix_rfl

theorem consumes_unsigned (negative : Bool) (cs : List Char) :
    Consumes limit depth cs (unsigned limit negative cs) := by
  obtain ⟨happend, hdigits⟩ := numeralDigits_eq_append cs
  have hafter : (numeralDigits cs).2 <:+ cs := ⟨_, happend.symm⟩
  have hrest := (exponent_suffix _).trans ((fraction_suffix _).trans hafter)
  unfold unsigned
  dsimp only
  split
  · trivial
  · split
    · split
      · exact hrest
      · rename_i hlong
        have hprefix : (numeralDigits cs).1 <+: cs := ⟨_, happend.symm⟩
        exact ⟨_, hprefix.isInfix, hdigits, by simpa using hlong⟩
    · exact hrest

theorem after?_suffix {ws : List Char} (h : after? ws cs = some rest) : rest <:+ cs := by
  fun_induction after? ws cs with
  | case1 cs => rw [Option.some.inj h]
  | case2 ws c cs ih => exact (ih h).trans (List.suffix_cons c cs)
  | case3 => cases h
  | case4 => cases h

theorem word?_suffix {v : Json} (h : word? cs = some (v, rest)) : rest <:+ cs := by
  obtain ⟨⟨w, u⟩, -, hword⟩ := List.exists_of_findSome?_eq_some h
  obtain ⟨after, hafter, heq⟩ := Option.map_eq_some_iff.mp hword
  obtain ⟨-, rfl⟩ := Prod.mk.inj heq
  exact after?_suffix hafter

theorem consumes_scalar (cs : List Char) : Consumes limit depth cs (scalar limit cs) := by
  unfold scalar
  split
  · rename_i r hword
    exact word?_suffix hword
  · split
    · exact (consumes_unsigned _ _).mono (List.suffix_cons _ _)
    · exact consumes_unsigned _ _

end Readers

variable (limit : DigitLimit)

mutual

theorem consumes_value : ∀ fuel depth cs, Consumes limit depth cs (value limit fuel depth cs)
  | 0, _, _ => trivial
  | fuel + 1, depth, cs => by
    rw [value.eq_def]
    dsimp only
    split
    · exact ((consumes_string _).map _).mono (List.suffix_cons _ _)
    · rename_i rest
      -- With no level left the bracket is one too many; else it makes up for the level it takes.
      cases depth with
      | zero => exact List.countP_pos_iff.mpr ⟨'[', List.mem_cons_self, rfl⟩
      | succ depth =>
        refine Consumes.below rfl (Consumes.mono ?_ (skipSpace_suffix rest))
        dsimp only
        generalize skipSpace rest = cs
        split
        · exact List.suffix_cons _ _
        · exact (consumes_items fuel depth cs).map _
    · rename_i rest
      cases depth with
      | zero => exact List.countP_pos_iff.mpr ⟨'\x7b', List.mem_cons_self, rfl⟩
      | succ depth =>
        refine Consumes.below rfl (Consumes.mono ?_ (skipSpace_suffix rest))
        dsimp only
        generalize skipSpace rest = cs
        split
        · exact List.suffix_cons _ _
        · exact (consumes_members fuel depth [] cs).map _
    · exact consumes_scalar cs

theorem consumes_items : ∀ fuel depth cs, Consumes limit depth cs (items limit fuel depth cs)
  | 0, _, _ => trivial
  | fuel + 1, depth, cs => by
    rw [items]
    refine (consumes_value fuel depth cs).bind fun v rest => ?_
    refine Consumes.mono ?_ (skipSpace_suffix rest)
    dsimp only
    generalize skipSpace rest = cs
    split
    · exact List.suffix_cons _ _
    · rename_i rest
      have hitems := (consumes_items fuel depth (skipSpace rest)).mono (skipSpace_suffix rest)
      exact (hitems.map _).mono (List.suffix_cons _ _)
    · trivial

theorem consumes_members : ∀ fuel depth found cs,
    Consumes limit depth cs (members limit fuel depth found cs)
  | 0, _, _, _ => trivial
  | fuel + 1, depth, found, cs => by
    rw [members.eq_def]
    dsimp only
    split
    · refine Consumes.mono ?_ (List.suffix_cons _ _)
      refine (consumes_string _).bind fun key rest => ?_
      refine Consumes.mono ?_ (skipSpace_suffix rest)
      dsimp only
      generalize skipSpace rest = cs
      split
      · rename_i rest
        refine Consumes.mono ?_ (List.suffix_cons _ _)
        refine Consumes.mono ?_ (skipSpace_suffix rest)
        refine (consumes_value fuel depth _).bind fun v rest => ?_
        refine Consumes.mono ?_ (skipSpace_suffix rest)
        dsimp only
        generalize skipSpace rest = cs
        split
        · exact List.suffix_cons _ _
        · rename_i rest
          refine Consumes.mono ?_ (List.suffix_cons _ _)
          exact (consumes_members fuel depth _ _).mono (skipSpace_suffix rest)
        · trivial
      · trivial
    · trivial

end

/-- A text that is no value for some other reason than its form has that reason in it. -/
theorem causedBy_of_parseWithin {limit : DigitLimit} {s : String} {fault : ParseFault}
    (h : parseWithin limit s = .error fault) : fault.CausedBy limit maxDepth s.toList := by
  have hvalue := consumes_value limit ((skipSpace s.toList).length + 1) maxDepth
    (skipSpace s.toList)
  rw [parseWithin] at h
  cases hread : value limit ((skipSpace s.toList).length + 1) maxDepth (skipSpace s.toList) with
  | error cause =>
    rw [hread] at h hvalue
    obtain rfl : cause = fault := Except.error.inj h
    exact ParseFault.CausedBy.mono hvalue (skipSpace_suffix _)
  | ok p =>
    rw [hread] at h
    obtain rfl : ParseFault.malformed = fault := by
      simp only [Bind.bind, Except.bind] at h
      split at h
      · cases h
      · exact Except.error.inj h
    trivial

end DevEnv.Json
