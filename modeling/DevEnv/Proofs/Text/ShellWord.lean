import DevEnv.Text.Shell

/-!
Reading words of the shell. A text that was written as a word is read back whatever stands in it, and
whatever stands behind the word as long as that cannot belong to it. So the word tells where it ends,
and two texts with the same word are the same.
-/

namespace DevEnv.Text

set_option autoImplicit false

/-- What the characters at hand are quoted by. -/
inductive Quoting
  | unquoted
  | single
  | double
deriving DecidableEq, Repr

/-- Characters that keep a meaning of their own in double quotes. -/
def isActive (c : Char) : Bool := "$`\\\"".toList.contains c

/-- Whether a word cannot go on with the character when nothing is quoted. -/
def endsWord (c : Char) : Bool := !isShellSafe c && c != '\'' && c != '"'

/-- One word and the text behind it. Quotes that stay open make no word, and what would have to be
expanded is not read. -/
def readWord : Quoting → List Char → Option (List Char × List Char)
  | .unquoted, [] => some ([], [])
  | .unquoted, c :: cs =>
    if c = '\'' then readWord .single cs
    else if c = '"' then readWord .double cs
    else if isShellSafe c then (readWord .unquoted cs).map fun r => (c :: r.1, r.2)
    else some ([], c :: cs)
  | .single, [] => none
  | .single, c :: cs =>
    if c = '\'' then readWord .unquoted cs
    else (readWord .single cs).map fun r => (c :: r.1, r.2)
  | .double, [] => none
  | .double, c :: cs =>
    if c = '"' then readWord .unquoted cs
    else if isActive c then none
    else (readWord .double cs).map fun r => (c :: r.1, r.2)

/-- The text is empty or begins with a character that ends a word. -/
def EndsWord (rest : List Char) : Prop := ∀ c ∈ rest.head?, endsWord c = true

theorem endsWord_cons {c : Char} (rest : List Char) (h : endsWord c = true) :
    EndsWord (c :: rest) := by
  intro d hd
  rw [List.head?_cons, Option.mem_some_iff] at hd
  rwa [← hd]

theorem readWord_rest {rest : List Char} (h : EndsWord rest) :
    readWord .unquoted rest = some ([], rest) := by
  cases rest with
  | nil => rfl
  | cons c cs =>
    have hc : endsWord c = true := h c rfl
    simp only [endsWord, Bool.and_eq_true, Bool.not_eq_true', bne_iff_ne, ne_eq] at hc
    obtain ⟨⟨hsafe, hsingle⟩, hdouble⟩ := hc
    simp [readWord, hsafe, hsingle, hdouble]

theorem readWord_safe {cs rest : List Char} (hcs : cs.all isShellSafe = true)
    (h : EndsWord rest) : readWord .unquoted (cs ++ rest) = some (cs, rest) := by
  induction cs with
  | nil => exact readWord_rest h
  | cons c cs ih =>
    rw [List.all_cons, Bool.and_eq_true] at hcs
    obtain ⟨hc, hcs⟩ := hcs
    have hsingle : c ≠ '\'' := by
      rintro rfl
      exact absurd hc (by decide)
    have hdouble : c ≠ '"' := by
      rintro rfl
      exact absurd hc (by decide)
    simp [readWord, hsingle, hdouble, hc, ih hcs]

/-- A quote is read through three kinds of quoting, every other character through one. -/
theorem readWord_literal (c : Char) (cs : List Char) :
    readWord .single (shellLiteral c ++ cs) =
      (readWord .single cs).map fun r => (c :: r.1, r.2) := by
  unfold shellLiteral
  split
  · subst c
    simp [readWord, isActive]
  · rename_i hc
    simp [readWord, hc]

theorem readWord_literals (cs rest : List Char) (h : EndsWord rest) :
    readWord .single (cs.flatMap shellLiteral ++ '\'' :: rest) = some (cs, rest) := by
  induction cs with
  | nil => simp [readWord, readWord_rest h]
  | cons c cs ih => rw [List.flatMap_cons, List.append_assoc, readWord_literal, ih, Option.map_some]

theorem readWord_shellWord (s : String) {rest : List Char} (h : EndsWord rest) :
    readWord .unquoted ((shellWord s).toList ++ rest) = some (s.toList, rest) := by
  unfold shellWord
  simp only
  split
  · rename_i hempty
    have hs : s.toList = [] := by simpa using hempty
    simp [hs, readWord, readWord_rest h]
  · split
    · rename_i hsafe
      exact readWord_safe hsafe h
    · have hword := readWord_literals s.toList rest h
      simp only [String.toList_ofList, List.cons_append, List.append_assoc]
      rw [readWord, if_pos rfl, List.nil_append]
      exact hword

/-- A word is told apart from what follows it, also where its text imitates that. -/
theorem shellWord_append_inj {s t : String} {x y : List Char} (hx : EndsWord x) (hy : EndsWord y)
    (h : (shellWord s).toList ++ x = (shellWord t).toList ++ y) : s = t ∧ x = y := by
  have hread := congrArg (readWord .unquoted) h
  rw [readWord_shellWord s hx, readWord_shellWord t hy, Option.some.injEq, Prod.mk.injEq] at hread
  exact ⟨String.toList_inj.mp hread.1, hread.2⟩

end DevEnv.Text
