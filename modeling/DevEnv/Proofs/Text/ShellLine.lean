import DevEnv.Proofs.Text.ShellWord

/-!
Reading lines of the shell. Blanks part what stands on a line, and runs of operator characters are
operators. A line that was put together of words and operators is read back as these, whatever the
texts of its words are.
-/

namespace DevEnv.Text

set_option autoImplicit false

inductive Operator
  | pipe
  | conjunction
  | appending
deriving DecidableEq, Repr

namespace Operator

def all : List Operator := [pipe, conjunction, appending]

def text : Operator → List Char
  | pipe => ['|']
  | conjunction => ['&', '&']
  | appending => ['>', '>']

def ofText? (cs : List Char) : Option Operator := all.find? fun o => o.text == cs

end Operator

inductive ShellToken
  | word (text : String)
  | operator (o : Operator)
deriving DecidableEq, Repr

def isShellBlank (c : Char) : Bool := c == ' ' || c == '\t'

def operatorChars : List Char := ['|', '&', ';', '<', '>', '(', ')']

def isOperatorChar (c : Char) : Bool := operatorChars.contains c

/-- The words and operators of a line. A backslash at its end says that another line follows; what
is no word, no operator and no blank is not read. -/
def readLine (cs : List Char) : Option (List ShellToken) :=
  match cs with
  | [] => some []
  | c :: rest =>
    if c = '\\' ∧ rest = [] then some []
    else if isShellBlank c then readLine rest
    else if isOperatorChar c then
      (Operator.ofText? (c :: rest.takeWhile isOperatorChar)).bind fun o =>
        (readLine (rest.dropWhile isOperatorChar)).map (.operator o :: ·)
    else
      match readWord .unquoted (c :: rest) with
      | none => none
      | some (word, after) =>
        -- A word that takes nothing of the line ends before its first character.
        if after.length ≤ rest.length then
          (readLine after).map (.word (String.ofList word) :: ·)
        else none
termination_by cs.length
decreasing_by
  · exact Nat.lt_succ_self _
  · exact Nat.lt_succ_of_le (List.dropWhile_sublist _).length_le
  · exact Nat.lt_succ_of_le ‹_›

namespace ShellToken

def spelled : ShellToken → List Char
  | word s => (shellWord s).toList
  | operator o => o.text

end ShellToken

/-- The tokens with a blank behind each. -/
def laidOut (ts : List ShellToken) : List Char := ts.flatMap fun t => t.spelled ++ [' ']

theorem endsWord_blank (rest : List Char) : EndsWord (' ' :: rest) :=
  endsWord_cons rest (by decide)

theorem readLine_blank (cs : List Char) : readLine (' ' :: cs) = readLine cs := by
  rw [readLine, if_neg (by simp), if_pos (by decide)]

theorem readLine_end : readLine ['\\'] = some [] := by
  rw [readLine, if_pos ⟨rfl, rfl⟩]

/-- The character begins neither an operator nor the end of a line, and parts no words. -/
def BeginsWord (c : Char) : Prop :=
  c ≠ '\\' ∧ isShellBlank c = false ∧ isOperatorChar c = false

theorem beginsWord_quote : BeginsWord '\'' := ⟨by decide, rfl, rfl⟩

theorem beginsWord_of_safe {c : Char} (h : isShellSafe c = true) : BeginsWord c := by
  have ne_of_active : ∀ d : Char, isShellSafe d = false → c ≠ d := by
    rintro d active rfl
    rw [h] at active
    cases active
  refine ⟨ne_of_active '\\' rfl, ?_, ?_⟩
  · simp [isShellBlank, ne_of_active ' ' rfl, ne_of_active '\t' rfl]
  · have listed : operatorChars.all (fun d => !isShellSafe d) = true := rfl
    apply Bool.eq_false_iff.mpr
    intro operator
    have active := List.all_eq_true.mp listed c (List.contains_iff_mem.mp operator)
    rw [h] at active
    cases active

theorem exists_cons_shellWord (s : String) :
    ∃ c cs, (shellWord s).toList = c :: cs ∧ BeginsWord c := by
  unfold shellWord
  dsimp only
  split
  · exact ⟨'\'', ['\''], rfl, beginsWord_quote⟩
  split
  · rename_i filled safe
    cases whole : s.toList with
    | nil => simp [whole] at filled
    | cons c cs =>
      rw [whole, List.all_cons, Bool.and_eq_true] at safe
      exact ⟨c, cs, rfl, beginsWord_of_safe safe.1⟩
  · rw [String.toList_ofList]
    exact ⟨'\'', _, rfl, beginsWord_quote⟩

theorem readLine_word (s : String) {rest : List Char} (h : EndsWord rest) :
    readLine ((shellWord s).toList ++ rest) = (readLine rest).map (.word s :: ·) := by
  obtain ⟨c, cs, first, other, blank, operator⟩ := exists_cons_shellWord s
  have word := readWord_shellWord s h
  rw [first] at word ⊢
  rw [List.cons_append, readLine, if_neg (fun last => other last.1), if_neg (by simp [blank]),
    if_neg (by simp [operator])]
  rw [List.cons_append] at word
  simp only [word]
  rw [if_pos (by simp), String.ofList_toList]

theorem readLine_operator (o : Operator) (cs : List Char) :
    readLine (o.text ++ ' ' :: cs) = (readLine cs).map (.operator o :: ·) := by
  have run : ∀ c ds, (c :: ds).all isOperatorChar = true →
      readLine (c :: ds ++ ' ' :: cs) =
        (Operator.ofText? (c :: ds)).bind fun o => (readLine cs).map (.operator o :: ·) := by
    intro c ds all
    obtain ⟨first, rest⟩ := Bool.and_eq_true_iff.mp (List.all_cons ▸ all)
    have other : c ≠ '\\' := by
      rintro rfl
      cases first
    have unblank : isShellBlank c = false := by
      apply Bool.eq_false_iff.mpr
      intro blank
      rcases Bool.or_eq_true_iff.mp blank with space | tab
      · rw [beq_iff_eq.mp space] at first
        cases first
      · rw [beq_iff_eq.mp tab] at first
        cases first
    have same := List.all_eq_true.mp rest
    rw [List.cons_append, readLine, if_neg (fun last => other last.1), if_neg (by simp [unblank]),
      if_pos first, List.takeWhile_append_of_pos same, List.dropWhile_append_of_pos same,
      List.takeWhile_cons_of_neg (by decide), List.dropWhile_cons_of_neg (by decide),
      List.append_nil, readLine_blank]
  cases o with
  | pipe => exact run '|' [] rfl
  | conjunction => exact run '&' ['&'] rfl
  | appending => exact run '>' ['>'] rfl

theorem readLine_laidOut (ts : List ShellToken) (rest : List Char) :
    readLine (laidOut ts ++ rest) = (readLine rest).map (ts ++ ·) := by
  induction ts with
  | nil => simp [laidOut]
  | cons t ts ih =>
    have tail : laidOut (t :: ts) ++ rest = t.spelled ++ ' ' :: (laidOut ts ++ rest) := by
      simp [laidOut]
    have here : readLine (t.spelled ++ ' ' :: (laidOut ts ++ rest)) =
        (readLine (laidOut ts ++ rest)).map (t :: ·) := by
      cases t with
      | word s =>
        rw [ShellToken.spelled, readLine_word s (endsWord_blank _), readLine_blank]
      | operator o => exact readLine_operator o _
    rw [tail, here, ih, Option.map_map]
    rfl

end DevEnv.Text
