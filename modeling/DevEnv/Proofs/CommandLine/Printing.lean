import DevEnv.CommandLine.Program
import DevEnv.Proofs.Json.RoundTrip

/-!
What is printed as it stands. Only control sequences are taken out of a text, and only a carriage return
before a line feed: a text with neither comes out whole. JSON in ASCII is such a text, as both are escaped
in it.
-/

namespace DevEnv.CommandLine

set_option autoImplicit false

/-- No control sequence begins in the text, and no line break is written in two characters. -/
def Plain (s : String) : Prop := ∀ c ∈ s.toList, c ≠ '\x1b' ∧ c ≠ '\r'

theorem plain_literal {s : String} (h : (s.toList.all fun c => c != '\x1b' && c != '\r') = true) :
    Plain s := by
  intro c hc
  simpa using List.all_eq_true.mp h c hc

theorem plain_empty : Plain "" := nofun

theorem Plain.append {s s' : String} (h : Plain s) (h' : Plain s') : Plain (s ++ s') := by
  intro c hc
  rw [String.toList_append] at hc
  rcases List.mem_append.mp hc with hc | hc
  · exact h c hc
  · exact h' c hc

theorem plain_toString (n : Int) : Plain (toString n) := by
  intro c hc
  have shown : c = '-' ∨ c.isDigit = true := by
    rw [Text.toList_toString] at hc
    split at hc
    · exact (List.mem_cons.mp hc).imp_right (Text.isDigit_toDigits _ c)
    · exact .inr (Text.isDigit_toDigits _ c hc)
  constructor <;> rintro rfl <;> revert shown <;> decide

theorem outsideCodes_of_plain {cs : List Char} (h : ∀ c ∈ cs, c ≠ '\x1b') :
    Text.outsideCodes 0 cs = cs := by
  induction cs with
  | nil => rfl
  | cons c cs ih =>
    simp only [Text.outsideCodes, h c List.mem_cons_self, if_false]
    rw [ih fun d hd => h d (.tail c hd)]

theorem Plain.withoutCodes_eq {s : String} (h : Plain s) : Text.withoutCodes s = s := by
  rw [Text.withoutCodes, outsideCodes_of_plain fun c hc => (h c hc).1, String.ofList_toList]

theorem plainBreaks_of_plain {cs : List Char} (h : ∀ c ∈ cs, c ≠ '\r') :
    Text.plainBreaks cs = cs := by
  induction cs with
  | nil => rfl
  | cons c cs ih =>
    have first : c ≠ '\r' := h c List.mem_cons_self
    rw [Text.plainBreaks, ih fun d hd => h d (.tail c hd)]
    exact fun _ same _ => first same

theorem Plain.printed_eq {s : String} (h : Plain s) : printed s = s := by
  rw [printed, plainBreaks_of_plain fun c hc => (h c hc).2, String.ofList_toList]

/-- A line break of two characters is not made by what comes first in a text. -/
theorem plainBreaks_append {cs ds : List Char} (plain : ∀ c ∈ ds, c ≠ '\r')
    (begins : ds.head? ≠ some '\n') :
    Text.plainBreaks (cs ++ ds) = Text.plainBreaks cs ++ ds := by
  induction cs using Text.plainBreaks.induct with
  | case1 =>
    exact plainBreaks_of_plain plain
  | case2 rest ih =>
    rw [List.cons_append, List.cons_append, Text.plainBreaks, Text.plainBreaks, ih]
    rfl
  | case3 c rest other ih =>
    rw [List.cons_append, Text.plainBreaks, Text.plainBreaks, ih]
    · rfl
    · exact other
    -- A carriage return at the end would need its line feed from the text behind.
    · intro rest' same whole
      cases rest with
      | nil =>
        rw [List.nil_append] at whole
        rw [whole] at begins
        exact begins rfl
      | cons d rest =>
        obtain ⟨rfl, -⟩ := List.cons.inj whole
        exact other rest same rfl

theorem Plain.printed_append {s' : String} (h : Plain s') (begins : s'.toList.head? ≠ some '\n')
    (s : String) : printed (s ++ s') = printed s ++ s' := by
  rw [printed, String.toList_append, plainBreaks_append (fun c hc => (h c hc).2) begins,
    String.ofList_append, String.ofList_toList]
  rfl

/-! ### JSON text -/

theorem plain_hex (count n : Nat) : ∀ c ∈ Text.hex count n, c ≠ '\x1b' ∧ c ≠ '\r' := by
  have digits : ∀ m, m < 16 → Nat.digitChar m ≠ '\x1b' ∧ Nat.digitChar m ≠ '\r' := by decide
  induction count generalizing n with
  | zero => exact nofun
  | succ count ih =>
    intro c hc
    rw [Text.hex, List.mem_append, List.mem_singleton] at hc
    rcases hc with hc | rfl
    · exact ih _ c hc
    · exact digits _ (Nat.mod_lt n (by decide))

theorem plain_unitEscape (n : Nat) : ∀ c ∈ Json.unitEscape n, c ≠ '\x1b' ∧ c ≠ '\r' := by
  intro c hc
  rcases List.mem_cons.mp hc with rfl | hc
  · decide
  · rcases List.mem_cons.mp hc with rfl | hc
    · decide
    · exact plain_hex 4 n c hc

theorem plain_escapedChar (c : Char) :
    ∀ d ∈ Json.escapedChar .nonAscii c, d ≠ '\x1b' ∧ d ≠ '\r' := by
  unfold Json.escapedChar
  dsimp only
  split
  case h_8 =>
    split
    · exact plain_unitEscape _
    · rename_i high
      split
      · intro d hd
        rw [List.mem_singleton.mp hd]
        constructor
        · rintro rfl
          exact high (by decide)
        · rintro rfl
          exact high (by decide)
      · split
        · exact plain_unitEscape _
        · intro d hd
          exact (List.mem_append.mp hd).elim (plain_unitEscape _ d) (plain_unitEscape _ d)
  all_goals simp

theorem plain_quoted {α : Type} {as : List α} {f : α → List Char}
    (each : ∀ a ∈ as, ∀ c ∈ f a, c ≠ '\x1b' ∧ c ≠ '\r') :
    Plain (String.ofList ('"' :: as.flatMap f ++ ['"'])) := by
  intro c hc
  rw [String.toList_ofList, List.mem_append, List.mem_cons, List.mem_singleton] at hc
  rcases hc with (rfl | hc) | rfl
  · decide
  · obtain ⟨a, ha, hc⟩ := List.mem_flatMap.mp hc
    exact each a ha c hc
  · decide

theorem plain_quote (s : String) : Plain (Json.quote .nonAscii s) :=
  plain_quoted fun c _ => plain_escapedChar c

theorem plain_quotePoints (ns : List Nat) : Plain (Json.quotePoints ns) := by
  refine plain_quoted fun n _ => ?_
  unfold Json.escapedPoint
  split
  · exact plain_unitEscape n
  · exact plain_escapedChar _

theorem plain_pushn {c : Char} (h : c ≠ '\x1b' ∧ c ≠ '\r') (n : Nat) : Plain ("".pushn c n) := by
  intro d hd
  rw [Json.toList_pushn] at hd
  rw [List.eq_of_mem_replicate hd]
  exact h

theorem plain_nat (n : Nat) : Plain (toString n) := plain_toString n

theorem plain_realText (x : Binary64) : Plain (Json.realText x) := by
  have sign : ∀ negative : Bool, Plain (if negative then "-" else "") := by
    intro negative
    cases negative <;> exact plain_literal rfl
  unfold Json.realText
  split
  · exact plain_literal rfl
  · split <;> exact plain_literal rfl
  · dsimp only
    split
    · exact ((sign _).append (plain_nat _)).append (plain_literal rfl)
    · exact ((((sign _).append (plain_nat _)).append (plain_literal rfl)).append
        (plain_pushn (by decide) _)).append (plain_nat _)

theorem plain_scalarText (v : Json) : Plain (Json.scalarText .nonAscii v) := by
  cases v with
  | null => exact plain_literal rfl
  | bool b => cases b <;> exact plain_literal rfl
  | integer n => exact plain_toString n
  | real x => exact plain_realText x
  | text s => exact plain_quote s
  | brokenText ns => exact plain_quotePoints ns
  | list _ =>
    have brackets : Plain "[]" := plain_literal rfl
    exact brackets
  | object _ =>
    have braces : Plain "\x7b\x7d" := plain_literal rfl
    exact braces

theorem plain_comma : Plain "," := plain_literal rfl

theorem plain_colon : Plain ": " := plain_literal rfl

theorem plain_newline (column : Nat) : Plain (Json.newline column) :=
  (plain_literal rfl).append (plain_pushn (by decide) _)

mutual

/-- JSON in ASCII is printed as it is. -/
theorem plain_indented : ∀ (v : Json) (column : Nat), Plain (Json.indented .nonAscii column v)
  | .list (v :: vs), column => by
    rw [Json.indented]
    have items := plain_indentedItems (v :: vs) (column + 1)
    exact (((plain_literal rfl).append items).append (plain_newline column)).append
      (plain_literal rfl)
  | .object (f :: fs), column => by
    rw [Json.indented]
    have fields := plain_indentedFields (f :: fs) (column + 1)
    exact (((plain_literal rfl).append fields).append (plain_newline column)).append
      (plain_literal rfl)
  | .list [], _ | .object [], _ | .null, _ | .bool _, _ | .integer _, _ | .real _, _ | .text _, _
  | .brokenText _, _ => plain_scalarText _

theorem plain_indentedItems : ∀ (vs : List Json) (column : Nat),
    Plain (Json.indentedItems .nonAscii column vs)
  | [], _ => plain_empty
  | [v], column => (plain_newline column).append (plain_indented v column)
  | v :: w :: vs, column => by
    rw [Json.indentedItems]
    · have rest := plain_indentedItems (w :: vs) column
      exact (((plain_newline column).append (plain_indented v column)).append
        plain_comma).append rest
    · exact List.cons_ne_nil w vs

theorem plain_indentedFields : ∀ (fs : List (String × Json)) (column : Nat),
    Plain (Json.indentedFields .nonAscii column fs)
  | [], _ => plain_empty
  | [(key, v)], column =>
    (((plain_newline column).append (plain_quote key)).append plain_colon).append
      (plain_indented v column)
  | (key, v) :: f :: fs, column => by
    rw [Json.indentedFields]
    · have field := (((plain_newline column).append (plain_quote key)).append plain_colon).append
        (plain_indented v column)
      have rest := plain_indentedFields (f :: fs) column
      exact (field.append plain_comma).append rest
    · exact List.cons_ne_nil f fs

end

end DevEnv.CommandLine
