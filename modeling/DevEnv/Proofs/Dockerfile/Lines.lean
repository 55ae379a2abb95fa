import DevEnv.Dockerfile.Basic
import DevEnv.Text.Blank

/-!
The text of a build file and its physical lines. A build file read from a text has that text back,
with a single line break at its end; a build file written to a text has its lines back exactly if
none of them holds a line break, and every break that one holds makes one more physical line.
-/

namespace DevEnv

set_option autoImplicit false

-- Sums start from the zero of core, whatever other instances are in scope.
attribute [local instance (2000)] Zero.ofOfNat0

namespace Text

/-- The text with whatever line breaks are at its end replaced by exactly one. -/
def withOneBreak (s : String) : String :=
  String.ofList (dropTrailing (· == '\n') s.toList ++ ['\n'])

/-- The second text is the first with one line break in the place of all those at its end. -/
def EndsOnce (s t : String) : Prop :=
  ∃ body n, s.toList = body ++ List.replicate n '\n' ∧ body.getLast? ≠ some '\n' ∧
    t.toList = body ++ ['\n']

/-- What stands between the line breaks of a text. -/
def pieces (s : String) : List String := (s.toList.splitOn '\n').map String.ofList

/-- The lines of a text of which a break ends each: the pieces without the last one. -/
def physicalLines (s : String) : List String :=
  ((s.toList.splitOn '\n').dropLast).map String.ofList

/-- How many line breaks the text holds. -/
def breaks (s : String) : Nat := s.toList.count '\n'

def breaksIn (ss : List String) : Nat := (ss.map breaks).sum

/-- The text stands on one line. -/
def Unbroken (s : String) : Prop := '\n' ∉ s.toList

def OneLined (ss : List String) : Prop := ∀ s ∈ ss, Unbroken s

theorem dropTrailing_append_replicate {body : List Char} (h : body.getLast? ≠ some '\n') (n : Nat) :
    dropTrailing (· == '\n') (body ++ List.replicate n '\n') = body := by
  rw [← List.head?_reverse] at h
  rw [dropTrailing, List.reverse_append, List.reverse_replicate]
  induction n with
  | zero =>
    rw [List.replicate_zero, List.nil_append]
    cases hbody : body.reverse with
    | nil => simpa using hbody.symm
    | cons c cs =>
      have hc : (c == '\n') = false := by simpa [hbody] using h
      rw [List.dropWhile_cons_of_neg (by simp [hc]), ← hbody, List.reverse_reverse]
  | succ n ih =>
    rw [List.replicate_succ, List.cons_append, List.dropWhile_cons_of_pos (by simp)]
    exact ih

theorem endsOnce_withOneBreak (s : String) : EndsOnce s (withOneBreak s) := by
  refine ⟨dropTrailing (· == '\n') s.toList, (s.toList.reverse.takeWhile (· == '\n')).length,
    ?_, ?_, String.toList_ofList⟩
  · have breaks : ∀ c ∈ s.toList.reverse.takeWhile (· == '\n'), c = '\n' := fun c hc =>
      beq_iff_eq.mp (List.all_eq_true.mp List.all_takeWhile c hc)
    rw [← List.reverse_replicate, ← List.eq_replicate_of_mem breaks, dropTrailing,
      ← List.reverse_append, List.takeWhile_append_dropWhile, List.reverse_reverse]
  · rw [dropTrailing, List.getLast?_reverse]
    intro h
    have first := List.head?_dropWhile_not (· == '\n') s.toList.reverse
    rw [h] at first
    simp at first

/-- There is one text only that ends once in this way. -/
theorem EndsOnce.eq {s t : String} (h : EndsOnce s t) : t = withOneBreak s := by
  obtain ⟨body, n, hs, hlast, ht⟩ := h
  apply String.toList_inj.mp
  rw [withOneBreak, String.toList_ofList, hs, dropTrailing_append_replicate hlast, ht]

theorem breaks_append (s t : String) : breaks (s ++ t) = breaks s + breaks t := by
  simp [breaks]

@[simp] theorem breaksIn_nil : breaksIn [] = 0 := rfl

@[simp] theorem breaksIn_cons (s : String) (ss : List String) :
    breaksIn (s :: ss) = breaks s + breaksIn ss := rfl

@[simp] theorem breaksIn_append (ss ts : List String) :
    breaksIn (ss ++ ts) = breaksIn ss + breaksIn ts := by
  simp [breaksIn]

theorem breaks_eq_zero_iff {s : String} : breaks s = 0 ↔ Unbroken s := by
  simp [breaks, Unbroken, List.count_eq_zero]

theorem breaksIn_eq_zero_iff {ss : List String} : breaksIn ss = 0 ↔ OneLined ss := by
  induction ss with
  | nil => simp [OneLined]
  | cons s ss ih =>
    rw [breaksIn_cons, Nat.add_eq_zero_iff, breaks_eq_zero_iff, ih]
    simp [OneLined]

/-- For texts that are written out: their characters are never decoded. -/
theorem unbroken_literal {cs : List Char} (h : cs.contains '\n' = false) :
    Unbroken (String.ofList cs) := by
  rw [Unbroken, String.toList_ofList]
  simpa using h

theorem Unbroken.append {s t : String} (hs : Unbroken s) (ht : Unbroken t) :
    Unbroken (s ++ t) := by
  rw [Unbroken, String.toList_append, List.mem_append, not_or]
  exact ⟨hs, ht⟩

theorem oneLined_nil : OneLined [] := by simp [OneLined]

theorem OneLined.cons {s : String} {ss : List String} (hs : Unbroken s) (hss : OneLined ss) :
    OneLined (s :: ss) :=
  List.forall_mem_cons.mpr ⟨hs, hss⟩

theorem OneLined.append {ss ts : List String} (hss : OneLined ss) (hts : OneLined ts) :
    OneLined (ss ++ ts) :=
  List.forall_mem_append.mpr ⟨hss, hts⟩

theorem length_splitOn (a : Char) (cs : List Char) :
    (cs.splitOn a).length = cs.count a + 1 := by
  induction cs with
  | nil => rfl
  | cons c cs ih =>
    rw [List.splitOn_cons_eq_if_modifyHead, List.count_cons]
    split <;> simp [ih]

theorem length_pieces (s : String) : (pieces s).length = breaks s + 1 := by
  simp [pieces, length_splitOn, breaks]

theorem pieces_eq_singleton {s : String} (h : Unbroken s) : pieces s = [s] := by
  rw [pieces, List.splitOn_eq_singleton h, List.map_singleton, String.ofList_toList]

theorem not_mem_of_mem_splitOn {a : Char} {cs piece : List Char} (h : piece ∈ cs.splitOn a) :
    a ∉ piece := by
  induction cs generalizing piece with
  | nil =>
    rw [List.splitOn_nil, List.mem_singleton] at h
    simp [h]
  | cons c cs ih =>
    rw [List.splitOn_cons_eq_if_modifyHead] at h
    obtain ⟨first, rest, hsplit⟩ := List.exists_cons_of_ne_nil (List.splitOn_ne_nil a cs)
    rw [hsplit] at h ih
    split at h
    · rcases List.mem_cons.mp h with rfl | h
      · simp
      · exact ih h
    · rename_i hne
      rcases List.mem_cons.mp h with rfl | h
      · intro hmem
        rcases List.mem_cons.mp hmem with rfl | hmem
        · simp at hne
        · exact ih List.mem_cons_self hmem
      · exact ih (List.mem_cons_of_mem _ h)

theorem unbroken_of_mem_pieces {s piece : String} (h : piece ∈ pieces s) : Unbroken piece := by
  obtain ⟨cs, hcs, rfl⟩ := List.mem_map.mp h
  rw [Unbroken, String.toList_ofList]
  exact not_mem_of_mem_splitOn hcs

theorem flatMap_pieces_of_oneLined {ss : List String} (h : OneLined ss) :
    ss.flatMap pieces = ss := by
  induction ss with
  | nil => rfl
  | cons s ss ih =>
    have hs : pieces s = [s] := pieces_eq_singleton (h s List.mem_cons_self)
    have hss : OneLined ss := fun t ht => h t (List.mem_cons_of_mem _ ht)
    rw [List.flatMap_cons, hs, ih hss, List.singleton_append]

theorem length_flatMap_pieces (ss : List String) :
    (ss.flatMap pieces).length = ss.length + breaksIn ss := by
  induction ss with
  | nil => rfl
  | cons s ss ih =>
    rw [List.flatMap_cons, List.length_append, ih, length_pieces, breaksIn_cons, List.length_cons]
    omega

end Text

namespace Dockerfile

theorem splitLines_eq_splitOn (cs : List Char) : splitLines cs = cs.splitOn '\n' := by
  induction cs with
  | nil => rfl
  | cons c cs ih =>
    rw [splitLines, ih, List.splitOn_cons_eq_if_modifyHead]
    obtain ⟨first, rest, hsplit⟩ := List.exists_cons_of_ne_nil (List.splitOn_ne_nil '\n' cs)
    by_cases hc : c = '\n' <;> simp [hc, hsplit]

theorem toList_text (d : Dockerfile) :
    d.text.toList = ['\n'].intercalate (d.lines.map String.toList) ++ ['\n'] := by
  simp [text]

theorem text_ofText (s : String) : (ofText s).text = Text.withOneBreak s := by
  apply String.toList_inj.mp
  rw [toList_text]
  simp only [ofText, splitLines_eq_splitOn, List.map_map, Text.withOneBreak, Text.dropTrailing,
    String.toList_ofList]
  congr 1
  have hid : String.toList ∘ String.ofList = id := funext fun _ => String.toList_ofList
  rw [hid, List.map_id, List.intercalate_splitOn]

theorem exists_intercalate_concat (sep : List Char) (front : List (List Char)) (last : List Char) :
    ∃ before, sep.intercalate (front ++ [last]) = before ++ last := by
  induction front with
  | nil => exact ⟨[], List.intercalate_singleton⟩
  | cons line rest ih =>
    obtain ⟨before, hbefore⟩ := ih
    refine ⟨line ++ sep ++ before, ?_⟩
    cases rest with
    | nil => simpa using congrArg (line ++ sep ++ ·) hbefore
    | cons next rest =>
      rw [List.cons_append, List.cons_append, List.intercalate_cons_cons, ← List.cons_append,
        hbefore]
      simp only [List.append_assoc]

/-- The last line neither is empty nor ends in a break. -/
def Closed (lines : List String) : Prop :=
  ∃ front last c, lines = front ++ [last] ∧ last.toList.getLast? = some c ∧ c ≠ '\n'

theorem Closed.append {lines : List String} (h : Closed lines) (more : List String) :
    Closed (more ++ lines) := by
  obtain ⟨front, last, c, rfl, hlast, hbreak⟩ := h
  exact ⟨more ++ front, last, c, by simp, hlast, hbreak⟩

/-- The text of such lines ends in one break as it is. -/
theorem endsOnce_text {d : Dockerfile} (h : Closed d.lines) : Text.EndsOnce d.text d.text := by
  obtain ⟨front, last, c, hlines, hlast, hbreak⟩ := h
  obtain ⟨before, hbefore⟩ :=
    exists_intercalate_concat ['\n'] (front.map String.toList) last.toList
  have htext : d.text.toList = before ++ last.toList ++ ['\n'] := by
    rw [toList_text, hlines, List.map_append, List.map_singleton, hbefore]
  refine ⟨before ++ last.toList, 1, htext, ?_, htext⟩
  rw [List.getLast?_append, hlast]
  simpa using hbreak

theorem intercalate_append_break {lines : List (List Char)} (hne : lines ≠ []) :
    ['\n'].intercalate lines ++ ['\n'] = lines.flatMap (· ++ ['\n']) := by
  induction lines with
  | nil => exact absurd rfl hne
  | cons line rest ih =>
    cases rest with
    | nil => simp [List.intercalate_singleton]
    | cons next rest =>
      rw [List.intercalate_cons_cons, List.append_assoc, ih (List.cons_ne_nil next rest)]
      rfl

theorem splitOn_flatMap_break (lines : List (List Char)) :
    (lines.flatMap (· ++ ['\n'])).splitOn '\n' = lines.flatMap (List.splitOn '\n') ++ [[]] := by
  induction lines with
  | nil => rfl
  | cons line rest ih =>
    rw [List.flatMap_cons, List.append_assoc, List.singleton_append,
      List.splitOn_append_cons_self, ih, List.flatMap_cons, List.append_assoc]

/-- The physical lines of the text are those that the breaks inside its lines make of them. -/
theorem physicalLines_text {d : Dockerfile} (hne : d.lines ≠ []) :
    Text.physicalLines d.text = d.lines.flatMap Text.pieces := by
  have hlines : d.lines.map String.toList ≠ [] := by simpa using hne
  have hpieces : Text.pieces = List.map String.ofList ∘ List.splitOn '\n' ∘ String.toList := rfl
  rw [Text.physicalLines, toList_text, intercalate_append_break hlines, splitOn_flatMap_break,
    List.dropLast_concat, List.flatMap_map, List.map_flatMap, hpieces]
  rfl

/-- The physical lines of the text are the lines exactly if no line is broken. -/
theorem physicalLines_text_iff {d : Dockerfile} (hne : d.lines ≠ []) :
    Text.physicalLines d.text = d.lines ↔ Text.OneLined d.lines := by
  rw [physicalLines_text hne]
  constructor
  · intro h line hline
    rw [← h] at hline
    obtain ⟨whole, -, hpiece⟩ := List.mem_flatMap.mp hline
    exact Text.unbroken_of_mem_pieces hpiece
  · exact Text.flatMap_pieces_of_oneLined

/-- Every line takes one physical line, and one more for each break in it. -/
theorem length_physicalLines_text {d : Dockerfile} (hne : d.lines ≠ []) :
    (Text.physicalLines d.text).length = d.lines.length + Text.breaksIn d.lines := by
  rw [physicalLines_text hne, Text.length_flatMap_pieces]

end Dockerfile

end DevEnv
