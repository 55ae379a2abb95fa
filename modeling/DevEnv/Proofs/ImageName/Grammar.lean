import DevEnv.ImageName
import Mathlib.Data.List.DropRight

/-!
The grammar of image repositories: words of letters and digits, each two of them joined by a dot, by one
or two underscores, or by characters that fill a gap. In a repository hyphens fill it, and in the name
of an environment everything that is going to be one.

The grammar is read from left to right, character by character, so that what becomes of a text under
the passes of `token` can be followed place by place.
-/

namespace DevEnv.ImageName

set_option autoImplicit false

def isLetter (c : Char) : Bool := ('a' ≤ c && c ≤ 'z') || c.isDigit

/-- A character that is a hyphen in the end, if it stays at all. -/
def isOther (c : Char) : Bool := !(isLetter c || c == '.' || c == '_')

def isHyphen (c : Char) : Bool := c == '-'

def IsWord (cs : List Char) : Prop := cs ≠ [] ∧ ∀ c ∈ cs, isLetter c = true

inductive Separator (fills : Char → Bool) : List Char → Prop
  | dot : Separator fills ['.']
  | underscore : Separator fills ['_']
  | underscores : Separator fills ['_', '_']
  | gap {s : List Char} : s ≠ [] → (∀ c ∈ s, fills c = true) → Separator fills s

inductive Joined (fills : Char → Bool) : List Char → Prop
  | word {w : List Char} : IsWord w → Joined fills w
  | join {w s rest : List Char} : IsWord w → Separator fills s → Joined fills rest →
      Joined fills (w ++ s ++ rest)

/-- Where a reader stands: a letter has to come, it is in a word, behind the first underscore, or in a
gap. -/
inductive Place
  | awaiting
  | word
  | underscore
  | gap
deriving DecidableEq, Repr

def Place.next (fills : Char → Bool) (p : Place) (c : Char) : Option Place :=
  if isLetter c then some .word
  else match p with
    | .awaiting => none
    | .word =>
      if c = '.' then some .awaiting
      else if c = '_' then some .underscore
      else if fills c then some .gap
      else none
    | .underscore => if c = '_' then some .awaiting else none
    | .gap => if fills c then some .gap else none

/-- The place behind the characters, if they can be read. -/
def reads (fills : Char → Bool) (p : Place) (cs : List Char) : Option Place :=
  cs.foldlM (Place.next fills) p

/-- What fills a gap is no part of a word and no separator of its own. -/
structure Apart (fills : Char → Bool) : Prop where
  letter : ∀ c, fills c = true → isLetter c = false
  dot : fills '.' = false
  underscore : fills '_' = false

theorem apart_isHyphen : Apart isHyphen where
  letter c h := by
    obtain rfl : c = '-' := by simpa [isHyphen] using h
    rfl
  dot := rfl
  underscore := rfl

theorem apart_isOther : Apart isOther where
  letter c h := by
    unfold isOther at h
    cases letter : isLetter c with
    | false => rfl
    | true => rw [letter] at h; cases h
  dot := rfl
  underscore := rfl

variable {fills : Char → Bool} {p q : Place} {c : Char} {cs ds : List Char}

theorem reads_cons : reads fills p (c :: cs) = (p.next fills c).bind (reads fills · cs) := by
  simp [reads]

theorem reads_append : reads fills p (cs ++ ds) = (reads fills p cs).bind (reads fills · ds) := by
  simp [reads, List.foldlM_append]

namespace Place

theorem next_letter (h : isLetter c = true) : p.next fills c = some .word := if_pos h

theorem next_fill (apart : Apart fills) (h : fills c = true) :
    p.next fills c = if p = .word ∨ p = .gap then some .gap else none := by
  have letter : isLetter c = false := apart.letter c h
  have dot : c ≠ '.' := by
    rintro rfl
    rw [apart.dot] at h
    cases h
  have underscore : c ≠ '_' := by
    rintro rfl
    rw [apart.underscore] at h
    cases h
  cases p <;> simp [next, letter, dot, underscore, h]

/-- A gap is reached over what fills it only. -/
theorem fills_of_next_gap (h : p.next fills c = some .gap) : fills c = true := by
  unfold next at h
  split at h
  · cases h
  · cases p <;> grind

end Place

theorem reads_letters (h : ∀ c ∈ cs, isLetter c = true) :
    reads fills .word cs = some .word := by
  induction cs with
  | nil => rfl
  | cons c cs ih =>
    rw [reads_cons, Place.next_letter (h c List.mem_cons_self)]
    exact ih fun d hd => h d (.tail c hd)

theorem reads_word (h : IsWord cs) (p : Place) : reads fills p cs = some .word := by
  obtain ⟨filled, letters⟩ := h
  cases cs with
  | nil => exact absurd rfl filled
  | cons c cs =>
    rw [reads_cons, Place.next_letter (letters c List.mem_cons_self)]
    exact reads_letters fun d hd => letters d (.tail c hd)

theorem reads_gap (apart : Apart fills) (h : ∀ c ∈ cs, fills c = true) :
    reads fills .gap cs = some .gap := by
  induction cs with
  | nil => rfl
  | cons c cs ih =>
    rw [reads_cons, Place.next_fill apart (h c List.mem_cons_self)]
    exact ih fun d hd => h d (.tail c hd)

theorem Separator.reads (apart : Apart fills) (h : Separator fills cs) :
    ∃ q, ImageName.reads fills .word cs = some q := by
  cases h with
  | dot => exact ⟨.awaiting, rfl⟩
  | underscore => exact ⟨.underscore, rfl⟩
  | underscores => exact ⟨.awaiting, rfl⟩
  | gap filled all =>
    cases cs with
    | nil => exact absurd rfl filled
    | cons c cs =>
      refine ⟨.gap, ?_⟩
      rw [reads_cons, Place.next_fill apart (all c List.mem_cons_self)]
      exact reads_gap apart fun d hd => all d (.tail c hd)

theorem Joined.reads (apart : Apart fills) (h : Joined fills cs) (p : Place) :
    ImageName.reads fills p cs = some .word := by
  -- Every part of the grammar ends in a word, whatever place it is read from.
  induction h generalizing p with
  | word w => exact reads_word w p
  | join w s _ ih =>
    obtain ⟨q, behind⟩ := s.reads apart
    rw [reads_append, reads_append, reads_word w p, Option.bind_some, behind, Option.bind_some]
    exact ih q

/-- What can stand behind a place for all that led there to be a text of the grammar. -/
def Place.Completed (fills : Char → Bool) (cs : List Char) : Place → Prop
  | .awaiting => Joined fills cs
  | .word => ∀ w, IsWord w → Joined fills (w ++ cs)
  | .underscore => ∀ w, IsWord w → Joined fills (w ++ '_' :: cs)
  | .gap => ∀ w s, IsWord w → s ≠ [] → (∀ c ∈ s, fills c = true) → Joined fills (w ++ s ++ cs)

theorem isWord_singleton (h : isLetter c = true) : IsWord [c] :=
  ⟨List.cons_ne_nil c [], fun _ hd => List.mem_singleton.mp hd ▸ h⟩

theorem Place.Completed.letter (letter : isLetter c = true) (h : Place.word.Completed fills cs)
    (p : Place) : p.Completed fills (c :: cs) := by
  have begun : Joined fills (c :: cs) := h [c] (isWord_singleton letter)
  cases p with
  | awaiting => exact begun
  | word =>
    intro w hw
    rw [List.append_cons]
    refine h (w ++ [c]) ⟨by simp, fun d hd => ?_⟩
    rcases List.mem_append.mp hd with hd | hd
    · exact hw.2 d hd
    · exact List.mem_singleton.mp hd ▸ letter
  | underscore =>
    intro w hw
    rw [List.append_cons]
    exact .join hw .underscore begun
  | gap =>
    intro w s hw filled all
    exact .join hw (.gap filled all) begun

theorem Place.Completed.step (h : p.next fills c = some q) (rest : q.Completed fills cs) :
    p.Completed fills (c :: cs) := by
  unfold Place.next at h
  split at h
  · obtain rfl := Option.some.inj h
    exact rest.letter ‹_› p
  · cases p with
    | awaiting => cases h
    | word =>
      dsimp only at h
      intro w hw
      split at h
      · obtain rfl := Option.some.inj h
        subst c
        rw [List.append_cons]
        exact .join hw .dot rest
      split at h
      · obtain rfl := Option.some.inj h
        subst c
        exact rest w hw
      split at h
      · obtain rfl := Option.some.inj h
        rw [List.append_cons]
        exact rest w [c] hw (List.cons_ne_nil c []) fun d hd => List.mem_singleton.mp hd ▸ ‹_›
      · cases h
    | underscore =>
      dsimp only at h
      split at h
      · obtain rfl := Option.some.inj h
        subst c
        intro w hw
        have whole : w ++ '_' :: '_' :: cs = w ++ ['_', '_'] ++ cs := by simp
        rw [whole]
        exact .join hw .underscores rest
      · cases h
    | gap =>
      dsimp only at h
      split at h
      · obtain rfl := Option.some.inj h
        intro w s hw _ all
        have whole : w ++ s ++ c :: cs = w ++ (s ++ [c]) ++ cs := by simp
        rw [whole]
        refine rest w (s ++ [c]) hw (by simp) fun d hd => ?_
        rcases List.mem_append.mp hd with hd | hd
        · exact all d hd
        · exact List.mem_singleton.mp hd ▸ ‹_›
      · cases h

theorem completed_of_reads (h : reads fills p cs = some .word) : p.Completed fills cs ∨ cs = [] := by
  -- From the end: what completes the place behind a character completes, with it, the place before.
  induction cs generalizing p with
  | nil => exact .inr rfl
  | cons c cs ih =>
    rw [reads_cons, Option.bind_eq_some_iff] at h
    obtain ⟨q, step, rest⟩ := h
    refine .inl ?_
    rcases ih rest with completed | rfl
    · exact completed.step step
    · obtain rfl := Option.some.inj rest
      refine Place.Completed.step step fun w hw => ?_
      rw [List.append_nil]
      exact .word hw

/-- A text is of the grammar if it can be read to the end and ends in a word. -/
theorem joined_iff (apart : Apart fills) :
    Joined fills cs ↔ reads fills .awaiting cs = some .word := by
  constructor
  · intro h
    exact h.reads apart .awaiting
  · intro h
    rcases completed_of_reads h with completed | rfl
    · exact completed
    · cases h

/-! ### Without the ends -/

/-- The text without what fills gaps at its ends. -/
def trim (fills : Char → Bool) (cs : List Char) : List Char := (cs.dropWhile fills).rdropWhile fills

/-- The text can be read as if a gap were before it and is not broken off behind a separator. -/
def Readable (fills : Char → Bool) (cs : List Char) : Prop :=
  reads fills .gap cs = some .word ∨ reads fills .gap cs = some .gap

theorem readable_dropWhile (apart : Apart fills) (cs : List Char) :
    Readable fills (cs.dropWhile fills) ↔ Readable fills cs := by
  induction cs with
  | nil => rfl
  | cons c cs ih =>
    by_cases h : fills c = true
    · have skipped : reads fills .gap (c :: cs) = reads fills .gap cs := by
        rw [reads_cons, Place.next_fill apart h]
        rfl
      rw [List.dropWhile_cons_of_pos h, ih]
      unfold Readable
      rw [skipped]
    · rw [List.dropWhile_cons_of_neg h]

theorem readable_rdropWhile (apart : Apart fills) (cs : List Char) :
    Readable fills (cs.rdropWhile fills) ↔ Readable fills cs := by
  induction cs using List.reverseRecOn with
  | nil => rfl
  | append_singleton cs c ih =>
    by_cases h : fills c = true
    · rw [List.rdropWhile_concat_pos fills cs c h, ih]
      have last : ∀ p : Place, reads fills p [c] = if p = .word ∨ p = .gap then some .gap else none := by
        intro p
        rw [reads_cons, Place.next_fill apart h]
        split <;> rfl
      unfold Readable
      rw [reads_append]
      -- Behind a word a gap begins, and in a gap it goes on; behind a separator nothing fills one.
      cases reads fills .gap cs with
      | none => simp
      | some p => cases p <;> simp [last]
    · rw [List.rdropWhile_concat_neg fills cs c h]

theorem readable_trim (apart : Apart fills) : Readable fills (trim fills cs) ↔ Readable fills cs :=
  (readable_rdropWhile apart _).trans (readable_dropWhile apart cs)

theorem trim_eq_nil_iff : trim fills cs = [] ↔ cs.find? (fun c => !fills c) = none := by
  rw [List.find?_not_eq_head?_dropWhile, List.head?_eq_none_iff]
  unfold trim
  constructor
  · intro h
    cases within : cs.dropWhile fills with
    | nil => rfl
    | cons c ds =>
      have first : fills c = false := by
        have := List.head_dropWhile_not fills (l := cs) (by simp [within])
        simpa [within] using this
      rw [within, List.rdropWhile_eq_nil_iff] at h
      rw [h c List.mem_cons_self] at first
      cases first
  · intro h
    rw [h, List.rdropWhile_nil]

theorem head?_trim (fills : Char → Bool) (cs : List Char) :
    (trim fills cs).head? = cs.find? fun c => !fills c := by
  cases trimmed : trim fills cs with
  | nil => exact (trim_eq_nil_iff.mp trimmed).symm
  | cons c ds =>
    have beginning : c :: ds <+: cs.dropWhile fills := trimmed ▸ List.rdropWhile_prefix fills _
    obtain ⟨rest, whole⟩ := beginning
    rw [List.find?_not_eq_head?_dropWhile, ← whole]
    rfl

theorem fills_of_mem_head? (h : c ∈ (trim fills cs).head?) : fills c = false := by
  rw [head?_trim] at h
  simpa using List.find?_some h

theorem fills_of_trim_eq (h : trim fills cs = ds ++ [c]) : fills c = false := by
  have filled : (cs.dropWhile fills).rdropWhile fills ≠ [] := by
    change trim fills cs ≠ []
    simp [h]
  have last := List.rdropWhile_last_not fills (cs.dropWhile fills) filled
  unfold trim at h
  simpa [h] using last

/-- A text that does not begin with what fills a gap reads the same behind one. -/
theorem reads_gap_eq (h : fills c = false) :
    reads fills .gap (c :: cs) = reads fills .awaiting (c :: cs) := by
  rw [reads_cons, reads_cons]
  simp [Place.next, h]

theorem reads_ne_gap (h : fills c = false) : reads fills p (cs ++ [c]) ≠ some .gap := by
  intro ends
  rw [reads_append, Option.bind_eq_some_iff] at ends
  obtain ⟨q, -, last⟩ := ends
  rw [reads_cons, Option.bind_eq_some_iff] at last
  obtain ⟨r, step, here⟩ := last
  obtain rfl : r = .gap := Option.some.inj here
  rw [Place.fills_of_next_gap step] at h
  cases h

/-- Between the ends there is nothing, or a text of the grammar. -/
theorem joined_trim_iff (apart : Apart fills) :
    trim fills cs = [] ∨ Joined fills (trim fills cs) ↔ Readable fills cs := by
  rw [← readable_trim apart, joined_iff apart]
  cases trimmed : trim fills cs with
  | nil => simp [Readable, reads]
  | cons c rest =>
    have head : c ∈ (trim fills cs).head? := by
      rw [trimmed]
      rfl
    have begins := fills_of_mem_head? head
    have ends : reads fills .awaiting (c :: rest) ≠ some .gap := by
      rcases List.eq_nil_or_concat (c :: rest) with none | ⟨ds, d, whole⟩
      · cases none
      · rw [whole, List.concat_eq_append] at trimmed ⊢
        exact reads_ne_gap (fills_of_trim_eq trimmed)
    simp [Readable, reads_gap_eq begins, ends]

end DevEnv.ImageName
