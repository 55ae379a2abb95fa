import DevEnv.Proofs.ImageName.Grammar
import DevEnv.Proofs.Pipeline.Requests
import Mathlib.Data.List.Chain

/-!
Names of images and containers that are legal for the engine. A token has no characters besides those of
legal names, is never empty, and has no hyphen at its ends or behind another one. But dots and
underscores are kept as they stand, so that the token is legal exactly if they stand well in the name
of the environment.
-/

namespace DevEnv.ImageName

set_option autoImplicit false

def LegalComponent (s : String) : Prop := Joined isHyphen s.toList

def isContainerChar (c : Char) : Bool := c.isAlphanum || c == '_' || c == '.' || c == '-'

/-- A letter or digit and then legal characters. -/
def LegalContainer (s : String) : Prop :=
  (∃ c ∈ s.toList.head?, c.isAlphanum = true) ∧ ∀ c ∈ s.toList.tail, isContainerChar c = true

def isHexDigit (c : Char) : Bool := c.isDigit || ('a' ≤ c && c ≤ 'f')

/-- The name in lower case. -/
def lowered (name : Option String) : List Char := (Text.lower (name.getD "")).toList

/-- What takes the place of a character that is not kept. -/
def hyphenate (c : Char) : Char := if isKept c then c else '-'

/-- The token, if it is not empty. -/
def kept (name : Option String) : List Char := trimHyphens (squeeze ((lowered name).map hyphenate))

theorem token_toList (name : Option String) :
    (token name).toList = if kept name = [] then fallback.toList else kept name := by
  unfold token
  change (if (kept name).isEmpty then fallback else String.ofList (kept name)).toList = _
  cases kept name with
  | nil => rfl
  | cons c cs => simp

theorem trimHyphens_eq (cs : List Char) : trimHyphens cs = trim isHyphen cs := rfl

theorem isKept_eq (c : Char) : isKept c = (isLetter c || c == '_' || c == '.' || c == '-') := rfl

theorem hyphenate_of_isOther {c : Char} (h : isOther c = true) : hyphenate c = '-' := by
  unfold hyphenate
  simp only [isOther, Bool.not_eq_true', Bool.or_eq_false_iff] at h
  by_cases hyphen : c = '-'
  · simp [hyphen]
  · simp [isKept_eq, h, hyphen]

theorem hyphenate_of_not_isOther {c : Char} (h : isOther c = false) : hyphenate c = c := by
  unfold hyphenate
  simp only [isOther, Bool.not_eq_false', Bool.or_eq_true] at h
  rw [if_pos]
  rcases h with (letter | dot) | underscore
  · simp [isKept_eq, letter]
  · simp [isKept_eq, dot]
  · simp [isKept_eq, underscore]

theorem isHyphen_hyphenate (c : Char) : isHyphen (hyphenate c) = isOther c := by
  cases h : isOther c with
  | true => rw [hyphenate_of_isOther h]; rfl
  | false =>
    rw [hyphenate_of_not_isOther h]
    by_cases hyphen : c = '-'
    · subst hyphen
      cases h
    · simp [isHyphen, hyphen]

/-- A reader takes the replaced text as one who lets everything else fill gaps takes the given one. -/
theorem next_hyphenate (p : Place) (c : Char) :
    p.next isHyphen (hyphenate c) = p.next isOther c := by
  cases h : isOther c with
  | true =>
    have hyphen : isHyphen (hyphenate c) = true := by rw [isHyphen_hyphenate, h]
    rw [Place.next_fill apart_isHyphen hyphen, Place.next_fill apart_isOther h]
  | false =>
    have hyphen : isHyphen c = false := by
      rw [← hyphenate_of_not_isOther h, isHyphen_hyphenate, h]
    rw [hyphenate_of_not_isOther h]
    cases p <;> simp [Place.next, h, hyphen]

theorem reads_hyphenate (p : Place) (cs : List Char) :
    reads isHyphen p (cs.map hyphenate) = reads isOther p cs := by
  induction cs generalizing p with
  | nil => rfl
  | cons c cs ih =>
    rw [List.map_cons, reads_cons, reads_cons, next_hyphenate]
    simp only [ih]

theorem squeeze_cons {c : Char} {rest : List Char}
    (other : ∀ rest', c = '-' → rest = '-' :: rest' → False) :
    squeeze (c :: rest) = c :: squeeze rest := by
  rw [squeeze]
  exact other

/-- A second hyphen leads a reader nowhere. -/
theorem reads_squeeze (p : Place) (cs : List Char) :
    reads isHyphen p (squeeze cs) = reads isHyphen p cs := by
  induction cs using squeeze.induct generalizing p with
  | case1 rest ih =>
    rw [squeeze, ih, reads_cons, reads_cons, Place.next_fill apart_isHyphen rfl]
    -- The first hyphen leads into a gap, where the second stays, or it cannot be read at all.
    split
    · rw [Option.bind_some, Option.bind_some, reads_cons, Place.next_fill apart_isHyphen rfl]
      rfl
    · rfl
  | case2 c rest other ih =>
    rw [squeeze_cons other, reads_cons, reads_cons]
    simp only [ih]
  | case3 => rfl

theorem readable_kept (name : Option String) :
    (kept name = [] ∨ Joined isHyphen (kept name)) ↔ Readable isOther (lowered name) := by
  unfold kept
  rw [trimHyphens_eq, joined_trim_iff apart_isHyphen]
  unfold Readable
  rw [reads_squeeze, reads_hyphenate]

/-- What of the name is between the characters at its ends that become hyphens. -/
def middle (name : Option String) : List Char := trim isOther (lowered name)

theorem legalComponent_fallback : LegalComponent fallback := by
  rw [LegalComponent, joined_iff apart_isHyphen]
  decide

theorem legalComponent_token_iff (name : Option String) :
    LegalComponent (token name) ↔ middle name = [] ∨ Joined isOther (middle name) := by
  unfold middle
  rw [joined_trim_iff apart_isOther, ← readable_kept, LegalComponent, token_toList]
  by_cases h : kept name = []
  · rw [if_pos h]
    exact ⟨fun _ => .inl h, fun _ => legalComponent_fallback⟩
  · rw [if_neg h]
    exact ⟨.inr, fun legal => legal.resolve_left h⟩

/-! ### Characters -/

theorem mem_of_mem_squeeze {c : Char} {cs : List Char} (h : c ∈ squeeze cs) : c ∈ cs := by
  induction cs using squeeze.induct with
  | case1 rest ih =>
    rw [squeeze] at h
    exact .tail _ (ih h)
  | case2 d rest other ih =>
    rw [squeeze_cons other] at h
    rcases List.mem_cons.mp h with rfl | h
    · exact List.mem_cons_self
    · exact .tail d (ih h)
  | case3 => cases h

theorem mem_of_mem_trim {fills : Char → Bool} {c : Char} {cs : List Char} (h : c ∈ trim fills cs) :
    c ∈ cs :=
  (List.dropWhile_sublist fills).mem ((List.rdropWhile_prefix fills _).mem h)

theorem isKept_hyphenate (c : Char) : isKept (hyphenate c) = true := by
  unfold hyphenate
  split
  · assumption
  · rfl

theorem isKept_of_mem_token {name : Option String} {c : Char} (h : c ∈ (token name).toList) :
    isKept c = true := by
  rw [token_toList] at h
  split at h
  · have all : fallback.toList.all isKept = true := by decide
    exact List.all_eq_true.mp all c h
  · obtain ⟨d, -, rfl⟩ := List.mem_map.mp (mem_of_mem_squeeze (mem_of_mem_trim h))
    exact isKept_hyphenate d

theorem head?_squeeze (cs : List Char) : (squeeze cs).head? = cs.head? := by
  induction cs using squeeze.induct with
  | case1 rest ih =>
    rw [squeeze, ih]
    rfl
  | case2 c rest other ih =>
    rw [squeeze_cons other]
    rfl
  | case3 => rfl

/-- Hyphens stand alone in a squeezed text. -/
theorem isChain_squeeze (cs : List Char) :
    (squeeze cs).IsChain fun c d => ¬ (c = '-' ∧ d = '-') := by
  induction cs using squeeze.induct with
  | case1 rest ih =>
    rw [squeeze]
    exact ih
  | case2 c rest other ih =>
    rw [squeeze_cons other]
    refine List.isChain_cons.mpr ⟨?_, ih⟩
    rw [head?_squeeze]
    rintro d hd ⟨rfl, rfl⟩
    obtain ⟨rest, rfl⟩ := List.head?_eq_some_iff.mp hd
    exact other rest rfl rfl
  | case3 => exact .nil

theorem isChain_token (name : Option String) :
    (token name).toList.IsChain fun c d => ¬ (c = '-' ∧ d = '-') := by
  rw [token_toList]
  split
  · decide
  · have squeezed := isChain_squeeze ((lowered name).map hyphenate)
    have begun := squeezed.suffix (List.dropWhile_suffix fun c => c == '-')
    obtain ⟨rest, whole⟩ := List.rdropWhile_prefix (fun c => c == '-')
      ((squeeze ((lowered name).map hyphenate)).dropWhile fun c => c == '-')
    rw [← whole] at begun
    exact begun.left_of_append

theorem ends_token {name : Option String} {c : Char}
    (h : (token name).toList.head? = some c ∨ (token name).toList.getLast? = some c) : c ≠ '-' := by
  rintro rfl
  rw [token_toList] at h
  split at h
  · revert h
    decide
  · unfold kept at h
    rw [trimHyphens_eq] at h
    rcases h with first | last
    · cases fills_of_mem_head? first
    · obtain ⟨ds, whole⟩ := List.getLast?_eq_some_iff.mp last
      cases fills_of_trim_eq whole

theorem find?_squeeze (cs : List Char) :
    ((squeeze cs).find? fun c => !isHyphen c) = cs.find? fun c => !isHyphen c := by
  induction cs using squeeze.induct with
  | case1 rest ih =>
    rw [squeeze, ih]
    rfl
  | case2 c rest other ih =>
    rw [squeeze_cons other]
    simp only [List.find?_cons, ih]
  | case3 => rfl

/-- The first character that is usable stays as it is. -/
theorem head?_kept (name : Option String) : (kept name).head? = (middle name).head? := by
  unfold kept middle
  rw [trimHyphens_eq, head?_trim, head?_trim, find?_squeeze, List.find?_map]
  have same : (fun c => !isHyphen c) ∘ hyphenate = fun c => !isOther c := by
    funext c
    simp [isHyphen_hyphenate]
  rw [same]
  -- Only the characters that get lost on the way are changed.
  cases found : (lowered name).find? fun c => !isOther c with
  | none => rfl
  | some c =>
    have usable : isOther c = false := by simpa using List.find?_some found
    rw [Option.map_some, hyphenate_of_not_isOther usable]

theorem isAlphanum_of_isLetter {c : Char} (h : isLetter c = true) : c.isAlphanum = true := by
  simp only [isLetter, Bool.or_eq_true] at h
  change ((c.isUpper || c.isLower) || c.isDigit) = true
  simp only [Bool.or_eq_true]
  rcases h with lower | digit
  · exact .inl (.inr lower)
  · exact .inr digit

theorem isAlphanum_iff {c : Char} (h : isKept c = true) :
    c.isAlphanum = true ↔ isLetter c = true := by
  refine ⟨fun alphanum => ?_, isAlphanum_of_isLetter⟩
  simp only [isKept_eq, Bool.or_eq_true, beq_iff_eq] at h
  rcases h with ((letter | rfl) | rfl) | rfl
  · exact letter
  all_goals cases alphanum

theorem isContainerChar_of_isKept {c : Char} (h : isKept c = true) : isContainerChar c = true := by
  simp only [isKept_eq, Bool.or_eq_true, beq_iff_eq] at h
  rcases h with ((letter | rfl) | rfl) | rfl
  · simp [isContainerChar, isAlphanum_of_isLetter letter]
  all_goals rfl

theorem isContainerChar_of_isHexDigit {c : Char} (h : isHexDigit c = true) :
    isContainerChar c = true := by
  refine isContainerChar_of_isKept ?_
  simp only [isHexDigit, Bool.or_eq_true, Bool.and_eq_true, decide_eq_true_eq] at h
  rcases h with digit | ⟨first, last⟩
  · simp [isKept, digit]
  · have lower : c ≤ 'z' := Char.le_trans last (by decide)
    simp [isKept, first, lower]

theorem token_toList_eq_cons (name : Option String) : ∃ c cs, (token name).toList = c :: cs ∧
    (isLetter c = true ↔ ∀ d ∈ (middle name).head?, isLetter d = true) := by
  rw [token_toList, ← head?_kept]
  cases kept name with
  | nil => exact ⟨'d', _, rfl, by simp; rfl⟩
  | cons c cs => exact ⟨c, cs, rfl, by simp⟩

/-- Only the first character of a container name is at stake. -/
theorem legalContainer_iff (name : Option String) {suffix : String}
    (hex : ∀ c ∈ suffix.toList, isHexDigit c = true) :
    LegalContainer (container name suffix) ↔ ∀ c ∈ (middle name).head?, isLetter c = true := by
  obtain ⟨c, cs, token_eq, first⟩ := token_toList_eq_cons name
  have whole : (container name suffix).toList = c :: (cs ++ '-' :: suffix.toList) := by
    simp [container, token_eq]
  have kept : ∀ d ∈ c :: cs, isKept d = true := by
    intro d hd
    rw [← token_eq] at hd
    exact isKept_of_mem_token hd
  have rest : ∀ d ∈ cs ++ '-' :: suffix.toList, isContainerChar d = true := by
    intro d hd
    rcases List.mem_append.mp hd with hd | hd
    · exact isContainerChar_of_isKept (kept d (.tail c hd))
    rcases List.mem_cons.mp hd with rfl | hd
    · rfl
    · exact isContainerChar_of_isHexDigit (hex d hd)
  rw [LegalContainer, whole, ← first, ← isAlphanum_iff (kept c List.mem_cons_self)]
  constructor
  · rintro ⟨⟨d, hd, alphanum⟩, -⟩
    obtain rfl := Option.some.inj hd
    exact alphanum
  · intro alphanum
    exact ⟨⟨c, rfl, alphanum⟩, rest⟩

theorem Joined.isLetter_head? {fills : Char → Bool} {cs : List Char} (h : Joined fills cs) :
    ∀ c ∈ cs.head?, isLetter c = true := by
  cases h with
  | word w =>
    intro c hc
    exact w.2 c (List.mem_of_mem_head? hc)
  | join w s rest =>
    intro c hc
    rw [List.append_assoc, List.head?_append_of_ne_nil _ w.1] at hc
    exact w.2 c (List.mem_of_mem_head? hc)

/-- Without dots and underscores there are words and gaps only. -/
theorem readable_of_plain {cs : List Char} (h : ∀ c ∈ cs, c ≠ '.' ∧ c ≠ '_') {p : Place}
    (hp : p = .word ∨ p = .gap) :
    reads isOther p cs = some .word ∨ reads isOther p cs = some .gap := by
  induction cs generalizing p with
  | nil => exact hp.imp (congrArg some) (congrArg some)
  | cons c cs ih =>
    obtain ⟨dot, underscore⟩ := h c List.mem_cons_self
    have rest : ∀ d ∈ cs, d ≠ '.' ∧ d ≠ '_' := fun d hd => h d (.tail c hd)
    rw [reads_cons]
    by_cases letter : isLetter c = true
    · rw [Place.next_letter letter]
      exact ih rest (.inl rfl)
    · have other : isOther c = true := by simp [isOther, letter, dot, underscore]
      rw [Place.next_fill apart_isOther other, if_pos hp]
      exact ih rest (.inr rfl)

/-- How far the names made from the name of an environment are legal. -/
structure Named (name : Option String) : Prop where
  filled : token name ≠ ""
  characters : ∀ c ∈ (token name).toList, isKept c = true
  hyphens : (token name).toList.IsChain fun c d => ¬ (c = '-' ∧ d = '-')
  ends : ∀ c, (token name).toList.head? = some c ∨ (token name).toList.getLast? = some c → c ≠ '-'
  component : LegalComponent (token name) ↔ middle name = [] ∨ Joined isOther (middle name)
  container : ∀ suffix : String, suffix.length = 8 → (∀ c ∈ suffix.toList, isHexDigit c = true) →
    (LegalContainer (container name suffix) ↔ ∀ c ∈ (middle name).head?, isLetter c = true)
  /-- What is legal for images is legal for containers. -/
  both : LegalComponent (token name) → ∀ suffix : String, suffix.length = 8 →
    (∀ c ∈ suffix.toList, isHexDigit c = true) → LegalContainer (ImageName.container name suffix)
  plain : (∀ c ∈ lowered name, c ≠ '.' ∧ c ≠ '_') → LegalComponent (token name)
  builds : ∀ (p : Pipeline) (e : Environment), p.draft = some e.toDraft → e.name = name →
    p.tagFor none = .ok (token name ++ ":latest")
  runs : ∀ (p : Pipeline) (e : Environment), p.draft = some e.toDraft → e.name = name →
    ∀ env suffix, (p.runRequest ⟨none, env⟩ suffix).map (·.containerName) =
      .ok (token name ++ "-" ++ suffix)

theorem names_legal_iff (name : Option String) : Named name where
  filled := by
    obtain ⟨c, cs, token_eq, -⟩ := token_toList_eq_cons name
    intro empty
    rw [empty] at token_eq
    cases token_eq
  characters c hc := isKept_of_mem_token hc
  hyphens := isChain_token name
  ends c h := ends_token h
  component := legalComponent_token_iff name
  container suffix _ hex := legalContainer_iff name hex
  both legal suffix _ hex := by
    rw [legalContainer_iff name hex]
    rcases (legalComponent_token_iff name).mp legal with nothing | joined
    · rw [nothing]
      nofun
    · exact joined.isLetter_head?
  plain h := by
    rw [legalComponent_token_iff, middle, joined_trim_iff apart_isOther]
    exact readable_of_plain h (.inr rfl)
  builds p e draft same := by
    rw [Pipeline.tagFor_toDraft draft, same]
    rfl
  runs p e draft same env suffix := by
    rw [Pipeline.runRequest_toDraft draft, same]
    rfl

/-- Dots are not trimmed. -/
theorem dots_illegal : ¬ LegalComponent (token (some "..")) ∧
    ¬ LegalContainer (container (some "..") "0123abcd") := by
  have dots : middle (some "..") = ['.', '.'] := by decide
  constructor
  · rw [legalComponent_token_iff, dots, joined_iff apart_isOther]
    decide
  · have hex : "0123abcd".toList.all isHexDigit = true := by decide
    rw [legalContainer_iff _ (List.all_eq_true.mp hex), dots]
    intro letters
    exact absurd (letters '.' rfl) (by decide)

end DevEnv.ImageName
