import DevEnv.Text.Lower
import Mathlib.Data.List.Infix

/-!
Lower case inside a longer text. Only capital sigmas look at what stands around them, and they look no
further than to the first character on either side that can decide. So a text is lowered in the same way
wherever it stands if its own characters decide for each of its sigmas, and else not.
-/

namespace DevEnv.Text

set_option autoImplicit false

/-! ### Neighbours of a sigma -/

/-- Whether the character is cased that a sigma in front of the text looks at, if there is one. -/
def firstCased? (cs : List Char) : Option Bool := (cs.dropWhile isCaseIgnorable).head?.map isCased

theorem beginsCased_eq (cs : List Char) : beginsCased cs = (firstCased? cs == some true) := by
  unfold beginsCased firstCased?
  cases cs.dropWhile isCaseIgnorable with
  | nil => rfl
  | cons c rest => cases cased : isCased c <;> simp [cased]

theorem firstCased?_append (cs ds : List Char) :
    firstCased? (cs ++ ds) = (firstCased? cs).or (firstCased? ds) := by
  induction cs with
  | nil => rfl
  | cons c cs ih =>
    unfold firstCased? at ih ⊢
    rw [List.cons_append, List.dropWhile_cons, List.dropWhile_cons]
    split
    · exact ih
    · rfl

theorem firstCased?_cons (c : Char) (cs : List Char) :
    firstCased? (c :: cs) = (firstCased? [c]).or (firstCased? cs) := firstCased?_append [c] cs

theorem firstCased?_sigma (cs : List Char) : firstCased? ('Σ' :: cs) = some true := by
  have here : firstCased? ['Σ'] = some true := by decide +kernel
  rw [firstCased?_cons, here]
  rfl

theorem firstCased?_alpha : firstCased? ['Α'] = some true := by decide +kernel

theorem not_mem_sigma_of_firstCased? {cs : List Char} (h : firstCased? cs = none) : 'Σ' ∉ cs := by
  intro inside
  obtain ⟨before, after, rfl⟩ := List.append_of_mem inside
  rw [firstCased?_append, firstCased?_sigma] at h
  cases before : firstCased? before <;> simp [before] at h

/-- The form of a sigma between two texts, of which the first is given last character first. -/
def sigmaBetween (before after : List Char) : Char :=
  if firstCased? before = some true ∧ firstCased? after ≠ some true then 'ς' else 'σ'

theorem sigmaBetween_congr {before before' after after' : List Char}
    (left : firstCased? before = firstCased? before')
    (right : firstCased? after = firstCased? after') :
    sigmaBetween before after = sigmaBetween before' after' := by
  rw [sigmaBetween, sigmaBetween, left, right]

/-! ### Parts of a text -/

/-- The lower-case form of a part of a text between these two others. -/
def lowerBetween (before after : List Char) : List Char → List Char
  | [] => []
  | c :: rest =>
    (if c = 'Σ' then [sigmaBetween before (rest ++ after)] else lowerChar c) ++
      lowerBetween (c :: before) after rest

theorem lowerAfter_cons (before : List Char) (c : Char) (rest : List Char) :
    lowerAfter before (c :: rest) =
      (if c = 'Σ' then [sigmaBetween before rest] else lowerChar c) ++
        lowerAfter (c :: before) rest := by
  rw [lowerAfter]
  congr 1
  split
  · unfold sigmaBetween
    simp only [beginsCased_eq, Bool.and_eq_true, Bool.not_eq_true', beq_iff_eq,
      beq_eq_false_iff_ne]
    split <;> rfl
  · rfl

theorem lowerAfter_append (before cs ds : List Char) :
    lowerAfter before (cs ++ ds) =
      lowerBetween before ds cs ++ lowerAfter (cs.reverse ++ before) ds := by
  induction cs generalizing before with
  | nil => rfl
  | cons c cs ih =>
    rw [List.cons_append, lowerAfter_cons, lowerBetween, ih, List.append_assoc,
      List.reverse_cons, List.append_assoc]
    rfl

theorem lowerBetween_append (before after cs ds : List Char) :
    lowerBetween before after (cs ++ ds) =
      lowerBetween before (ds ++ after) cs ++ lowerBetween (cs.reverse ++ before) after ds := by
  induction cs generalizing before with
  | nil => rfl
  | cons c cs ih =>
    rw [List.cons_append, lowerBetween, lowerBetween, ih, List.append_assoc, List.append_assoc,
      List.reverse_cons, List.append_assoc]
    rfl

theorem lowerBetween_nil (before cs : List Char) :
    lowerBetween before [] cs = lowerAfter before cs := by
  have whole := lowerAfter_append before cs []
  rw [List.append_nil] at whole
  rw [whole, lowerAfter, List.append_nil]

/-- What stands around a part matters only by its first characters that count. -/
theorem lowerBetween_congr {before before' after after' : List Char} (cs : List Char)
    (left : firstCased? before = firstCased? before')
    (right : firstCased? after = firstCased? after') :
    lowerBetween before after cs = lowerBetween before' after' cs := by
  induction cs generalizing before before' with
  | nil => rfl
  | cons c cs ih =>
    have inner : firstCased? (cs ++ after) = firstCased? (cs ++ after') := by
      rw [firstCased?_append, firstCased?_append, right]
    have outer : firstCased? (c :: before) = firstCased? (c :: before') := by
      rw [firstCased?_cons, firstCased?_cons c before', left]
    rw [lowerBetween, lowerBetween, sigmaBetween_congr left inner, ih outer]

theorem lowerBetween_of_not_mem {cs : List Char} (none : 'Σ' ∉ cs) (before after : List Char) :
    lowerBetween before after cs = cs.flatMap lowerChar := by
  induction cs generalizing before with
  | nil => rfl
  | cons c cs ih =>
    have here : c ≠ 'Σ' := fun same => none (same ▸ List.mem_cons_self)
    rw [lowerBetween, if_neg here, ih fun inside => none (.tail c inside), List.flatMap_cons]

/-! ### Texts that decide for themselves -/

/-- The characters of the text decide for each of its sigmas. -/
def Settled (cs : List Char) : Prop :=
  ∀ before after, cs = before ++ 'Σ' :: after →
    firstCased? before.reverse = some false ∨ firstCased? after = some true ∨
      (firstCased? before.reverse = some true ∧ firstCased? after = some false)

theorem settled_of_not_mem {cs : List Char} (none : 'Σ' ∉ cs) : Settled cs := by
  intro before after split
  rw [split] at none
  exact absurd (List.mem_append_right _ List.mem_cons_self) none

theorem sigmaBetween_of_settled {before after : List Char}
    (h : firstCased? before = some false ∨ firstCased? after = some true ∨
      (firstCased? before = some true ∧ firstCased? after = some false)) (left right : List Char) :
    sigmaBetween (before ++ left) (after ++ right) = sigmaBetween before after := by
  unfold sigmaBetween
  rw [firstCased?_append, firstCased?_append]
  rcases h with uncased | cased | ⟨cased, uncased⟩
  · simp [uncased]
  · simp [cased]
  · simp [cased, uncased]

/-- A text that decides for itself is lowered as it is alone, wherever it stands. -/
theorem lowerBetween_of_settled {cs : List Char} (h : Settled cs) (left right : List Char) :
    lowerBetween left right cs = lowerAfter [] cs := by
  suffices ∀ before after, cs = before.reverse ++ after →
      lowerBetween (before ++ left) right after = lowerAfter before after from this [] cs rfl
  intro before after
  induction after generalizing before with
  | nil =>
    intro split
    rfl
  | cons c after ih =>
    intro split
    have rest := ih (c :: before) (by rw [split, List.reverse_cons, List.append_cons])
    rw [lowerBetween, lowerAfter_cons, ← List.cons_append, rest]
    congr 1
    split_ifs with sigma
    · subst sigma
      have decided := h before.reverse after split
      rw [List.reverse_reverse] at decided
      rw [sigmaBetween_of_settled decided left right]
    · rfl

theorem lower_infix_of_settled {cs ds : List Char} (h : Settled cs) (inside : cs <:+: ds) :
    lowerAfter [] cs <:+: lowerAfter [] ds := by
  obtain ⟨left, right, rfl⟩ := inside
  rw [lowerAfter_append, lowerBetween_append, List.append_nil, lowerBetween_of_settled h,
    List.append_nil]
  exact ⟨_, _, rfl⟩

theorem not_infix_of_count_lt {c : Char} {cs ds : List Char} (h : ds.count c < cs.count c) :
    ¬ cs <:+: ds := by
  intro inside
  have := inside.sublist.count_le c
  omega

/-! ### Texts that do not -/

/-- A text in two parts around a sigma. Neither part looks beyond it. -/
theorem lowerBetween_split (left right before after : List Char) :
    lowerBetween left right (before ++ 'Σ' :: after) =
      lowerBetween left ['Σ'] before ++
        sigmaBetween (before.reverse ++ left) (after ++ right) :: lowerBetween ['Σ'] right after := by
  have front : lowerBetween left ('Σ' :: after ++ right) before = lowerBetween left ['Σ'] before :=
    lowerBetween_congr before rfl (by rw [List.cons_append, firstCased?_sigma, firstCased?_sigma])
  have back : lowerBetween ('Σ' :: (before.reverse ++ left)) right after =
      lowerBetween ['Σ'] right after :=
    lowerBetween_congr after (by rw [firstCased?_sigma, firstCased?_sigma]) rfl
  rw [lowerBetween_append, front, lowerBetween, if_pos rfl, back]
  rfl

theorem lowerAfter_alpha (before : List Char) : lowerAfter before ['Α'] = ['α'] := by
  have alpha : lowerChar 'Α' = ['α'] := by decide +kernel
  rw [lowerAfter_cons, if_neg (by decide), alpha]
  rfl

/-- A sigma that ends a word at the end of the text ends none if a letter follows. -/
theorem not_infix_of_open_end {before after : List Char}
    (word : firstCased? before.reverse = some true) (ends : firstCased? after = none) :
    ¬ lowerAfter [] (before ++ 'Σ' :: after) <:+:
      lowerAfter [] (before ++ 'Σ' :: after ++ ['Α']) := by
  have plain := not_mem_sigma_of_firstCased? ends
  have final : sigmaBetween (before.reverse ++ []) (after ++ []) = 'ς' := by
    simp [sigmaBetween, word, ends]
  have inner : sigmaBetween (before.reverse ++ []) (after ++ ['Α']) = 'σ' := by
    simp [sigmaBetween, firstCased?_append, ends, firstCased?_alpha]
  -- The longer text has one final sigma less.
  apply not_infix_of_count_lt (c := 'ς')
  rw [lowerAfter_append, lowerAfter_alpha, ← lowerBetween_nil, lowerBetween_split,
    lowerBetween_split, final, inner, lowerBetween_of_not_mem plain, lowerBetween_of_not_mem plain]
  simp only [List.count_append, List.count_cons_self, List.count_nil,
    List.count_cons_of_ne (show 'σ' ≠ 'ς' by decide), List.count_cons_of_ne (show 'α' ≠ 'ς' by decide)]
  omega

/-- A sigma with no word in front of it ends one if a letter comes before the text. -/
theorem not_infix_of_open_start {before after : List Char}
    (starts : firstCased? before.reverse = none) (stops : firstCased? after ≠ some true) :
    ¬ lowerAfter [] (before ++ 'Σ' :: after) <:+:
      lowerAfter [] (['Α'] ++ (before ++ 'Σ' :: after)) := by
  have plain : 'Σ' ∉ before := by
    rw [← List.mem_reverse]
    exact not_mem_sigma_of_firstCased? starts
  have inner : sigmaBetween (before.reverse ++ []) (after ++ []) = 'σ' := by
    simp [sigmaBetween, starts]
  have final : sigmaBetween (before.reverse ++ ['Α']) (after ++ []) = 'ς' := by
    simp [sigmaBetween, firstCased?_append, starts, stops, firstCased?_alpha]
  have first : lowerBetween [] (before ++ 'Σ' :: after) ['Α'] = ['α'] :=
    (lowerBetween_of_not_mem (by decide) _ _).trans (by decide +kernel)
  -- The longer text has one sigma less that is not final.
  apply not_infix_of_count_lt (c := 'σ')
  rw [lowerAfter_append, first, ← lowerBetween_nil, ← lowerBetween_nil, lowerBetween_split,
    lowerBetween_split]
  have around : (['Α'].reverse ++ [] : List Char) = ['Α'] := rfl
  rw [around, final, inner, lowerBetween_of_not_mem plain, lowerBetween_of_not_mem plain]
  simp only [List.count_append, List.count_cons_self, List.count_nil,
    List.count_cons_of_ne (show 'ς' ≠ 'σ' by decide), List.count_cons_of_ne (show 'α' ≠ 'σ' by decide)]
  omega

/-- A text that leaves one of its sigmas open has another lower-case form in some longer text. -/
theorem exists_not_infix_of_not_settled {cs : List Char} (h : ¬ Settled cs) :
    ∃ ds, cs <:+: ds ∧ ¬ lowerAfter [] cs <:+: lowerAfter [] ds := by
  simp only [Settled, not_forall, not_or, not_and] at h
  obtain ⟨before, after, rfl, notUncased, notCased, undecided⟩ := h
  cases left : firstCased? before.reverse with
  | none =>
    exact ⟨_, (List.suffix_append ['Α'] _).isInfix, not_infix_of_open_start left notCased⟩
  | some cased =>
    have word : firstCased? before.reverse = some true := by
      cases cased with
      | true => exact left
      | false => exact absurd left notUncased
    have ends : firstCased? after = none := by
      cases right : firstCased? after with
      | none => rfl
      | some cased =>
        cases cased with
        | true => exact absurd right notCased
        | false => exact absurd right (undecided word)
    exact ⟨_, (List.prefix_append _ ['Α']).isInfix, not_infix_of_open_end word ends⟩

/-- A text is found in lower case wherever it stands exactly if it decides for all its sigmas. -/
theorem settled_iff {cs : List Char} :
    Settled cs ↔ ∀ ds, cs <:+: ds → lowerAfter [] cs <:+: lowerAfter [] ds := by
  constructor
  · exact fun h ds => lower_infix_of_settled h
  · intro h
    by_contra open_
    obtain ⟨ds, inside, outside⟩ := exists_not_infix_of_not_settled open_
    exact outside (h ds inside)

end DevEnv.Text
