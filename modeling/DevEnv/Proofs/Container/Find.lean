import DevEnv.Container.Query

/-!
Which container is found by an id or a name. Containers are tried in their order, and the beginning of
an id counts as much as the whole of it or a name. So what is found bears the text, unless a container
whose id merely begins with it stands in front of all that do.
-/

namespace DevEnv.Container

set_option autoImplicit false

variable {text : String} {c r : Container} {cs : List Container}

/-- The text is the id or the name. -/
def Bears (text : String) (c : Container) : Prop := c.id = text ∨ c.name = text

/-- The text is neither, but the id begins with it. -/
def MerelyBegins (text : String) (c : Container) : Prop :=
  text.toList <+: c.id.toList ∧ ¬ Bears text c

theorem isMeantBy_iff : isMeantBy text c = true ↔ Bears text c ∨ MerelyBegins text c := by
  rw [isMeantBy, Bool.or_eq_true, List.isPrefixOf_iff_prefix, beq_iff_eq]
  constructor
  · rintro (begins | named)
    · by_cases bears : Bears text c
      · exact .inl bears
      · exact .inr ⟨begins, bears⟩
    · exact .inl (.inr named)
  · rintro ((rfl | named) | ⟨begins, -⟩)
    · exact .inl (List.prefix_refl _)
    · exact .inr named
    · exact .inl begins

/-- Something is found if a container bears the text, and it is the first that can be meant. -/
theorem find?_of_mem (member : r ∈ cs) (own : Bears text r) : ∃ before c after,
    cs = before ++ c :: after ∧ find? text cs = some c ∧ (Bears text c ∨ MerelyBegins text c) ∧
      ∀ b ∈ before, ¬ Bears text b ∧ ¬ MerelyBegins text b := by
  cases found : find? text cs with
  | none =>
    have none := List.find?_eq_none.mp found r member
    exact absurd (isMeantBy_iff.mpr (.inl own)) none
  | some c =>
    obtain ⟨meant, before, after, split, passed⟩ := List.find?_eq_some_iff_append.mp found
    refine ⟨before, c, after, split, rfl, isMeantBy_iff.mp meant, ?_⟩
    intro b hb
    have notMeant : ¬ isMeantBy text b = true := by simpa using passed b hb
    exact not_or.mp (mt isMeantBy_iff.mpr notMeant)

/-- Two ways to split a list: the place of one comes in front of the other, or is the same. -/
theorem mem_or_eq_of_split {before after before' after' : List Container} {c e : Container}
    (split : before ++ c :: after = before' ++ e :: after') :
    c ∈ before' ∨ c = e ∨ e ∈ before := by
  rcases List.append_eq_append_iff.mp split with ⟨rest, rfl, tail⟩ | ⟨rest, rfl, tail⟩
  · cases rest with
    | nil =>
      rw [List.nil_append] at tail
      exact .inr (.inl (List.cons.inj tail).1)
    | cons d rest =>
      obtain ⟨rfl, -⟩ := List.cons.inj tail
      exact .inl (List.mem_append_right _ List.mem_cons_self)
  · cases rest with
    | nil =>
      rw [List.nil_append] at tail
      exact .inr (.inl (List.cons.inj tail).1.symm)
    | cons d rest =>
      obtain ⟨rfl, -⟩ := List.cons.inj tail
      exact .inr (.inr (List.mem_append_right _ List.mem_cons_self))

/-- By the id or the name of a container the first container is found whose id begins with the text
or whose name it is. That one bears the text exactly if some container does in front of which no id
merely begins with it. -/
theorem found_in_order (member : r ∈ cs) (own : Bears text r) : ∃ before c after,
    cs = before ++ c :: after ∧ find? text cs = some c ∧ (Bears text c ∨ MerelyBegins text c) ∧
      (∀ b ∈ before, ¬ Bears text b ∧ ¬ MerelyBegins text b) ∧
      (Bears text c ↔ ∃ before' e after', cs = before' ++ e :: after' ∧ Bears text e ∧
        ∀ b ∈ before', ¬ MerelyBegins text b) := by
  obtain ⟨before, c, after, split, found, meant, passed⟩ := find?_of_mem member own
  refine ⟨before, c, after, split, found, meant, passed, ?_⟩
  constructor
  · intro bears
    exact ⟨before, c, after, split, bears, fun b hb => (passed b hb).2⟩
  · rintro ⟨before', e, after', split', bears, clear⟩
    rcases mem_or_eq_of_split (split.symm.trans split') with earlier | rfl | later
    · exact meant.resolve_right (clear c earlier)
    · exact bears
    · exact absurd bears (passed e later).1

/-- A container whose id begins with the name of the next one. -/
def shadowing : Container :=
  ⟨"beef0123456789", "database", "redis:alpine", .running, "", 0, [], [], []⟩

def shadowed : Container :=
  ⟨"0123456789beef", "beef", "web:latest", .running, "", 0, [], [], []⟩

theorem find?_shadowed : find? "beef" [shadowing, shadowed] = some shadowing := by decide

theorem merelyBegins_shadowing : MerelyBegins "beef" shadowing := by
  refine ⟨by decide, ?_⟩
  rintro (id | name)
  · exact absurd id (by decide)
  · exact absurd name (by decide)

theorem found_in_order_shadowed : shadowed ∈ [shadowing, shadowed] ∧ Bears "beef" shadowed ∧
    ∃ before c after, [shadowing, shadowed] = before ++ c :: after ∧
      find? "beef" [shadowing, shadowed] = some c ∧ MerelyBegins "beef" c := by
  have member : shadowed ∈ [shadowing, shadowed] := .tail _ (.head _)
  have own : Bears "beef" shadowed := .inr rfl
  obtain ⟨before, c, after, split, found, -⟩ := found_in_order member own
  have first := Option.some.inj (found.symm.trans find?_shadowed)
  exact ⟨member, own, before, c, after, split, found, first ▸ merelyBegins_shadowing⟩

/-- What is found by the id or name of a container does not always bear it. -/
theorem not_found_exactly : ¬ ∀ cs : List Container, ∀ r ∈ cs,
    (∃ c, find? r.id cs = some c ∧ Bears r.id c) ∧
      (r.name ≠ "" → ∃ c, find? r.name cs = some c ∧ Bears r.name c) := by
  intro claim
  have member : shadowed ∈ [shadowing, shadowed] := .tail _ (.head _)
  obtain ⟨c, found, bears⟩ := (claim _ shadowed member).2 (by decide)
  obtain rfl := Option.some.inj (found.symm.trans find?_shadowed)
  exact merelyBegins_shadowing.2 bears

end DevEnv.Container
