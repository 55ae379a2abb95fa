import DevEnv.Container.Query
import DevEnv.Proofs.Text.Sigma

/-!
Which containers a query finds. A container that has the query in its name, image or id is found, unless
the shape of a capital sigma in the query depends on what stands around it there.
-/

namespace DevEnv

set_option autoImplicit false

theorem isInfix_iff {needle cs : List Char} : isInfix needle cs = true ↔ needle <:+: cs := by
  induction cs with
  | nil => rw [isInfix, List.isEmpty_iff, List.infix_nil]
  | cons c cs ih =>
    rw [isInfix, Bool.or_eq_true, List.isPrefixOf_iff_prefix, ih, List.infix_cons_iff]

theorem occursIn_lower_iff {query text : String} :
    occursIn (Text.lower query) (Text.lower text) = true ↔
      Text.lowerAfter [] query.toList <:+: Text.lowerAfter [] text.toList := by
  unfold occursIn Text.lower
  rw [isInfix_iff, String.toList_ofList, String.toList_ofList]

namespace Container

variable {query : String} {c : Container} {cs : List Container}

/-- The query stands in the name, the image or the id as it is. -/
def Mentions (query : String) (c : Container) : Prop :=
  query.toList <:+: c.name.toList ∨ query.toList <:+: c.image.toList ∨ query.toList <:+: c.id.toList

theorem answers_iff : answers query c = true ↔ query = "" ∨
    ∃ text ∈ [c.name, c.image, c.id],
      Text.lowerAfter [] query.toList <:+: Text.lowerAfter [] text.toList := by
  simp only [answers, Bool.or_eq_true, String.isEmpty_iff, occursIn_lower_iff, List.mem_cons,
    List.not_mem_nil, or_false, exists_eq_or_imp, exists_eq_left, or_assoc]

theorem answers_of_mentions (settled : Text.Settled query.toList) (h : Mentions query c) :
    answers query c = true := by
  rw [answers_iff]
  right
  rcases h with name | image | id
  · exact ⟨c.name, by simp, Text.lower_infix_of_settled settled name⟩
  · exact ⟨c.image, by simp, Text.lower_infix_of_settled settled image⟩
  · exact ⟨c.id, by simp, Text.lower_infix_of_settled settled id⟩

/-- A container whose name, image and id are this text. -/
def called (text : String) : Container := ⟨text, text, text, .running, "", 0, [], [], []⟩

theorem answers_called_iff {text : String} : answers query (called text) = true ↔
    query = "" ∨ Text.lowerAfter [] query.toList <:+: Text.lowerAfter [] text.toList := by
  simp [answers_iff, called]

/-- A query finds all containers that mention it exactly if its characters decide for each of its
capital sigmas. Queries without any do. -/
theorem mentions_found_iff (query : String) :
    ((∀ cs : List Container, ∀ c ∈ cs, Mentions query c → c ∈ search query cs) ↔
      Text.Settled query.toList) ∧ ('Σ' ∉ query.toList → Text.Settled query.toList) := by
  refine ⟨⟨fun finds => ?_, fun settled cs c hc mentions => ?_⟩, Text.settled_of_not_mem⟩
  · rw [Text.settled_iff]
    intro cs inside
    have mentions : Mentions query (called (String.ofList cs)) := by
      left
      rwa [called, String.toList_ofList]
    have found := finds [called (String.ofList cs)] _ List.mem_cons_self mentions
    have answers := (List.mem_filter.mp found).2
    rw [answers_called_iff, String.toList_ofList] at answers
    rcases answers with rfl | inside
    · exact List.nil_infix
    · exact inside
  · exact List.mem_filter.mpr ⟨hc, answers_of_mentions settled mentions⟩

/-- A query may end in a sigma inside a word of the name. -/
theorem mentions_not_found : ¬ ∀ (cs : List Container) (query : String), ∀ c ∈ cs,
    Mentions query c → c ∈ search query cs := by
  intro claim
  have mentions : Mentions "ΑΣ" (called "ΑΣΒ") := .inl ⟨[], ['Β'], rfl⟩
  have found := claim [called "ΑΣΒ"] "ΑΣ" _ List.mem_cons_self mentions
  have missed : search "ΑΣ" [called "ΑΣΒ"] = [] := by decide +kernel
  rw [missed] at found
  cases found

end Container

end DevEnv
