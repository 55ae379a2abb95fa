import DevEnv.Environment.Wire
import DevEnv.Proofs.Environment.Edit
import DevEnv.Workspace
import Mathlib.Data.List.Perm.Subperm

/-!
Validity of environments, wherever they come from, and of what edits make of them. Whether an edit
is admitted is written in the edit alone; a refused edit leaves the environment that there was.
-/

namespace DevEnv

set_option autoImplicit false

open Outcome Checked Reader

/-! ### The catalog -/

theorem Catalog.mem_systems_of_offersSystem {name version : String}
    (h : offersSystem name version = true) :
    ∃ s ∈ systems, s.name = name ∧ version ∈ s.versions := by
  unfold offersSystem system? at h
  split at h
  · rename_i s hs
    have hname := List.find?_some hs
    exact ⟨s, List.mem_of_find?_eq_some hs, beq_iff_eq.mp hname, List.contains_iff_mem.mp h⟩
  · cases h

theorem Catalog.mem_languages_of_offersLanguage {name version : String}
    (h : offersLanguage name version = true) :
    ∃ l ∈ languages, l.name = name ∧ version ∈ l.versions := by
  unfold offersLanguage language? at h
  split at h
  · rename_i l hl
    have hname := List.find?_some hl
    exact ⟨l, List.mem_of_find?_eq_some hl, beq_iff_eq.mp hname, List.contains_iff_mem.mp h⟩
  · cases h

namespace Environment

/-- What every environment has to be. -/
structure Valid (e : Environment) : Prop where
  system : ∃ s ∈ Catalog.systems, s.name = e.system.name ∧ e.system.version ∈ s.versions
  distinct : (e.languages.map Language.name).Nodup
  languages : ∀ l ∈ e.languages, ∃ c ∈ Catalog.languages, c.name = l.name ∧ l.version ∈ c.versions
  few : e.languages.length ≤ 3
  ssh : ∀ a, e.ssh = some a → a.enabled = true →
    1024 ≤ a.port ∧ a.port ≤ 65535 ∧ 6 ≤ a.password.length

theorem length_languages_le (e : Environment) : e.languages.length ≤ Catalog.languages.length := by
  have hsub : e.languages.map Language.name ⊆ Catalog.languages.map Catalog.Language.name := by
    intro name hname
    obtain ⟨l, -, rfl⟩ := List.mem_map.mp hname
    obtain ⟨c, hc, hname, -⟩ := Catalog.mem_languages_of_offersLanguage l.offered
    exact List.mem_map.mpr ⟨c, hc, hname⟩
  have hle := (List.subperm_of_subset e.distinct hsub).length_le
  rwa [List.length_map, List.length_map] at hle

theorem valid (e : Environment) : Valid e where
  system := Catalog.mem_systems_of_offersSystem e.system.offered
  distinct := e.distinct
  languages l _ := Catalog.mem_languages_of_offersLanguage l.offered
  few := e.length_languages_le
  ssh a _ henabled := a.usable henabled

end Environment

/-! ### Edits and what they are made with -/

/-- Whether an edit is admitted, by the edit alone. -/
def Edit.Admissible : Edit → Prop
  | .name v => v = .null ∨ ∃ s, v = .text s
  | .system n v =>
    ∃ name version, n = .text name ∧ v = .text version ∧ Catalog.offersSystem name version = true
  | .language n v =>
    ∃ name version, n = .text name ∧ v = .text version ∧ Catalog.offersLanguage name version = true
  | .removeLanguage _ => True
  | .ssh _ => True

namespace Environment

theorem mem_languagesBut {e : Environment} {name : Json} {l : Language} :
    l ∈ e.languagesBut name ↔ l ∈ e.languages ∧ .text l.name ≠ name := by
  rw [languagesBut, List.mem_filter, bne_iff_ne]

theorem distinct_languagesBut (e : Environment) (name : Json) :
    ((e.languagesBut name).map Language.name).Nodup :=
  e.distinct.sublist (List.filter_sublist.map _)

/-- A language can come after all others. -/
theorem distinct_languagesBut_append (e : Environment) (l : Language) :
    ((e.languagesBut (.text l.name) ++ [l]).map Language.name).Nodup := by
  rw [List.map_append, List.map_singleton, List.nodup_append]
  refine ⟨e.distinct_languagesBut _, List.pairwise_singleton _ _, ?_⟩
  intro name hname other hother heq
  obtain ⟨m, hm, rfl⟩ := List.mem_map.mp hname
  rw [List.mem_singleton.mp hother] at heq
  exact (mem_languagesBut.mp hm).2 (congrArg _ heq)

theorem exists_nullably_spells_iff {v : Json} :
    (∃ o, Nullably Spells v o) ↔ v = .null ∨ ∃ s, v = .text s := by
  constructor
  · rintro ⟨o, h⟩
    cases h with
    | null => exact .inl rfl
    | given _ hs => exact .inr ⟨_, hs⟩
  · rintro (rfl | ⟨s, rfl⟩)
    · exact ⟨none, .null⟩
    · exact ⟨some s, .given Json.noConfusion rfl⟩

theorem exists_apply_eq_ok_iff {e : Environment} {edit : Edit} :
    (∃ e', e.apply edit = .ok e') ↔ edit.Admissible := by
  simp only [apply_eq_ok_iff]
  cases edit with
  | name v =>
    refine Iff.trans ?_ exists_nullably_spells_iff
    constructor
    · rintro ⟨e', hname, -⟩
      exact ⟨e'.name, hname⟩
    · rintro ⟨o, hname⟩
      exact ⟨{ e with name := o }, hname, rfl, rfl, rfl⟩
  | system n v =>
    constructor
    · rintro ⟨e', -, ⟨hn, hv⟩, -⟩
      exact ⟨_, _, hn, hv, e'.system.offered⟩
    · rintro ⟨name, version, hn, hv, hoffered⟩
      exact ⟨{ e with system := ⟨name, version, hoffered⟩ }, rfl, ⟨hn, hv⟩, rfl, rfl⟩
  | language n v =>
    constructor
    · rintro ⟨e', -, -, ⟨l, ⟨hn, hv⟩, -⟩, -⟩
      exact ⟨_, _, hn, hv, l.offered⟩
    · rintro ⟨name, version, rfl, hv, hoffered⟩
      have hdistinct := e.distinct_languagesBut_append ⟨name, version, hoffered⟩
      exact ⟨⟨e.name, e.system, _, e.ssh, hdistinct⟩, rfl, rfl, ⟨_, ⟨rfl, hv⟩, rfl⟩, rfl⟩
  | removeLanguage n =>
    have hdistinct := e.distinct_languagesBut n
    exact iff_of_true ⟨⟨e.name, e.system, _, e.ssh, hdistinct⟩, rfl, rfl, rfl, rfl⟩ trivial
  | ssh access =>
    exact iff_of_true ⟨{ e with ssh := access }, rfl, rfl, rfl, rfl⟩ trivial

theorem explained_apply (e : Environment) (edit : Edit) : Explained (e.apply edit) :=
  explained_read _

/-- The environment after an edit, which is the one before it if the edit is refused. -/
def revised (e : Environment) (edit : Edit) : Environment :=
  match e.apply edit with
  | .ok e' => e'
  | .error _ => e

theorem revised_of_error {e : Environment} {edit : Edit} {issues : List Issue}
    (h : e.apply edit = .error issues) : e.revised edit = e := by
  rw [revised, h]

/-- Ways to come by an environment. -/
inductive Obtained : Environment → Prop
  | assumed : Obtained .default
  | described {v : Json} {e : Environment} : read v = .ok e → Obtained e
  | received {wire : Json} {e : Environment} : ofWire wire = .ok e → Obtained e
  | loaded {limit : Json.DigitLimit} {spoken : List Char} {f : StateFile} {p : Progress}
      {standIns : Text.StandIns} :
      f.loadWithin limit spoken = .progress p standIns → Obtained p.environment
  | revised {e : Environment} (edit : Edit) : Obtained e → Obtained (e.revised edit)

/-- Only valid environments are obtained, and all of them can be described. The edits that succeed
are the same for every environment. -/
theorem valid_of_obtained :
    (∀ e, Obtained e → Valid e) ∧
    (∀ v e, read v = .ok e ↔ DescribedBy v e) ∧
    ∀ (e : Environment) (edit : Edit),
      ((∃ e', e.apply edit = .ok e') ↔ edit.Admissible) ∧
      (∀ e', e.apply edit = .ok e' ↔ edit.Yields e e') ∧
      ∀ issues, e.apply edit = .error issues → issues ≠ [] ∧ e.revised edit = e := by
  refine ⟨fun e _ => e.valid, fun _ _ => read_eq_ok_iff, fun e edit => ?_⟩
  refine ⟨exists_apply_eq_ok_iff, fun _ => apply_eq_ok_iff, fun issues hrefused => ⟨?_, ?_⟩⟩
  · rintro rfl
    exact e.explained_apply edit hrefused
  · exact revised_of_error hrefused

/-- An environment with a language, whose name is then to become a number. -/
theorem valid_of_obtained_rust :
    let rust := default.revised (.language (.text "rust") (.text "stable"))
    let edit := Edit.name (.integer 1)
    Obtained rust ∧ Valid rust ∧ rust.languages.map Language.name = ["rust"] ∧
      rust.apply edit = .error [⟨[.field "name"], .notText⟩] ∧ rust.revised edit = rust := by
  intro rust edit
  have hobtained : Obtained rust := .revised _ .assumed
  have hrefused : rust.apply edit = .error [⟨[.field "name"], .notText⟩] := by decide
  obtain ⟨hvalid, -, hedits⟩ := valid_of_obtained
  exact ⟨hobtained, hvalid rust hobtained, by decide, hrefused,
    ((hedits rust edit).2.2 _ hrefused).2⟩

end Environment

end DevEnv
