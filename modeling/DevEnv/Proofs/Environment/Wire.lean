import DevEnv.Environment.Wire
import DevEnv.Proofs.Environment.Reading

/-!
Which wire forms describe an environment. What a wire form leaves out has its usual meaning, but for
the system, which is no system without a name and a version.
-/

namespace DevEnv

set_option autoImplicit false

open Outcome Checked Reader

/-! ### What is filled in -/

section FilledIn
variable {α : Type} {R : Json → α → Prop} {default a : α}

/-- A value that stands for the default may be filled in where there is none. -/
theorem optionally_getD {filler : Json} (fills : ∀ a, R filler a ↔ a = default) (o : Option Json) :
    Optionally R default (some (o.getD filler)) a ↔ Optionally R default o a := by
  cases o with
  | some v => exact Iff.rfl
  | none =>
    constructor
    · rintro ⟨given⟩
      rw [(fills a).mp (by assumption)]
      exact .absent
    · intro h
      cases h
      exact .given ((fills default).mpr rfl)

theorem nullably_null (o : Option α) : Nullably R .null o ↔ o = none := by
  constructor
  · intro h
    cases h with
    | null => rfl
    | given other => exact absurd rfl other
  · rintro rfl
    exact .null

theorem lists_nil (as : List α) : Lists R (.list []) as ↔ as = [] := by
  constructor
  · rintro ⟨vs, h, each⟩
    rw [← Json.list.inj h] at each
    exact List.forall₂_nil_left_iff.mp each
  · rintro rfl
    exact ⟨[], rfl, .nil⟩

theorem getD_blank_eq_iff {o : Option Json} {s : String} (other : s ≠ "") :
    o.getD (.text "") = .text s ↔ o = some (.text s) := by
  cases o with
  | none => simp [other.symm]
  | some v => simp

end FilledIn

theorem BaseSystem.name_ne_blank (s : BaseSystem) : s.name ≠ "" := by
  intro blank
  have offered := s.offered
  rw [blank] at offered
  exact absurd offered Bool.false_ne_true

theorem BaseSystem.version_ne_blank (s : BaseSystem) : s.version ≠ "" := by
  intro blank
  have offered := s.offered
  rw [blank, Catalog.offersSystem] at offered
  have none_blank : ∀ system ∈ Catalog.systems, system.versions.contains "" = false := by decide
  split at offered
  · rename_i system found
    rw [none_blank system (List.mem_of_find?_eq_some found)] at offered
    cases offered
  · cases offered

/-! ### Wire forms -/

namespace Environment

/-- The fields describe this environment in the wire form. -/
structure WiredIn (fs : Fields) (e : Environment) : Prop where
  name : Optionally (Nullably Spells) none (fs.lookup "name") e.name
  system : ∃ v, fs.lookup "os" = some v ∧ Names "os_type" v e.system.name e.system.version
  languages : Optionally (Lists Language.DescribedBy) [] (fs.lookup "languages") e.languages
  ssh : Optionally (Nullably SshAccess.DescribedBy) none (fs.lookup "ssh") e.ssh

/-- The value is a wire form of this environment. -/
def WiredBy (w : Json) (e : Environment) : Prop := ∃ fs, w = .object fs ∧ WiredIn fs e

/-- The system of a stored form that was filled in. -/
theorem describedBy_system_iff {system : Json} {s : BaseSystem} :
    BaseSystem.DescribedBy (.object [
        ("type", (system.get? "os_type").getD (.text "")),
        ("version", (system.get? "version").getD (.text ""))]) s ↔
      system.get? "os_type" = some (.text s.name) ∧ system.get? "version" = some (.text s.version) := by
  rw [← getD_blank_eq_iff s.name_ne_blank, ← getD_blank_eq_iff s.version_ne_blank]
  constructor
  · rintro ⟨fs, h, hname, hversion⟩
    rw [← Json.object.inj h] at hname hversion
    exact ⟨Option.some.inj hname, Option.some.inj hversion⟩
  · rintro ⟨hname, hversion⟩
    exact ⟨_, rfl, congrArg some hname, congrArg some hversion⟩

theorem describedBy_storedForm_iff {fs : Fields} {system : Json} {e : Environment} :
    DescribedBy (storedForm (.object fs) system) e ↔
      Optionally (Nullably Spells) none (fs.lookup "name") e.name ∧
      (system.get? "os_type" = some (.text e.system.name) ∧
        system.get? "version" = some (.text e.system.version)) ∧
      Optionally (Lists Language.DescribedBy) [] (fs.lookup "languages") e.languages ∧
      Optionally (Nullably SshAccess.DescribedBy) none (fs.lookup "ssh") e.ssh := by
  rw [← optionally_getD nullably_null, ← optionally_getD lists_nil,
    ← optionally_getD (o := fs.lookup "ssh") nullably_null, ← describedBy_system_iff]
  constructor
  · rintro ⟨_, h, name, ⟨v, os, system⟩, languages, ssh⟩
    rw [← Json.object.inj h] at name os languages ssh
    exact ⟨name, Option.some.inj os ▸ system, languages, ssh⟩
  · rintro ⟨name, system, languages, ssh⟩
    exact ⟨_, rfl, name, ⟨_, rfl, system⟩, languages, ssh⟩

theorem ofWire_object_eq_ok_iff {fs : Fields} {e : Environment} :
    ofWire (.object fs) = .ok e ↔
      ∃ gs, (fs.lookup "os").getD (.object []) = .object gs ∧
        DescribedBy (storedForm (.object fs) (.object gs)) e := by
  simp only [ofWire, Json.get?, ← read_eq_ok_iff]
  cases (fs.lookup "os").getD (.object []) with
  | object gs => simp [mapError_eq_ok_iff]
  | _ => simp

/-- The system of a wire form cannot be left out. -/
theorem exists_system_iff {fs : Fields} {s : BaseSystem} :
    (∃ gs, (fs.lookup "os").getD (.object []) = .object gs ∧
        gs.lookup "os_type" = some (.text s.name) ∧
        gs.lookup "version" = some (.text s.version)) ↔
      ∃ v, fs.lookup "os" = some v ∧ Names "os_type" v s.name s.version := by
  cases os : fs.lookup "os" with
  | some v => simp [Names]
  | none =>
    constructor
    · rintro ⟨gs, empty, name, -⟩
      obtain rfl := Json.object.inj empty
      cases name
    · rintro ⟨v, absent, -⟩
      cases absent

/-- A wire form is accepted exactly if it describes an environment. -/
theorem ofWire_eq_ok_iff {w : Json} {e : Environment} : ofWire w = .ok e ↔ WiredBy w e := by
  cases w with
  | object fs =>
    simp only [ofWire_object_eq_ok_iff, describedBy_storedForm_iff, Json.get?]
    constructor
    · rintro ⟨gs, os, name, system, languages, ssh⟩
      exact ⟨fs, rfl, name, exists_system_iff.mp ⟨gs, os, system⟩, languages, ssh⟩
    · rintro ⟨_, h, wired⟩
      obtain rfl := Json.object.inj h
      obtain ⟨gs, os, system⟩ := exists_system_iff.mpr wired.system
      exact ⟨gs, os, wired.name, system, wired.languages, wired.ssh⟩
  | _ => simp [ofWire, WiredBy]

theorem wiredBy_toWire (e : Environment) : WiredBy e.toWire e := by
  refine ⟨_, rfl, .given (nullably_ofText? e.name), ⟨_, rfl, _, rfl, rfl, rfl⟩,
    .given (lists_toJson e.languages), ?_⟩
  cases e.ssh with
  | none => exact .absent
  | some a => exact .given (.given Json.noConfusion a.describedBy_toJson)

/-- An environment is read back from its wire form. -/
theorem ofWire_toWire (e : Environment) : ofWire e.toWire = .ok e :=
  ofWire_eq_ok_iff.mpr e.wiredBy_toWire

end Environment

end DevEnv
