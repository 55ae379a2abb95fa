import DevEnv.Dockerfile.Generation
import DevEnv.Proofs.Dockerfile.Compiled

/-!
What the assembly makes of a draft that no rule has been applied to. It has a result exactly if the
names in the draft can be looked up and open access has texts where texts are needed, and then every
part of the draft contributes lines of its own.
-/

namespace DevEnv

set_option autoImplicit false

open Outcome Dockerfile

def Json.text? : Json → Option String
  | .text s => some s
  | _ => none

theorem Json.lookedUp_eq (v : Json) :
    v.lookedUp = if v.isKey = true then .ok v.text? else .error (.noKey v.typeName) := by
  cases v <;> rfl

namespace Draft

namespace Choice

def system? (c : Choice) : Option Catalog.System := c.name.text?.bind Catalog.system?

/-- The recipe for a language, if there is one for systems of the family. -/
def recipe? (family : Family) (c : Choice) : Option Recipe :=
  c.name.text?.bind fun s => Cookbook.standard.languages.lookup (s, family)

def image (c : Choice) : String :=
  match c.system? with
  | some s => s.name ++ ":" ++ c.version.display
  | none => fallbackImage

/-- The family of a system; the fallback is of the first one. -/
def family (c : Choice) : Family :=
  match c.system? with
  | some s => s.family
  | none => .debian

def unknown (c : Choice) : List Dropped := if c.system?.isSome then [] else [.system c.name]

def block (family : Family) (c : Choice) : List Dropped × List String :=
  match c.recipe? family with
  | some recipe =>
    ([], ("# Install " ++ c.name.display ++ " " ++ c.version.display) ::
      recipe c.version.display ++ [""])
  | none => ([.language c.name], [])

theorem baseImage_eq (c : Choice) :
    baseImage c = if c.name.isKey = true then .ok (c.unknown, c.image, c.family)
      else .error (.noKey c.name.typeName) := by
  unfold baseImage unknown image family system?
  rw [Json.lookedUp_eq]
  split
  · change (match c.name.text?.bind Catalog.system? with | some s => _ | none => _) = _
    cases c.name.text?.bind Catalog.system? <;> rfl
  · rfl

theorem languageBlock_eq (family : Family) (c : Choice) :
    languageBlock family c =
      if c.name.isKey = true then .ok (c.block family) else .error (.noKey c.name.typeName) := by
  obtain ⟨name, version⟩ := c
  cases name with
  | text s =>
    have found : (⟨.text s, version⟩ : Choice).recipe? family =
        Cookbook.standard.languages.lookup (s, family) := rfl
    have looked : (some s).bind (fun s =>
          (Cookbook.standard.languages.lookup (s, family)).map fun r => (s, r)) =
        (Cookbook.standard.languages.lookup (s, family)).map fun r => (s, r) := rfl
    simp only [languageBlock, Json.lookedUp, block, found, bind, Except.bind, looked]
    cases Cookbook.standard.languages.lookup (s, family) <;> rfl
  | _ => rfl

end Choice

def family (d : Draft) : Family := d.system.family

def blocks (d : Draft) : List String := d.languages.flatMap fun l => (l.block d.family).2

theorem flatMap_block (d : Draft) :
    (d.languages.map (Choice.block d.family)).flatMap (·.2) = d.blocks := List.flatMap_map ..

def opening (d : Draft) : List String := ["FROM " ++ d.system.image, "", "WORKDIR /app", ""]

/-- All names of the draft can be looked up. -/
structure Keyed (d : Draft) : Prop where
  system : d.system.name.isKey = true
  languages : ∀ l ∈ d.languages, l.name.isKey = true

theorem mapM_languageBlock_eq_ok_iff {family : Family} {ls : List Choice}
    {bs : List (List Dropped × List String)} :
    ls.mapM (languageBlock family) = .ok bs ↔
      (∀ l ∈ ls, l.name.isKey = true) ∧ ls.map (Choice.block family) = bs := by
  apply mapM_eq_ok_iff
  intro l b
  rw [Choice.languageBlock_eq, ite_eq_ok_iff]

theorem assemble_eq_ok_iff {d : Draft} {file : Dockerfile} :
    d.assemble = .ok file ↔ d.Keyed ∧ ∃ access, accessLines d.family d.ssh = .ok access ∧
      file = ⟨d.opening ++ d.blocks ++ access⟩ := by
  unfold assemble
  rw [bind_eq_ok_iff]
  constructor
  · rintro ⟨base, found, h⟩
    obtain ⟨parts, each, h⟩ := bind_eq_ok_iff.mp h
    obtain ⟨access, granted, h⟩ := bind_eq_ok_iff.mp h
    obtain rfl := Except.ok.inj h
    rw [Choice.baseImage_eq, ite_eq_ok_iff] at found
    obtain ⟨key, rfl⟩ := found
    obtain ⟨keys, rfl⟩ := mapM_languageBlock_eq_ok_iff.mp each
    refine ⟨⟨key, keys⟩, access, granted, ?_⟩
    rw [← d.flatMap_block]
    rfl
  · rintro ⟨keyed, access, granted, rfl⟩
    have found : baseImage d.system = .ok (d.system.unknown, d.system.image, d.family) := by
      rw [Choice.baseImage_eq, if_pos keyed.system]
      rfl
    have each : d.languages.mapM (languageBlock d.family) =
        .ok (d.languages.map (Choice.block d.family)) :=
      mapM_languageBlock_eq_ok_iff.mpr ⟨keyed.languages, rfl⟩
    refine ⟨_, found, bind_eq_ok_iff.mpr ⟨_, each, bind_eq_ok_iff.mpr ⟨access, granted, ?_⟩⟩⟩
    rw [← d.flatMap_block]
    rfl

end Draft

/-! ### Access -/

namespace Dockerfile

theorem joinedText_eq_ok_iff {v : Json} {s : String} : v.joinedText = .ok s ↔ v = .text s := by
  cases v <;> simp [Json.joinedText]

theorem exists_keyLines_iff {key : Json} :
    (∃ lines, keyLines key = .ok lines) ↔ (key.isTruthy = true → ∃ k, key = .text k) := by
  constructor
  · rintro ⟨lines, h⟩ truthy
    rw [keyLines, if_pos truthy, map_eq_ok_iff] at h
    obtain ⟨k, text, -⟩ := h
    cases key with
    | text s => exact ⟨s, rfl⟩
    | _ => cases text
  · intro h
    by_cases truthy : key.isTruthy = true
    · obtain ⟨k, rfl⟩ := h truthy
      rw [keyLines, if_pos truthy]
      exact ⟨_, rfl⟩
    · rw [keyLines, if_neg truthy]
      exact ⟨[], rfl⟩

theorem sshBlock_eq_ok_iff {family : Family} {a : Draft.Ssh} {lines : List String} :
    sshBlock family a = .ok lines ↔
      ∃ password key, a.password = .text password ∧ keyLines a.publicKey = .ok key ∧
        lines = "# Install and configure SSH server" :: serverLines family password ++ key ++
          ["", "EXPOSE " ++ a.port.display, ""] := by
  unfold sshBlock
  rw [bind_eq_ok_iff]
  constructor
  · rintro ⟨password, text, h⟩
    obtain ⟨key, authorised, h⟩ := bind_eq_ok_iff.mp h
    obtain rfl := Except.ok.inj h
    refine ⟨password, key, joinedText_eq_ok_iff.mp text, authorised, ?_⟩
    rw [← sshRecipe_eq]
  · rintro ⟨password, key, text, authorised, rfl⟩
    refine ⟨password, joinedText_eq_ok_iff.mpr text, bind_eq_ok_iff.mpr ⟨key, authorised, ?_⟩⟩
    rw [← sshRecipe_eq]
    rfl

end Dockerfile

end DevEnv
