import DevEnv.Proofs.Dockerfile.Drafts
import Mathlib.Data.List.Basic

/-!
What the assembly drops. An unknown system gives way to the fallback, languages without a recipe are
left out, each of them is reported once and in order, and that is all: the draft without them has the
same build file and nothing to report.
-/

namespace DevEnv

set_option autoImplicit false

open Outcome Dockerfile

namespace Draft

def installs (d : Draft) (l : Choice) : Bool := (l.recipe? d.family).isSome

/-- The draft with what is supported only. -/
def supported (d : Draft) : Draft :=
  { d with
    system := if d.system.system?.isSome then d.system else ⟨.text "ubuntu", .text "22.04"⟩
    languages := d.languages.filter d.installs }

def reports (d : Draft) : List String :=
  (if d.system.system?.isSome then []
    else ["Unknown OS type '" ++ d.system.name.display ++ "', falling back to ubuntu:22.04"]) ++
  (d.languages.filter fun l => !d.installs l).map fun l =>
    "No installer for language '" ++ l.name.display ++ "', skipping"

theorem block_of_installed {family : Family} {c : Choice} (h : (c.recipe? family).isSome = true) :
    (c.block family).1 = [] := by
  obtain ⟨recipe, found⟩ := Option.isSome_iff_exists.mp h
  rw [Choice.block, found]

theorem block_of_not_installed {family : Family} {c : Choice}
    (h : (c.recipe? family).isSome = false) : c.block family = ([.language c.name], []) := by
  have none : c.recipe? family = none := by simpa using h
  rw [Choice.block, none]

/-- What contributes nothing can be left out. -/
theorem flatMap_filter {α β : Type} {p : α → Bool} {f : α → List β}
    (h : ∀ a, p a = false → f a = []) (as : List α) : (as.filter p).flatMap f = as.flatMap f := by
  induction as with
  | nil => rfl
  | cons a as ih =>
    cases kept : p a with
    | true => rw [List.filter_cons_of_pos kept, List.flatMap_cons, List.flatMap_cons, ih]
    | false =>
      rw [List.filter_cons_of_neg (by simp [kept]), List.flatMap_cons, h a kept, ih,
        List.nil_append]

/-! ### The lines of the supported part -/

theorem supported_system (d : Draft) : d.supported.system.system?.isSome = true ∧
    d.supported.system.image = d.system.image ∧ d.supported.family = d.family := by
  cases known : d.system.system?.isSome with
  | true =>
    have same : d.supported.system = d.system := if_pos known
    rw [family, same]
    exact ⟨known, rfl, rfl⟩
  | false =>
    have fallback : d.supported.system = ⟨.text "ubuntu", .text "22.04"⟩ := if_neg (by simp [known])
    have none : d.system.system? = none := by simpa using known
    rw [family, family, fallback, Choice.image, Choice.image, Choice.family, Choice.family, none]
    exact ⟨rfl, rfl, rfl⟩

theorem supported_family (d : Draft) : d.supported.family = d.family := d.supported_system.2.2

theorem supported_opening (d : Draft) : d.supported.opening = d.opening := by
  rw [opening, d.supported_system.2.1, opening]

theorem supported_blocks (d : Draft) : d.supported.blocks = d.blocks := by
  rw [blocks, supported_family, blocks]
  apply flatMap_filter
  intro l unsupported
  rw [block_of_not_installed unsupported]

theorem Keyed.supported {d : Draft} (h : d.Keyed) : d.supported.Keyed where
  system := by
    cases known : d.system.system?.isSome with
    | true => simpa [Draft.supported, known] using h.system
    | false => simp [Draft.supported, known, Json.isKey]
  languages l hl := h.languages l (List.mem_filter.mp hl).1

/-! ### Reports -/

theorem droppedLanguages_eq {family : Family} {ls : List Choice}
    (h : ∀ l ∈ ls, l.name.isKey = true) :
    droppedLanguages family ls = ls.flatMap fun l => (l.block family).1 := by
  induction ls with
  | nil => rfl
  | cons l ls ih =>
    obtain ⟨key, keys⟩ := List.forall_mem_cons.mp h
    rw [droppedLanguages, Choice.languageBlock_eq, if_pos key, List.flatMap_cons, ← ih keys]

theorem flatMap_dropped (d : Draft) :
    (d.languages.flatMap fun l => (l.block d.family).1) =
      (d.languages.filter fun l => !d.installs l).map fun l => .language l.name := by
  rw [← flatMap_filter (p := fun l => !d.installs l), List.map_eq_flatMap]
  · apply List.flatMap_congr
    intro l hl
    have unsupported : d.installs l = false := by simpa using (List.mem_filter.mp hl).2
    rw [block_of_not_installed unsupported]
  · intro l supported
    have installed : d.installs l = true := by simpa using supported
    exact block_of_installed installed

theorem dropped_eq {d : Draft} (h : d.Keyed) :
    d.dropped = d.system.unknown ++
      (d.languages.filter fun l => !d.installs l).map fun l => .language l.name := by
  rw [dropped, Choice.baseImage_eq, if_pos h.system, ← flatMap_dropped,
    ← droppedLanguages_eq h.languages]
  rfl

theorem message_unknown (c : Choice) :
    c.unknown.map Dropped.message = if c.system?.isSome then [] else
      ["Unknown OS type '" ++ c.name.display ++ "', falling back to ubuntu:22.04"] := by
  have ending : "', falling back to ubuntu:22.04" = "', falling back to " ++ fallbackImage := rfl
  rw [Choice.unknown, ending, ← String.append_assoc]
  split <;> rfl

theorem warnings_eq {d : Draft} (h : d.Keyed) : d.warnings = d.reports.map (⟨.warning, ·⟩) := by
  have messages : d.dropped.map Dropped.message = d.reports := by
    rw [dropped_eq h, List.map_append, message_unknown, List.map_map]
    rfl
  rw [← messages, List.map_map]
  rfl

theorem reports_supported (d : Draft) : d.supported.reports = [] := by
  have kept : d.supported.languages.filter (fun l => !d.supported.installs l) = [] := by
    apply List.filter_eq_nil_iff.mpr
    intro l hl
    have installed : d.supported.installs l = true := by
      rw [installs, supported_family]
      exact (List.mem_filter.mp hl).2
    rw [installed]
    exact Bool.false_ne_true
  rw [reports, if_pos d.supported_system.1, kept]
  rfl

/-! ### Success and failure -/

/-- Open access has texts where the build file quotes texts. -/
structure Ssh.Quotable (a : Ssh) : Prop where
  password : ∃ p, a.password = .text p
  key : a.publicKey.isTruthy = true → ∃ k, a.publicKey = .text k

theorem exists_accessLines_iff (family : Family) {ssh : Option Ssh} :
    (∃ lines, accessLines family ssh = .ok lines) ↔
      ∀ a, ssh = some a → a.enabled = true → a.Quotable := by
  cases ssh with
  | none => exact iff_of_true ⟨_, rfl⟩ nofun
  | some a =>
    rw [accessLines]
    split
    · rename_i enabled
      simp only [map_eq_ok_iff, sshBlock_eq_ok_iff]
      constructor
      · rintro ⟨_, _, ⟨p, key, text, authorised, -⟩, -⟩ b same -
        obtain rfl := Option.some.inj same
        exact ⟨⟨p, text⟩, exists_keyLines_iff.mp ⟨key, authorised⟩⟩
      · intro h
        obtain ⟨⟨p, text⟩, quotable⟩ := h a rfl enabled
        obtain ⟨key, authorised⟩ := exists_keyLines_iff.mpr quotable
        exact ⟨_, _, ⟨p, key, text, authorised, rfl⟩, rfl⟩
    · rename_i off
      refine iff_of_true ⟨_, rfl⟩ ?_
      intro b same enabled
      obtain rfl := Option.some.inj same
      exact absurd enabled off

/-- Exactly the drafts with usable names and quotable access have a build file. -/
theorem exists_assemble_iff {d : Draft} :
    (∃ file, d.assemble = .ok file) ↔
      d.Keyed ∧ ∀ a, d.ssh = some a → a.enabled = true → a.Quotable := by
  simp only [assemble_eq_ok_iff, ← exists_accessLines_iff d.family]
  constructor
  · rintro ⟨file, keyed, access, granted, -⟩
    exact ⟨keyed, access, granted⟩
  · rintro ⟨keyed, access, granted⟩
    exact ⟨_, keyed, access, granted, rfl⟩

theorem assemble_supported {d : Draft} {file : Dockerfile} (h : d.assemble = .ok file) :
    d.supported.assemble = .ok file := by
  obtain ⟨keyed, access, granted, rfl⟩ := assemble_eq_ok_iff.mp h
  refine assemble_eq_ok_iff.mpr ⟨keyed.supported, access, ?_, ?_⟩
  · rw [supported_family]
    exact granted
  · rw [supported_opening, supported_blocks]

theorem getLast?_accessLines {family : Family} {ssh : Option Ssh} {lines : List String}
    (h : accessLines family ssh = .ok lines) :
    lines.getLast? = some (if ssh.any Ssh.enabled then sshdCommand else shellCommand) := by
  cases ssh with
  | none =>
    rw [← Except.ok.inj h]
    rfl
  | some a =>
    rw [accessLines] at h
    split at h
    · rename_i enabled
      obtain ⟨block, -, rfl⟩ := map_eq_ok_iff.mp h
      simp [enabled]
    · rename_i off
      rw [← Except.ok.inj h]
      simp [off]

theorem getLast?_assemble {d : Draft} {file : Dockerfile} (h : d.assemble = .ok file) :
    file.lines.getLast? = some (if d.sshEnabled then sshdCommand else shellCommand) := by
  obtain ⟨-, access, granted, rfl⟩ := assemble_eq_ok_iff.mp h
  rw [List.getLast?_append, getLast?_accessLines granted, Option.some_or, sshEnabled]
  cases d.ssh <;> rfl

/-! ### Drafts of texts -/

/-- The value is a text, or null where there is none. -/
def Textual (v : Json) : Prop := v = .null ∨ ∃ s, v = .text s

/-- Where a text is expected in the draft, there is a text or nothing. -/
structure OfTexts (d : Draft) : Prop where
  system : Textual d.system.name ∧ Textual d.system.version
  languages : ∀ l ∈ d.languages, Textual l.name ∧ Textual l.version
  ssh : ∀ a, d.ssh = some a → Textual a.password ∧ Textual a.publicKey

theorem Textual.isKey {v : Json} (h : Textual v) : v.isKey = true := by
  rcases h with rfl | ⟨s, rfl⟩ <;> rfl

theorem OfTexts.keyed {d : Draft} (h : d.OfTexts) : d.Keyed where
  system := h.system.1.isKey
  languages l hl := (h.languages l hl).1.isKey

theorem quotable_iff {a : Ssh} (password : Textual a.password) (key : Textual a.publicKey) :
    a.Quotable ↔ a.password ≠ .null := by
  constructor
  · rintro ⟨⟨p, text⟩, -⟩ missing
    rw [missing] at text
    cases text
  · intro given
    refine ⟨password.resolve_left given, fun truthy => ?_⟩
    rcases key with missing | text
    · rw [missing] at truthy
      cases truthy
    · exact text

/-- Among such drafts the assembly fails on those with open access and no password. -/
theorem assemble_eq_error_iff {d : Draft} (h : d.OfTexts) :
    (∃ m, d.assemble = .error m) ↔
      ∃ a, d.ssh = some a ∧ a.enabled = true ∧ a.password = .null := by
  have fails : (∃ m, d.assemble = .error m) ↔ ¬ ∃ file, d.assemble = .ok file := by
    cases d.assemble <;> simp
  rw [fails, exists_assemble_iff]
  constructor
  · intro none
    by_contra given
    refine none ⟨h.keyed, fun a here enabled => ?_⟩
    obtain ⟨password, key⟩ := h.ssh a here
    apply (quotable_iff password key).mpr
    intro missing
    exact given ⟨a, here, enabled, missing⟩
  · rintro ⟨a, here, enabled, missing⟩ ⟨-, quotable⟩
    obtain ⟨p, text⟩ := (quotable a here enabled).password
    rw [missing] at text
    cases text

/-- The build file and the reports are those of a draft that lost what is not supported. -/
structure Reduced (d : Draft) (file : Dockerfile) : Prop where
  supported : d.supported.assemble = .ok file
  quiet : d.supported.warnings = []
  reported : d.warnings = d.reports.map (⟨.warning, ·⟩)
  command : file.lines.getLast? = some (if d.sshEnabled then sshdCommand else shellCommand)

theorem reduced {d : Draft} {file : Dockerfile} (h : d.assemble = .ok file) : d.Reduced file where
  supported := assemble_supported h
  quiet := by
    have keyed := (assemble_eq_ok_iff.mp h).1
    rw [warnings_eq keyed.supported, reports_supported]
    rfl
  reported := warnings_eq (assemble_eq_ok_iff.mp h).1
  command := getLast?_assemble h

end Draft

namespace Environment

open Draft

theorem installs_toDraft (e : Environment) : ∀ l ∈ e.toDraft.languages, e.toDraft.installs l = true := by
  intro l hl
  obtain ⟨language, -, rfl⟩ := List.mem_map.mp hl
  exact Option.isSome_iff_exists.mpr (recipe_of_language e.toDraft.family language)

theorem supported_toDraft (e : Environment) : e.toDraft.supported = e.toDraft := by
  obtain ⟨system, found, -⟩ := system?_of_base e.system
  have known : e.toDraft.system.system?.isSome = true := Option.isSome_iff_exists.mpr ⟨system, found⟩
  rw [supported, if_pos known, List.filter_eq_self.mpr e.installs_toDraft]

theorem keyed_toDraft (e : Environment) : e.toDraft.Keyed := by
  obtain ⟨keyed, -⟩ := assemble_eq_ok_iff.mp e.assemble_toDraft
  exact keyed

end Environment

/-- What is not supported is dropped and reported, and nothing else is; a draft of texts has no build
file exactly if it opens access without a password, and valid environments lose nothing. -/
theorem Draft.unsupported_dropped :
    (∀ (d : Draft) (file : Dockerfile), d.assemble = .ok file → d.Reduced file) ∧
    (∀ d : Draft, d.OfTexts → ((∃ m, d.assemble = .error m) ↔
      ∃ a, d.ssh = some a ∧ a.enabled = true ∧ a.password = .null)) ∧
    ∀ e : Environment, (∃ file, e.toDraft.assemble = .ok file) ∧
      e.toDraft.supported = e.toDraft ∧ e.toDraft.warnings = [] := by
  refine ⟨fun d file h => reduced h, fun d h => assemble_eq_error_iff h, fun e => ?_⟩
  refine ⟨⟨_, e.assemble_toDraft⟩, e.supported_toDraft, ?_⟩
  rw [warnings_eq e.keyed_toDraft, ← e.supported_toDraft, reports_supported]
  rfl

def strangeDraft : Draft where
  name := .null
  system := ⟨.text "plan9", .null⟩
  languages := [⟨.text "cobol", .text "85"⟩, ⟨.text "rust", .null⟩, ⟨.null, .null⟩,
    ⟨.text "rust", .text "nightly"⟩]
  ssh := some ⟨true, .integer 22, .text "pw", .null⟩

theorem Draft.unsupported_dropped_strange :
    strangeDraft.OfTexts ∧ (∃ file, strangeDraft.assemble = .ok file ∧
      strangeDraft.Reduced file) ∧ strangeDraft.warnings = [
        ⟨.warning, "Unknown OS type 'plan9', falling back to ubuntu:22.04"⟩,
        ⟨.warning, "No installer for language 'cobol', skipping"⟩,
        ⟨.warning, "No installer for language 'None', skipping"⟩] := by
  have text : ∀ s, Textual (.text s) := fun s => .inr ⟨s, rfl⟩
  have null : Textual .null := .inl rfl
  have written : strangeDraft.OfTexts := by
    refine ⟨⟨text _, null⟩, ?_, ?_⟩
    · change ∀ l ∈ [_, _, _, _], _
      simp only [List.forall_mem_cons]
      exact ⟨⟨text _, text _⟩, ⟨text _, null⟩, ⟨null, null⟩, ⟨text _, text _⟩, nofun⟩
    · rintro a here
      obtain rfl := Option.some.inj here
      exact ⟨text _, null⟩
  obtain ⟨reduces, failing, -⟩ := unsupported_dropped
  have succeeds : ∃ file, strangeDraft.assemble = .ok file := by
    cases result : strangeDraft.assemble with
    | ok file => exact ⟨file, rfl⟩
    | error m =>
      obtain ⟨a, here, -, missing⟩ := (failing strangeDraft written).mp ⟨m, result⟩
      obtain rfl := Option.some.inj here
      cases missing
  obtain ⟨file, assembled⟩ := succeeds
  have lost := reduces strangeDraft file assembled
  refine ⟨written, ⟨file, assembled, lost⟩, ?_⟩
  rw [lost.reported]
  decide

end DevEnv
