import DevEnv.Dockerfile.Assembly
import DevEnv.Proofs.Outcome

/-!
The build file of a valid environment, written out. Its assembly never fails, since all that the
recipes need is there; what it quotes of the user are the password and the key of enabled access.
-/

namespace DevEnv

set_option autoImplicit false

/-- The key that is authorised: none for the empty text, else the key without blanks around it. -/
def SshAccess.effectiveKey? (a : SshAccess) : Option String :=
  match a.publicKey with
  | some key => if key = "" then none else some (Text.strip key)
  | none => none

/-- The access of the environment if it is switched on. -/
def Environment.activeSsh? (e : Environment) : Option SshAccess :=
  e.ssh.filter SshAccess.enabled

namespace Dockerfile

/-! ### Commands on lines -/

/-- A command that is neither the first nor the last of its instruction. -/
def innerLine (command : String) : String := "    " ++ command ++ " && \\"

theorem runLines_go (line last : String) (inner : List String) :
    runLines.go line (inner ++ [last]) =
      (line ++ " && \\") :: inner.map innerLine ++ ["    " ++ last] := by
  induction inner generalizing line with
  | nil => rfl
  | cons command inner ih =>
    rw [List.cons_append, runLines.go, ih]
    rfl

/-- An instruction of at least two commands. -/
theorem runLines_eq (first last : String) (inner : List String) :
    runLines (first :: inner ++ [last]) =
      ("RUN " ++ first ++ " && \\") :: inner.map innerLine ++ ["    " ++ last] :=
  runLines_go ("RUN " ++ first) last inner

theorem withPackages_eq (family : Family) (commands : List String) :
    withPackages family commands =
      ("RUN " ++ updateCommand family ++ " && \\") :: commands.map innerLine ++
        ["    rm -rf " ++ cacheDirectory family] := by
  have hlast : "    " ++ ("rm -rf " ++ cacheDirectory family) =
      "    rm -rf " ++ cacheDirectory family := by
    cases family <;> rfl
  rw [withPackages, runLines_eq, hlast]

/-! ### Blocks -/

/-- The block of a language of the catalog. -/
def languageLines (family : Family) (l : Language) : List String :=
  match Cookbook.standard.languages.lookup (l.name, family) with
  | some recipe => ("# Install " ++ l.name ++ " " ++ l.version) :: recipe l.version ++ [""]
  | none => []

def beforePassword : Family → List String
  | .debian => ["DEBIAN_FRONTEND=noninteractive " ++ install .debian "openssh-server",
      "mkdir -p /var/run/sshd"]
  | .alpine => [install .alpine "openssh", "ssh-keygen -A"]

def afterPassword : Family → List String
  | .debian => [enableSetting "\\?" "PermitRootLogin",
      enableSetting "\\?" "PasswordAuthentication"]
  | .alpine => [enableSetting "" "PermitRootLogin", enableSetting "" "PasswordAuthentication",
      "mkdir -p /run/sshd"]

/-- The instruction that installs the login server and sets the password. -/
def serverLines (family : Family) (password : String) : List String :=
  withPackages family (beforePassword family ++ passwordCommand password :: afterPassword family)

theorem sshRecipe_eq (family : Family) (password : String) :
    (Cookbook.standard.ssh.lookup family).getD sshDebian password =
      serverLines family password := by
  cases family <;> rfl

/-- Appends a key to the authorised ones. -/
def keyCommand (key : String) : String :=
  "echo " ++ Text.shellWord key ++ " >> /root/.ssh/authorized_keys"

/-- The instruction that authorises a key. -/
def authorisation : Option String → List String
  | some key => runLines ["mkdir -p /root/.ssh", keyCommand key,
      "chmod 700 /root/.ssh && chmod 600 /root/.ssh/authorized_keys"]
  | none => []

theorem keyLines_text {key : String} (filled : key ≠ "") :
    keyLines (.text key) = .ok (authorisation (some (Text.strip key))) := by
  rw [keyLines, if_pos (Json.isTruthy_text filled)]
  rfl

theorem keyLines_publicKey (a : SshAccess) :
    keyLines (.ofText? a.publicKey) = .ok (authorisation a.effectiveKey?) := by
  unfold SshAccess.effectiveKey?
  cases a.publicKey with
  | none => rfl
  | some key =>
    by_cases hkey : key = ""
    · subst hkey
      rfl
    · simp only [hkey, if_false]
      exact keyLines_text hkey

/-- The block of enabled access. -/
def loginLines (family : Family) (a : SshAccess) : List String :=
  "# Install and configure SSH server" :: serverLines family a.password ++
    authorisation a.effectiveKey? ++ ["", "EXPOSE " ++ toString a.port, ""]

theorem sshBlock_toDraft (family : Family) (a : SshAccess) :
    sshBlock family a.toDraft = .ok (loginLines family a) := by
  have hkey : keyLines a.toDraft.publicKey = .ok (authorisation a.effectiveKey?) :=
    keyLines_publicKey a
  rw [sshBlock, hkey, loginLines, ← sshRecipe_eq]
  rfl

/-- The part about remote access, with the default command. -/
def accessBlock (family : Family) : Option SshAccess → List String
  | some a => loginLines family a ++ ["# Set default command", sshdCommand]
  | none => ["# Set default command", shellCommand]

theorem accessLines_toDraft (e : Environment) (family : Family) :
    accessLines family e.toDraft.ssh = .ok (accessBlock family e.activeSsh?) := by
  rw [Environment.toDraft, Environment.activeSsh?]
  cases e.ssh with
  | none => rfl
  | some a =>
    rw [Option.map_some, accessLines, Option.filter_some, sshBlock_toDraft]
    cases hon : a.enabled with
    | true => simp [SshAccess.toDraft, hon, accessBlock, Except.map]
    | false => simp [SshAccess.toDraft, hon, accessBlock]

/-! ### What the catalog has, the recipes know -/

theorem system?_of_base (s : BaseSystem) :
    ∃ system, Catalog.system? s.name = some system ∧ system.name = s.name ∧
      system ∈ Catalog.systems ∧ s.version ∈ system.versions := by
  have hoffered := s.offered
  unfold Catalog.offersSystem at hoffered
  cases hfound : Catalog.system? s.name with
  | none => simp [hfound] at hoffered
  | some system =>
    have hname := List.find?_some hfound
    exact ⟨system, rfl, by simpa using hname, List.mem_of_find?_eq_some hfound,
      by simpa [hfound] using hoffered⟩

theorem language?_of_language (l : Language) :
    ∃ language ∈ Catalog.languages, language.name = l.name ∧ l.version ∈ language.versions := by
  have hoffered := l.offered
  unfold Catalog.offersLanguage at hoffered
  cases hfound : Catalog.language? l.name with
  | none => simp [hfound] at hoffered
  | some language =>
    have hname := List.find?_some hfound
    exact ⟨language, List.mem_of_find?_eq_some hfound, by simpa using hname,
      by simpa [hfound] using hoffered⟩

theorem recipe_of_language (family : Family) (l : Language) :
    ∃ recipe, Cookbook.standard.languages.lookup (l.name, family) = some recipe := by
  obtain ⟨language, hmem, hname, -⟩ := language?_of_language l
  have hall : ∀ language ∈ Catalog.languages, ∀ family : Family,
      (Cookbook.standard.languages.lookup (language.name, family)).isSome = true := by
    intro language hmem family
    simp only [Catalog.languages, List.mem_cons, List.not_mem_nil, or_false] at hmem
    rcases hmem with rfl | rfl | rfl <;> cases family <;> rfl
  rw [← hname]
  exact Option.isSome_iff_exists.mp (hall language hmem family)

theorem baseImage_system (s : BaseSystem) :
    baseImage ⟨.text s.name, .text s.version⟩ = .ok ([], s.name ++ ":" ++ s.version, s.family) := by
  obtain ⟨system, hfound, hname, -, -⟩ := system?_of_base s
  simp [baseImage, Json.lookedUp, hfound, hname, Json.display, BaseSystem.family, bind,
    Except.bind, pure, Except.pure]

theorem languageBlock_language (family : Family) (l : Language) :
    languageBlock family ⟨.text l.name, .text l.version⟩ = .ok ([], languageLines family l) := by
  obtain ⟨recipe, hfound⟩ := recipe_of_language family l
  simp [languageBlock, languageLines, Json.lookedUp, hfound, Json.display, bind, Except.bind,
    pure, Except.pure]

end Dockerfile

namespace Environment

open Dockerfile

/-- The build file of the environment. -/
def compiled (e : Environment) : Dockerfile :=
  ⟨["FROM " ++ (e.system.name ++ ":" ++ e.system.version), "", "WORKDIR /app", ""] ++
    e.languages.flatMap (languageLines e.family) ++ accessBlock e.family e.activeSsh?⟩

theorem mapM_languageBlock (family : Family) (ls : List Language) :
    (ls.map fun l => (⟨.text l.name, .text l.version⟩ : Draft.Choice)).mapM (languageBlock family) =
      .ok (ls.map fun l => ([], languageLines family l)) := by
  rw [Outcome.mapM_eq_ok_iff_forall₂, List.forall₂_map_left_iff, List.forall₂_map_right_iff]
  exact List.forall₂_same.mpr fun l _ => languageBlock_language family l

/-- Every valid environment has a build file, and it is the one written out here. -/
theorem assemble_toDraft (e : Environment) : e.toDraft.assemble = .ok e.compiled := by
  have hblocks : e.toDraft.languages.mapM (languageBlock e.family) =
      .ok (e.languages.map fun l => ([], languageLines e.family l)) :=
    mapM_languageBlock e.family e.languages
  have himage : baseImage e.toDraft.system =
      .ok ([], e.system.name ++ ":" ++ e.system.version, e.family) :=
    baseImage_system e.system
  simp [Draft.assemble, himage, hblocks, accessLines_toDraft, bind, Except.bind, pure,
    Except.pure, compiled, List.flatMap_map]

end Environment

end DevEnv
