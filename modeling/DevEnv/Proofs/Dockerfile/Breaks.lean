import DevEnv.Proofs.Dockerfile.Compiled
import DevEnv.Proofs.Dockerfile.Lines

/-!
The line breaks in the build file of a valid environment. Quoting for the shell keeps them, and
nothing else has any: there are as many as in the secrets that the build file quotes.
-/

namespace DevEnv

set_option autoImplicit false

namespace Text

/-! ### Quoting keeps line breaks -/

theorem count_break_flatMap_shellLiteral (cs : List Char) :
    (cs.flatMap shellLiteral).count '\n' = cs.count '\n' := by
  induction cs with
  | nil => rfl
  | cons c cs ih =>
    have hc : (shellLiteral c).count '\n' = [c].count '\n' := by
      unfold shellLiteral
      split
      · subst c
        rfl
      · rfl
    rw [List.flatMap_cons, List.count_append, ih, hc, ← List.count_append, List.singleton_append]

theorem breaks_shellWord (s : String) : breaks (shellWord s) = breaks s := by
  unfold shellWord
  simp only
  split
  · rename_i hempty
    have hs : s.toList = [] := by simpa using hempty
    simp [breaks, hs]
  · split
    · rfl
    · simp [breaks, count_break_flatMap_shellLiteral]

theorem unbroken_natRepr (n : Nat) : Unbroken n.repr := by
  rw [Unbroken, Nat.repr, String.toList_ofList]
  intro hmem
  have hdigit := Nat.isDigit_of_mem_toDigits (by decide) (by decide) hmem
  exact absurd hdigit (by decide)

theorem unbroken_toString (n : Int) : Unbroken (toString n) := by
  cases n with
  | ofNat n => exact unbroken_natRepr n
  | negSucc n => exact (unbroken_literal rfl : Unbroken "-").append (unbroken_natRepr (n + 1))

end Text

namespace Dockerfile

open Text

/-! ### Commands -/

theorem unbroken_updateCommand (family : Family) : Unbroken (updateCommand family) := by
  cases family <;> exact unbroken_literal rfl

theorem unbroken_cacheDirectory (family : Family) : Unbroken (cacheDirectory family) := by
  cases family <;> exact unbroken_literal rfl

theorem unbroken_install (family : Family) {packages : String} (h : Unbroken packages) :
    Unbroken (install family packages) := by
  refine Unbroken.append (Unbroken.append ?_ (unbroken_literal rfl)) h
  cases family <;> exact unbroken_literal rfl

theorem unbroken_enableSetting {mark setting : String} (hmark : Unbroken mark)
    (hsetting : Unbroken setting) : Unbroken (enableSetting mark setting) := by
  refine Unbroken.append ?_ (unbroken_literal rfl)
  refine Unbroken.append ?_ hsetting
  refine Unbroken.append ?_ (unbroken_literal rfl)
  exact ((unbroken_literal rfl).append hmark).append hsetting

theorem breaks_innerLine (command : String) : breaks (innerLine command) = breaks command := by
  simp [innerLine, breaks]

theorem breaks_passwordCommand (password : String) :
    breaks (passwordCommand password) = breaks password := by
  rw [passwordCommand, breaks_append, breaks_append, breaks_shellWord, breaks_append]
  simp [breaks]

theorem breaks_keyCommand (key : String) : breaks (keyCommand key) = breaks key := by
  rw [keyCommand, breaks_append, breaks_append, breaks_shellWord]
  simp [breaks]

theorem breaksIn_map_innerLine (commands : List String) :
    breaksIn (commands.map innerLine) = breaksIn commands := by
  induction commands with
  | nil => rfl
  | cons command commands ih => simp [breaks_innerLine, ih]

/-! ### Instructions -/

theorem breaksIn_withPackages (family : Family) (commands : List String) :
    breaksIn (withPackages family commands) = breaksIn commands := by
  have hfirst : Unbroken ("RUN " ++ updateCommand family ++ " && \\") :=
    ((unbroken_literal rfl).append (unbroken_updateCommand family)).append (unbroken_literal rfl)
  have hlast : Unbroken ("    rm -rf " ++ cacheDirectory family) :=
    (unbroken_literal rfl).append (unbroken_cacheDirectory family)
  rw [← breaks_eq_zero_iff] at hfirst hlast
  rw [withPackages_eq]
  simp only [List.cons_append, breaksIn_cons, breaksIn_append, breaksIn_nil,
    breaksIn_map_innerLine]
  omega

theorem oneLined_withPackages {family : Family} {commands : List String}
    (h : OneLined commands) : OneLined (withPackages family commands) := by
  rwa [← breaksIn_eq_zero_iff, breaksIn_withPackages, breaksIn_eq_zero_iff]

theorem oneLined_beforePassword (family : Family) : OneLined (beforePassword family) := by
  cases family with
  | debian =>
    have hinstall := unbroken_install .debian (unbroken_literal rfl : Unbroken "openssh-server")
    exact .cons ((unbroken_literal rfl).append hinstall) (.cons (unbroken_literal rfl) oneLined_nil)
  | alpine =>
    have hinstall := unbroken_install .alpine (unbroken_literal rfl : Unbroken "openssh")
    exact .cons hinstall (.cons (unbroken_literal rfl) oneLined_nil)

theorem oneLined_afterPassword (family : Family) : OneLined (afterPassword family) := by
  have henable : ∀ mark, Unbroken mark → Unbroken (enableSetting mark "PermitRootLogin") ∧
      Unbroken (enableSetting mark "PasswordAuthentication") := fun _ hmark =>
    ⟨unbroken_enableSetting hmark (unbroken_literal rfl),
      unbroken_enableSetting hmark (unbroken_literal rfl)⟩
  cases family with
  | debian =>
    obtain ⟨hroot, hpassword⟩ := henable "\\?" (unbroken_literal rfl)
    exact .cons hroot (.cons hpassword oneLined_nil)
  | alpine =>
    obtain ⟨hroot, hpassword⟩ := henable "" (unbroken_literal rfl)
    exact .cons hroot (.cons hpassword (.cons (unbroken_literal rfl) oneLined_nil))

theorem breaksIn_serverLines (family : Family) (password : String) :
    breaksIn (serverLines family password) = breaks password := by
  have hbefore := breaksIn_eq_zero_iff.mpr (oneLined_beforePassword family)
  have hafter := breaksIn_eq_zero_iff.mpr (oneLined_afterPassword family)
  rw [serverLines, breaksIn_withPackages, breaksIn_append, breaksIn_cons, breaks_passwordCommand,
    hbefore, hafter]
  omega

theorem breaksIn_authorisation (key : Option String) :
    breaksIn (authorisation key) = breaksIn key.toList := by
  cases key with
  | none => rfl
  | some key =>
    have hfirst : Unbroken "RUN mkdir -p /root/.ssh && \\" := unbroken_literal rfl
    have hlast : Unbroken
        "    chmod 700 /root/.ssh && chmod 600 /root/.ssh/authorized_keys" := unbroken_literal rfl
    rw [← breaks_eq_zero_iff] at hfirst hlast
    have hlines : authorisation (some key) = ["RUN mkdir -p /root/.ssh && \\",
        innerLine (keyCommand key),
        "    chmod 700 /root/.ssh && chmod 600 /root/.ssh/authorized_keys"] := rfl
    rw [hlines, breaksIn_cons, breaksIn_cons, breaksIn_cons, breaks_innerLine, breaks_keyCommand,
      hfirst, hlast, Option.toList_some, breaksIn_cons, Nat.zero_add]
    rfl

/-! ### Recipes -/

theorem oneLined_pythonDebian {version : String} (h : Unbroken version) :
    OneLined (pythonDebian version) := by
  have hpython : Unbroken ("python" ++ version ++ " python" ++ version ++ "-pip") :=
    ((((unbroken_literal rfl).append h).append (unbroken_literal rfl)).append h).append
      (unbroken_literal rfl)
  apply oneLined_withPackages
  refine .cons (unbroken_install _ (unbroken_literal rfl)) (.cons (unbroken_literal rfl) ?_)
  exact .cons (unbroken_updateCommand _) (.cons (unbroken_install _ hpython) oneLined_nil)

theorem oneLined_nodejsDebian {version : String} (h : Unbroken version) :
    OneLined (nodejsDebian version) := by
  have hsetup : Unbroken ("curl -fsSL https://deb.nodesource.com/setup_" ++ version ++
      ".x -o nodesource_setup.sh") :=
    ((unbroken_literal rfl).append h).append (unbroken_literal rfl)
  apply oneLined_withPackages
  refine .cons (unbroken_install _ (unbroken_literal rfl)) (.cons hsetup ?_)
  refine .cons (unbroken_literal rfl) (.cons (unbroken_install _ (unbroken_literal rfl)) ?_)
  exact .cons (unbroken_literal rfl) oneLined_nil

theorem oneLined_rust (family : Family) {tools : String} (htools : Unbroken tools)
    (version : String) : OneLined (rust family tools version) := by
  have htoolchain : Unbroken
      (if version == "nightly" then " --default-toolchain nightly" else "") := by
    split <;> exact unbroken_literal rfl
  refine OneLined.append (oneLined_withPackages ?_) (.cons (unbroken_literal rfl) oneLined_nil)
  refine .cons (unbroken_install _ htools) (.cons (unbroken_literal rfl) ?_)
  exact .cons ((unbroken_literal rfl).append htoolchain) (.cons (unbroken_literal rfl) oneLined_nil)

theorem oneLined_recipe {key : String × Family} {recipe : Recipe}
    (hmem : (key, recipe) ∈ Cookbook.standard.languages) {version : String}
    (h : Unbroken version) : OneLined (recipe version) := by
  simp only [Cookbook.standard, List.mem_cons, List.not_mem_nil, or_false, Prod.mk.injEq] at hmem
  rcases hmem with ⟨-, rfl⟩ | ⟨-, rfl⟩ | ⟨-, rfl⟩ | ⟨-, rfl⟩ | ⟨-, rfl⟩ | ⟨-, rfl⟩
  · exact oneLined_pythonDebian h
  · exact oneLined_withPackages (.cons (unbroken_install _ (unbroken_literal rfl)) oneLined_nil)
  · exact oneLined_nodejsDebian h
  · exact oneLined_withPackages (.cons (unbroken_install _ (unbroken_literal rfl)) oneLined_nil)
  · exact oneLined_rust _ (unbroken_literal rfl) version
  · exact oneLined_rust _ (unbroken_literal rfl) version

theorem oneLined_catalogLanguages : ∀ language ∈ Catalog.languages,
    Unbroken language.name ∧ OneLined language.versions := by
  simp only [Unbroken, OneLined]
  decide

theorem oneLined_languageLines (family : Family) (l : Language) :
    OneLined (languageLines family l) := by
  obtain ⟨language, hmem, hname, hversion⟩ := language?_of_language l
  have hlname : Unbroken l.name := hname ▸ (oneLined_catalogLanguages language hmem).1
  have hlversion : Unbroken l.version := (oneLined_catalogLanguages language hmem).2 _ hversion
  unfold languageLines
  cases hfound : Cookbook.standard.languages.lookup (l.name, family) with
  | none => exact oneLined_nil
  | some recipe =>
    obtain ⟨before, after, hbook, -⟩ := List.lookup_eq_some_iff.mp hfound
    have hentry : ((l.name, family), recipe) ∈ Cookbook.standard.languages := by simp [hbook]
    have hheader : Unbroken ("# Install " ++ l.name ++ " " ++ l.version) :=
      (((unbroken_literal rfl).append hlname).append (unbroken_literal rfl)).append hlversion
    refine .cons hheader (OneLined.append (oneLined_recipe hentry hlversion) ?_)
    exact .cons (unbroken_literal rfl) oneLined_nil

end Dockerfile

/-- The texts of the user that a build file with this access quotes. -/
def SshAccess.secrets (a : SshAccess) : List String := a.password :: a.effectiveKey?.toList

namespace Environment

open Text Dockerfile

/-- The texts of the user that the build file quotes. -/
def secrets (e : Environment) : List String := e.activeSsh?.elim [] SshAccess.secrets

theorem oneLined_catalogSystems : ∀ system ∈ Catalog.systems,
    Unbroken system.name ∧ OneLined system.versions := by
  simp only [Unbroken, OneLined]
  decide

theorem breaksIn_accessBlock (family : Family) (access : Option SshAccess) :
    breaksIn (accessBlock family access) = breaksIn (access.elim [] SshAccess.secrets) := by
  cases access with
  | none =>
    refine breaksIn_eq_zero_iff.mpr (OneLined.cons ?_ (.cons ?_ oneLined_nil)) <;>
      exact unbroken_literal rfl
  | some a =>
    have hheader : Unbroken "# Install and configure SSH server" := unbroken_literal rfl
    have hexpose : OneLined ["", "EXPOSE " ++ toString a.port, ""] :=
      .cons (unbroken_literal rfl) (.cons ((unbroken_literal rfl).append (unbroken_toString a.port))
        (.cons (unbroken_literal rfl) oneLined_nil))
    have hcommand : OneLined ["# Set default command", sshdCommand] :=
      .cons (unbroken_literal rfl) (.cons (unbroken_literal rfl) oneLined_nil)
    rw [← breaks_eq_zero_iff] at hheader
    rw [← breaksIn_eq_zero_iff] at hexpose hcommand
    rw [accessBlock, loginLines, breaksIn_append, breaksIn_append, breaksIn_append, breaksIn_cons,
      breaksIn_serverLines, breaksIn_authorisation, hheader, hexpose, hcommand, Option.elim_some,
      SshAccess.secrets, breaksIn_cons]
    omega

theorem breaksIn_compiled (e : Environment) : breaksIn e.compiled.lines = breaksIn e.secrets := by
  obtain ⟨system, -, hname, hmem, hversion⟩ := system?_of_base e.system
  have hsname : Unbroken e.system.name := hname ▸ (oneLined_catalogSystems system hmem).1
  have hsversion : Unbroken e.system.version := (oneLined_catalogSystems system hmem).2 _ hversion
  have himage : Unbroken (e.system.name ++ ":" ++ e.system.version) :=
    (hsname.append (unbroken_literal rfl)).append hsversion
  have hhead : OneLined ["FROM " ++ (e.system.name ++ ":" ++ e.system.version), "", "WORKDIR /app",
      ""] := by
    refine .cons ((unbroken_literal rfl).append himage) (.cons (unbroken_literal rfl) ?_)
    exact .cons (unbroken_literal rfl) (.cons (unbroken_literal rfl) oneLined_nil)
  have hlanguages : OneLined (e.languages.flatMap (languageLines e.family)) := by
    intro line hline
    obtain ⟨l, -, hline⟩ := List.mem_flatMap.mp hline
    exact oneLined_languageLines e.family l line hline
  have hfixed := breaksIn_eq_zero_iff.mpr (hhead.append hlanguages)
  rw [compiled, breaksIn_append, hfixed, breaksIn_accessBlock, Nat.zero_add]
  rfl

theorem oneLined_compiled_iff (e : Environment) :
    OneLined e.compiled.lines ↔ OneLined e.secrets := by
  rw [← breaksIn_eq_zero_iff, breaksIn_compiled, breaksIn_eq_zero_iff]

end Environment

end DevEnv
