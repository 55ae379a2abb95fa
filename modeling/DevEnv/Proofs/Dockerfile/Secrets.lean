import DevEnv.Proofs.Dockerfile.Breaks
import Mathlib.Data.List.Forall2

/-!
What the secrets of an environment can do to its build file. As long as none of them holds a line
break, they reach no physical line but the one that sets the password and the one that authorises
the key, and no instruction begins that would not begin without them. A break in a secret is a break
in the build file, and then neither holds.
-/

namespace DevEnv

set_option autoImplicit false

namespace Dockerfile

/-! ### Reading instructions from physical lines -/

/-- Whether the line is blank or a comment; such lines count for nothing, also in an instruction. -/
def isIdle (line : String) : Bool :=
  match line.toList.dropWhile Text.isWhiteSpace with
  | [] => true
  | c :: _ => c == '#'

/-- Whether the instruction goes on after the line. -/
def continues (line : String) : Bool :=
  (line.toList.reverse.dropWhile fun c => c == ' ' || c == '\t').head? == some '\\'

def firstWord (line : String) : String :=
  String.ofList ((line.toList.dropWhile Text.isWhiteSpace).takeWhile fun c => !Text.isWhiteSpace c)

/-- The words with which instructions begin; `inside` says whether one is going on already. -/
def keywords (inside : Bool) : List String → List String
  | [] => []
  | line :: rest =>
    if isIdle line then keywords inside rest
    else if inside then keywords (continues line) rest
    else firstWord line :: keywords (continues line) rest

/-- Two lines that mean the same to a reader of instructions. -/
structure ReadAlike (line line' : String) : Prop where
  idle : isIdle line = isIdle line'
  continued : continues line = continues line'
  word : firstWord line = firstWord line'

theorem keywords_eq_of_readAlike {lines lines' : List String}
    (h : List.Forall₂ ReadAlike lines lines') (inside : Bool) :
    keywords inside lines = keywords inside lines' := by
  induction h generalizing inside with
  | nil => rfl
  | cons hline _ ih =>
    simp only [keywords, hline.idle, hline.continued, hline.word, ih]

/-- A line after one that does not go on begins an instruction. -/
theorem firstWord_mem_keywords (inside : Bool) (before after : List String)
    {line next : String} (hline : isIdle line = false) (hends : continues line = false)
    (hnext : isIdle next = false) :
    firstWord next ∈ keywords inside (before ++ line :: next :: after) := by
  induction before generalizing inside with
  | nil => cases inside <;> simp [keywords, hline, hends, hnext]
  | cons first before ih =>
    rw [List.cons_append, keywords]
    split
    · exact ih inside
    · split
      · exact ih _
      · exact List.mem_cons_of_mem _ (ih _)

/-- An inner line with an `echo` is a part of its instruction, whatever it echoes. -/
theorem readAlike_echo (s s' : String) :
    ReadAlike (innerLine ("echo " ++ s)) (innerLine ("echo " ++ s')) where
  idle := by simp [isIdle, innerLine, Text.isWhiteSpace]
  continued := by simp [continues, innerLine]
  word := by simp [firstWord, innerLine, Text.isWhiteSpace]

end Dockerfile

namespace Environment

open Text Dockerfile

/-! ### Environments that differ in secrets only -/

/-- The port of enabled access, and whether there is a key. -/
def openAccess (e : Environment) : Option (Int × Bool) :=
  e.activeSsh?.map fun a => (a.port, a.effectiveKey?.isSome)

/-- Two environments that are the same but for their secrets, as far as a build file shows them. -/
structure SameButSecrets (e e' : Environment) : Prop where
  system : e.system = e'.system
  languages : e.languages = e'.languages
  access : e.openAccess = e'.openAccess

/-- A line of one build file beside the same line of the other one. -/
inductive SameLine (e e' : Environment) : String → String → Prop
  | shared (line : String) : SameLine e e' line line
  | password {a a' : SshAccess} : e.activeSsh? = some a → e'.activeSsh? = some a' →
      SameLine e e' (innerLine (passwordCommand a.password))
        (innerLine (passwordCommand a'.password))
  | key {a a' : SshAccess} {key key' : String} : e.activeSsh? = some a →
      a.effectiveKey? = some key → e'.activeSsh? = some a' → a'.effectiveKey? = some key' →
      SameLine e e' (innerLine (keyCommand key)) (innerLine (keyCommand key'))

theorem SameLine.readAlike {e e' : Environment} {line line' : String}
    (h : SameLine e e' line line') : ReadAlike line line' := by
  cases h with
  | shared => exact ⟨rfl, rfl, rfl⟩
  | password =>
    simp only [passwordCommand, String.append_assoc]
    exact readAlike_echo _ _
  | key =>
    simp only [keyCommand, String.append_assoc]
    exact readAlike_echo _ _

section Lines
variable {e e' : Environment}

theorem sameLine_self (lines : List String) : List.Forall₂ (SameLine e e') lines lines :=
  List.forall₂_same.mpr fun line _ => .shared line

theorem sameLine_serverLines {a a' : SshAccess} (h : e.activeSsh? = some a)
    (h' : e'.activeSsh? = some a') (family : Family) :
    List.Forall₂ (SameLine e e') (serverLines family a.password)
      (serverLines family a'.password) := by
  simp only [serverLines, withPackages_eq, List.map_append, List.map_cons]
  refine List.rel_append (.cons (.shared _) ?_) (sameLine_self _)
  exact List.rel_append (sameLine_self _) (.cons (.password h h') (sameLine_self _))

theorem sameLine_authorisation {a a' : SshAccess} (h : e.activeSsh? = some a)
    (h' : e'.activeSsh? = some a') (hkey : a.effectiveKey?.isSome = a'.effectiveKey?.isSome) :
    List.Forall₂ (SameLine e e') (authorisation a.effectiveKey?)
      (authorisation a'.effectiveKey?) := by
  cases hk : a.effectiveKey? with
  | none =>
    cases hk' : a'.effectiveKey? with
    | none => exact .nil
    | some key' => simp [hk, hk'] at hkey
  | some key =>
    cases hk' : a'.effectiveKey? with
    | none => simp [hk, hk'] at hkey
    | some key' =>
      exact .cons (.shared _) (.cons (.key h hk h' hk') (.cons (.shared _) .nil))

theorem sameLine_accessBlock (h : e.openAccess = e'.openAccess) (family : Family) :
    List.Forall₂ (SameLine e e') (accessBlock family e.activeSsh?)
      (accessBlock family e'.activeSsh?) := by
  unfold openAccess at h
  cases ha : e.activeSsh? with
  | none =>
    cases ha' : e'.activeSsh? with
    | none => exact sameLine_self _
    | some a' => simp [ha, ha'] at h
  | some a =>
    cases ha' : e'.activeSsh? with
    | none => simp [ha, ha'] at h
    | some a' =>
      simp only [ha, ha', Option.map_some, Option.some.injEq, Prod.mk.injEq] at h
      obtain ⟨hport, hkey⟩ := h
      simp only [accessBlock, loginLines, hport]
      refine List.rel_append (List.rel_append ?_ (sameLine_self _)) (sameLine_self _)
      refine List.rel_append (.cons (.shared _) ?_) (sameLine_authorisation ha ha' hkey)
      exact sameLine_serverLines ha ha' family

theorem SameButSecrets.sameLine (h : SameButSecrets e e') :
    List.Forall₂ (SameLine e e') e.compiled.lines e'.compiled.lines := by
  have hfamily : e.family = e'.family := by rw [family, family, h.system]
  simp only [compiled, h.system, h.languages, hfamily]
  exact List.rel_append (sameLine_self _) (sameLine_accessBlock h.access _)

end Lines

theorem lines_compiled_ne_nil (e : Environment) : e.compiled.lines ≠ [] := by
  simp [compiled]

theorem passwordLine_mem {e : Environment} {a : SshAccess} (h : e.activeSsh? = some a) :
    innerLine (passwordCommand a.password) ∈ e.compiled.lines := by
  simp [compiled, h, accessBlock, loginLines, serverLines, withPackages_eq]

/-- Exactly if no secret holds a line break, the build file is its physical lines. Two environments
that differ in secrets only have build files of the same number of physical lines exactly if their
secrets hold equally many breaks, and where they hold none the two files are the same but for the
lines that the secrets stand on. -/
theorem assembled_whole_iff (e : Environment) :
    ∃ file, e.toDraft.assemble = .ok file ∧
      (OneLined file.lines ↔ OneLined e.secrets) ∧
      (physicalLines file.text = file.lines ↔ OneLined e.secrets) ∧
      (physicalLines file.text).length = file.lines.length + breaksIn e.secrets ∧
      ∀ e', SameButSecrets e e' → ∃ file', e'.toDraft.assemble = .ok file' ∧
        ((physicalLines file.text).length = (physicalLines file'.text).length ↔
          breaksIn e.secrets = breaksIn e'.secrets) ∧
        (OneLined e.secrets → OneLined e'.secrets →
          List.Forall₂ (SameLine e e') (physicalLines file.text) (physicalLines file'.text) ∧
          keywords false (physicalLines file.text) =
            keywords false (physicalLines file'.text)) := by
  have hlength : ∀ e : Environment, (physicalLines e.compiled.text).length =
      e.compiled.lines.length + breaksIn e.secrets := fun e => by
    rw [length_physicalLines_text (lines_compiled_ne_nil e), breaksIn_compiled]
  have hwhole : ∀ e : Environment, physicalLines e.compiled.text = e.compiled.lines ↔
      OneLined e.secrets := fun e =>
    (physicalLines_text_iff (lines_compiled_ne_nil e)).trans (oneLined_compiled_iff e)
  refine ⟨e.compiled, assemble_toDraft e, oneLined_compiled_iff e, hwhole e, hlength e, ?_⟩
  intro e' hsame
  have hlines := hsame.sameLine
  refine ⟨e'.compiled, assemble_toDraft e', ?_, ?_⟩
  · have hcount := hlines.length_eq
    rw [hlength e, hlength e', hcount]
    omega
  · intro hsecrets hsecrets'
    rw [(hwhole e).mpr hsecrets, (hwhole e').mpr hsecrets']
    exact ⟨hlines, keywords_eq_of_readAlike (hlines.imp fun _ _ => SameLine.readAlike) false⟩

/-- A small environment with these secrets. -/
def withSecrets (password key : String) (usable : SshUsable 2222 password) : Environment where
  name := none
  system := ⟨"debian", "bookworm", by decide⟩
  languages := []
  ssh := some ⟨true, 2222, password, some key, fun _ => usable⟩
  distinct := List.nodup_nil

def quietLogin : Environment := withSecrets "it's me" "ssh-rsa AAAA me" (by decide)

def otherLogin : Environment := withSecrets "secret # \\" " ssh-rsa BBBB\n" (by decide)

theorem assembled_whole_quietLogin :
    SameButSecrets quietLogin otherLogin ∧ OneLined quietLogin.secrets ∧
    OneLined otherLogin.secrets ∧
    ∃ file file', quietLogin.toDraft.assemble = .ok file ∧ otherLogin.toDraft.assemble = .ok file' ∧
      List.Forall₂ (SameLine quietLogin otherLogin) (physicalLines file.text)
        (physicalLines file'.text) ∧
      keywords false (physicalLines file.text) = keywords false (physicalLines file'.text) := by
  have hsame : SameButSecrets quietLogin otherLogin := ⟨rfl, rfl, by decide⟩
  have hquiet : OneLined quietLogin.secrets :=
    .cons (unbroken_literal rfl) (.cons (by unfold Unbroken; decide) oneLined_nil)
  have hother : OneLined otherLogin.secrets :=
    .cons (unbroken_literal rfl) (.cons (by unfold Unbroken; decide) oneLined_nil)
  obtain ⟨file, hfile, -, -, -, hall⟩ := assembled_whole_iff quietLogin
  obtain ⟨file', hfile', -, hlines⟩ := hall otherLogin hsame
  exact ⟨hsame, hquiet, hother, file, file', hfile, hfile', hlines hquiet hother⟩

/-- The break in the password ends the instruction, and what follows begins one of its own. -/
def intrudingLogin : Environment := withSecrets "secret\nUSER x" "ssh-rsa AAAA" (by decide)

theorem intrudingLogin_keyword :
    ¬ OneLined intrudingLogin.compiled.lines ∧
    "USER" ∈ keywords false (physicalLines intrudingLogin.compiled.text) := by
  constructor
  · rw [oneLined_compiled_iff]
    intro h
    exact h "secret\nUSER x" List.mem_cons_self (by decide)
  · obtain ⟨before, after, hlines⟩ := List.append_of_mem
      (passwordLine_mem (e := intrudingLogin) rfl)
    have hpieces : pieces (innerLine (passwordCommand "secret\nUSER x")) =
        ["    echo 'root:secret", "USER x' | chpasswd && \\"] := by decide
    rw [physicalLines_text (lines_compiled_ne_nil _), hlines, List.flatMap_append,
      List.flatMap_cons, hpieces]
    exact firstWord_mem_keywords _ _ _ (by decide) (by decide) (by decide)

end Environment

end DevEnv
