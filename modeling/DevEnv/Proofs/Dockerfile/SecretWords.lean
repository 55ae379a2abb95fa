import DevEnv.Proofs.Dockerfile.Drafts
import DevEnv.Proofs.Dockerfile.Footprint
import DevEnv.Proofs.Text.ShellLine

/-!
The secrets as the shell reads them. Whatever a password or a key is, it is one word of the command it
was written for, and everything else in the build file is the same for all of them. A line is read here
as the shell gets it; what a break in a secret does to the build file is another matter.
-/

namespace DevEnv

set_option autoImplicit false

open Text

namespace Dockerfile

/-- The line feeds the password of root to the program that sets passwords. -/
def SetsPassword (line password : String) : Prop :=
  readLine line.toList = some [.word "echo", .word ("root:" ++ password), .operator .pipe,
    .word "chpasswd", .operator .conjunction]

/-- The line puts the key, without the blanks around it, behind the authorised ones. -/
def AppendsKey (line key : String) : Prop :=
  readLine line.toList = some [.word "echo", .word (strip key), .operator .appending,
    .word "/root/.ssh/authorized_keys", .operator .conjunction]

inductive Authorises : Option String → List String → Prop
  | absent : Authorises none []
  | empty : Authorises (some "") []
  | key {key line : String} : key ≠ "" → AppendsKey line key →
      Authorises (some key) ["RUN mkdir -p /root/.ssh && \\", line,
        "    chmod 700 /root/.ssh && chmod 600 /root/.ssh/authorized_keys"]

theorem readLine_innerLine {command : String} {ts : List ShellToken}
    (h : command.toList ++ " && \\".toList = laidOut ts ++ ['\\']) :
    readLine (innerLine command).toList = some ts := by
  have line : (innerLine command).toList = ' ' :: ' ' :: ' ' :: ' ' :: (laidOut ts ++ ['\\']) := by
    rw [innerLine, String.toList_append, String.toList_append, List.append_assoc, h]
    rfl
  rw [line, readLine_blank, readLine_blank, readLine_blank, readLine_blank, readLine_laidOut,
    readLine_end, Option.map_some, List.append_nil]

theorem setsPassword (password : String) :
    SetsPassword (innerLine (passwordCommand password)) password := by
  apply readLine_innerLine
  have echo : shellWord "echo" = "echo" := rfl
  have program : shellWord "chpasswd" = "chpasswd" := rfl
  simp [passwordCommand, laidOut, ShellToken.spelled, Operator.text, echo, program]

theorem appendsKey (key : String) : AppendsKey (innerLine (keyCommand (strip key))) key := by
  apply readLine_innerLine
  have echo : shellWord "echo" = "echo" := rfl
  have file : shellWord "/root/.ssh/authorized_keys" = "/root/.ssh/authorized_keys" := rfl
  simp [keyCommand, laidOut, ShellToken.spelled, Operator.text, echo, file]

end Dockerfile

namespace Draft

open Dockerfile

/-- The draft with access opened on a port by a password and, if there is one, a key. -/
def opened (d : Draft) (port : Json) (password : String) (key : Option String) : Draft :=
  { d with ssh := some ⟨true, port, .text password, .ofText? key⟩ }

def keyPart : Option String → List String
  | some key => if key = "" then [] else authorisation (some (strip key))
  | none => []

theorem keyLines_ofText? (key : Option String) : keyLines (.ofText? key) = .ok (keyPart key) := by
  cases key with
  | none => rfl
  | some key =>
    by_cases blank : key = ""
    · subst blank
      rfl
    · rw [keyPart, if_neg blank]
      exact keyLines_text blank

theorem authorises_keyPart (key : Option String) : Authorises key (keyPart key) := by
  cases key with
  | none => exact .absent
  | some key =>
    by_cases blank : key = ""
    · subst blank
      exact .empty
    · rw [keyPart, if_neg blank]
      exact .key blank (appendsKey key)

def beforeLogin (d : Draft) : List String :=
  d.opening ++ d.blocks ++ "# Install and configure SSH server" ::
    ("RUN " ++ updateCommand d.family ++ " && \\") :: (beforePassword d.family).map innerLine

def afterLogin (family : Family) : List String :=
  (afterPassword family).map innerLine ++ ["    rm -rf " ++ cacheDirectory family]

def afterKey (port : Json) : List String :=
  ["", "EXPOSE " ++ port.display, "", "# Set default command", sshdCommand]

theorem accessLines_opened (family : Family) (port : Json) (password : String)
    (key : Option String) :
    accessLines family (some ⟨true, port, .text password, .ofText? key⟩) =
      .ok ("# Install and configure SSH server" :: serverLines family password ++ keyPart key ++
        afterKey port) := by
  have block : sshBlock family ⟨true, port, .text password, .ofText? key⟩ =
      .ok ("# Install and configure SSH server" :: serverLines family password ++ keyPart key ++
        ["", "EXPOSE " ++ port.display, ""]) :=
    sshBlock_eq_ok_iff.mpr ⟨password, keyPart key, rfl, keyLines_ofText? key, rfl⟩
  rw [accessLines, if_pos rfl, block, Except.map, List.append_assoc]
  rfl

theorem assemble_opened_eq_ok_iff {d : Draft} {port : Json} {password : String}
    {key : Option String} {file : Dockerfile} :
    (d.opened port password key).assemble = .ok file ↔
      d.Keyed ∧ file.lines = d.beforeLogin ++ innerLine (passwordCommand password) ::
        (afterLogin d.family ++ (keyPart key ++ afterKey port)) := by
  have lines : d.opening ++ d.blocks ++ ("# Install and configure SSH server" ::
        serverLines d.family password ++ keyPart key ++ afterKey port) =
      d.beforeLogin ++ innerLine (passwordCommand password) ::
        (afterLogin d.family ++ (keyPart key ++ afterKey port)) := by
    rw [List.append_assoc, List.cons_append, serverLines_append]
    simp [beforeLogin, afterLogin]
  rw [assemble_eq_ok_iff]
  constructor
  · rintro ⟨⟨system, languages⟩, access, granted, rfl⟩
    rw [← lines, ← Except.ok.inj ((accessLines_opened ..).symm.trans granted)]
    exact ⟨⟨system, languages⟩, rfl⟩
  · rintro ⟨⟨system, languages⟩, same⟩
    refine ⟨⟨system, languages⟩, _, accessLines_opened .., ?_⟩
    rw [← lines] at same
    cases file
    rw [Dockerfile.mk.injEq]
    exact same

/-- Whatever the secrets are, the build file has the same lines but for the one that sets the password
and those about the key, and these say to the shell what they are to say, with each secret a word. -/
theorem secrets_read_back (d : Draft) (port : Json) :
    ∃ (front middle back : List String) (login : String → String)
      (authorised : Option String → List String),
      (∀ password, SetsPassword (login password) password) ∧
      (∀ key, Authorises key (authorised key)) ∧
      ∀ password key file, (d.opened port password key).assemble = .ok file ↔
        d.Keyed ∧
          file.lines = front ++ login password :: (middle ++ (authorised key ++ back)) := by
  refine ⟨d.beforeLogin, afterLogin d.family, afterKey port,
    fun password => innerLine (passwordCommand password), keyPart, setsPassword,
    authorises_keyPart, ?_⟩
  intro password key file
  exact assemble_opened_eq_ok_iff

end Draft

end DevEnv
