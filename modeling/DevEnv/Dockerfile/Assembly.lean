import DevEnv.Dockerfile.Basic
import DevEnv.Dockerfile.Recipe
import DevEnv.Environment.Draft
import DevEnv.Json.Display
import DevEnv.Json.Misuse
import DevEnv.Text.Blank

/-!
Assembling the build file of a draft. What the catalog or the cookbook does not know is dropped, and
each thing dropped is reported once. A value that cannot stand where it stands ends the assembly.
-/

namespace DevEnv

set_option autoImplicit false

namespace Dockerfile

/-- Something in a draft that the build file leaves out. -/
inductive Dropped
  | system (name : Json)
  | language (name : Json)
deriving DecidableEq, Repr

def fallbackImage : String := Catalog.fallbackSystem ++ ":" ++ Catalog.fallbackVersion

def Dropped.message : Dropped → String
  | system name => "Unknown OS type '" ++ name.display ++ "', falling back to " ++ fallbackImage
  | language name => "No installer for language '" ++ name.display ++ "', skipping"

/-- The base image of a system and its family; an unknown system is dropped. -/
def baseImage (system : Draft.Choice) :
    Except Json.Misuse (List Dropped × String × Family) := do
  match (← system.name.lookedUp).bind Catalog.system? with
  | some s => return ([], s.name ++ ":" ++ system.version.display, s.family)
  | none => return ([.system system.name], fallbackImage, .debian)

/-- The block of a language, or the language as dropped. -/
def languageBlock (family : Family) (l : Draft.Choice) :
    Except Json.Misuse (List Dropped × List String) := do
  let name ← l.name.lookedUp
  match name.bind fun s => (Cookbook.standard.languages.lookup (s, family)).map fun r => (s, r) with
  | some (s, recipe) =>
    let version := l.version.display
    return ([], ("# Install " ++ s ++ " " ++ version) :: recipe version ++ [""])
  | none => return ([.language l.name], [])

/-- The lines that authorise a public key, if there is one to speak of. -/
def keyLines (key : Json) : Except Json.Misuse (List String) :=
  if key.isTruthy then
    (key.textFor "strip").map fun key => runLines [
      "mkdir -p /root/.ssh",
      "echo " ++ Text.shellWord (Text.strip key) ++ " >> /root/.ssh/authorized_keys",
      "chmod 700 /root/.ssh && chmod 600 /root/.ssh/authorized_keys"]
  else .ok []

/-- The block of remote access. -/
def sshBlock (family : Family) (a : Draft.Ssh) : Except Json.Misuse (List String) := do
  let recipe := (Cookbook.standard.ssh.lookup family).getD sshDebian
  let password ← a.password.joinedText
  let key ← keyLines a.publicKey
  return "# Install and configure SSH server" :: recipe password ++ key ++
    ["", "EXPOSE " ++ a.port.display, ""]

def shellCommand : String := "CMD [\"/bin/bash\"]"

def sshdCommand : String := "CMD [\"/usr/sbin/sshd\", \"-D\"]"

/-- The part of the build file about remote access, with the default command after it. -/
def accessLines (family : Family) : Option Draft.Ssh → Except Json.Misuse (List String)
  | some a =>
    if a.enabled then
      (sshBlock family a).map fun block => block ++ ["# Set default command", sshdCommand]
    else .ok ["# Set default command", shellCommand]
  | none => .ok ["# Set default command", shellCommand]

/-- The languages that are dropped up to the first one that ends the assembly. -/
def droppedLanguages (family : Family) : List Draft.Choice → List Dropped
  | [] => []
  | l :: ls =>
    match languageBlock family l with
    | .ok (dropped, _) => dropped ++ droppedLanguages family ls
    | .error _ => []

end Dockerfile

namespace Draft

open Dockerfile

/-- What the assembly drops, in the order of the draft. -/
def dropped (d : Draft) : List Dropped :=
  match baseImage d.system with
  | .ok (fromSystem, _, family) => fromSystem ++ droppedLanguages family d.languages
  | .error _ => []

/-- The build file of the draft. -/
def assemble (d : Draft) : Except Json.Misuse Dockerfile := do
  let (_, image, family) ← baseImage d.system
  let blocks ← d.languages.mapM (languageBlock family)
  let access ← accessLines family d.ssh
  return ⟨["FROM " ++ image, "", "WORKDIR /app", ""] ++ blocks.flatMap (·.2) ++ access⟩

end Draft

end DevEnv
