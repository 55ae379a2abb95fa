/-!
What environments can be made of: the operating systems with their versions and package families,
the language runtimes with theirs, and the bounds on remote access.
-/

namespace DevEnv

set_option autoImplicit false

/-- Systems of one family share package names and the package manager. -/
inductive Family
  | debian
  | alpine
deriving DecidableEq, Repr

namespace Family

def name : Family → String
  | debian => "debian"
  | alpine => "alpine"

def all : List Family := [debian, alpine]

/-- The family of a name. -/
def ofName? (s : String) : Option Family := all.find? fun f => f.name == s

end Family

namespace Catalog

structure System where
  name : String
  versions : List String
  family : Family
deriving DecidableEq, Repr

structure Language where
  name : String
  versions : List String
deriving DecidableEq, Repr

def systems : List System := [
  ⟨"ubuntu", ["20.04", "22.04", "24.04"], .debian⟩,
  ⟨"debian", ["bullseye", "bookworm"], .debian⟩,
  ⟨"alpine", ["latest"], .alpine⟩]

def languages : List Language := [
  ⟨"python", ["3.9", "3.10", "3.11", "3.12"]⟩,
  ⟨"nodejs", ["18", "20", "22"]⟩,
  ⟨"rust", ["stable", "nightly"]⟩]

def system? (name : String) : Option System := systems.find? fun s => s.name == name

def language? (name : String) : Option Language := languages.find? fun l => l.name == name

/-- Whether an operating system and its version are in the catalog. -/
def offersSystem (name version : String) : Bool :=
  match system? name with
  | some s => s.versions.contains version
  | none => false

/-- Whether a language and its version are in the catalog. -/
def offersLanguage (name version : String) : Bool :=
  match language? name with
  | some l => l.versions.contains version
  | none => false

/-- The system that stands in for an unknown one. -/
def fallbackSystem : String := "ubuntu"

def fallbackVersion : String := "22.04"

/-- The port on which a container serves remote logins. -/
def sshContainerPort : Int := 22

def defaultSshPort : Int := 2222

def minSshPort : Int := 1024

def maxSshPort : Int := 65535

def minPasswordLength : Nat := 6

end Catalog

end DevEnv
