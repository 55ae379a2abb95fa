import DevEnv.Catalog
import DevEnv.Validation.Issue

/-!
Development environments. A value of these types is valid by construction: its parts are in the
catalog, no language is listed twice, and enabled remote access has a usable port and password.
-/

namespace DevEnv

set_option autoImplicit false

/-- A base operating system. -/
structure BaseSystem where
  name : String
  version : String
  offered : Catalog.offersSystem name version = true
deriving DecidableEq, Repr

/-- A language runtime. -/
structure Language where
  name : String
  version : String
  offered : Catalog.offersLanguage name version = true
deriving DecidableEq, Repr

/-- Whether remote access with these settings can be switched on. -/
def SshUsable (port : Int) (password : String) : Prop :=
  Catalog.minSshPort ≤ port ∧ port ≤ Catalog.maxSshPort ∧
    Catalog.minPasswordLength ≤ password.length

instance (port : Int) (password : String) : Decidable (SshUsable port password) :=
  inferInstanceAs (Decidable (_ ∧ _ ∧ _))

/-- Remote login as root. -/
structure SshAccess where
  enabled : Bool
  port : Int
  password : String
  publicKey : Option String
  usable : enabled = true → SshUsable port password
deriving DecidableEq, Repr

structure Environment where
  name : Option String
  system : BaseSystem
  languages : List Language
  ssh : Option SshAccess
  distinct : (languages.map Language.name).Nodup
deriving DecidableEq, Repr

/-- An environment and the wizard page on which its description was left. -/
structure Progress where
  step : Int
  environment : Environment
deriving DecidableEq, Repr

namespace BaseSystem

def check (name version : String) : Except Refusal BaseSystem :=
  if h : Catalog.offersSystem name version = true then .ok ⟨name, version, h⟩
  else match Catalog.system? name with
    | none => .error (.unknownSystem name)
    | some system => .error (.unknownSystemVersion system version)

/-- The package family of the system. -/
def family (s : BaseSystem) : Family :=
  match Catalog.system? s.name with
  | some system => system.family
  | none => .debian

end BaseSystem

namespace Language

def check (name version : String) : Except Refusal Language :=
  if h : Catalog.offersLanguage name version = true then .ok ⟨name, version, h⟩
  else match Catalog.language? name with
    | none => .error (.unknownLanguage name)
    | some language => .error (.unknownLanguageVersion language version)

end Language

namespace SshAccess

/-- Access that is switched off. -/
def disabled : SshAccess :=
  ⟨false, Catalog.defaultSshPort, "", none, by simp⟩

def check (enabled : Bool) (port : Int) (password : String) (publicKey : Option String) :
    Except Refusal SshAccess :=
  if h : enabled = true → SshUsable port password then
    .ok ⟨enabled, port, password, publicKey, h⟩
  else if port < Catalog.minSshPort ∨ Catalog.maxSshPort < port then .error .sshPortOutOfRange
  else .error .sshPasswordTooShort

end SshAccess

/-- The first name that stands in the list for a second time. -/
def firstRepeat? (seen : List String) : List String → Option String
  | [] => none
  | n :: rest => if seen.contains n then some n else firstRepeat? (n :: seen) rest

namespace Environment

/-- Lists of languages without repetition. -/
abbrev LanguageList := { ls : List Language // (ls.map Language.name).Nodup }

/-- The rule on the list of languages alone; of several repeated languages it names the first. -/
def checkLanguages (ls : List Language) : Except Refusal LanguageList :=
  if h : (ls.map Language.name).Nodup then .ok ⟨ls, h⟩
  else .error (.repeatedLanguage ((firstRepeat? [] (ls.map Language.name)).getD ""))

/-- What is assumed before anything has been chosen. -/
def default : Environment :=
  ⟨none, ⟨Catalog.fallbackSystem, Catalog.fallbackVersion, by decide⟩, [], none, by simp⟩

def sshEnabled (e : Environment) : Bool :=
  match e.ssh with
  | some ssh => ssh.enabled
  | none => false

def family (e : Environment) : Family := e.system.family

end Environment

end DevEnv
