import DevEnv.Environment.Basic
import DevEnv.Validation.Reader

/-!
Reading environments out of JSON. A rule on a whole value is tried only when all its fields could be
read, and its issue stands at the value itself.
-/

namespace DevEnv

set_option autoImplicit false

open Reader

def BaseSystem.read : Json → Checked BaseSystem :=
  record "OsSelection" fun fs => do
    let (name, version) ← (required "type" text fs).both (required "version" text fs)
    Checked.ofRule (BaseSystem.check name version)

def Language.read : Json → Checked Language :=
  record "LanguageRuntime" fun fs => do
    let (name, version) ← (required "name" text fs).both (required "version" text fs)
    Checked.ofRule (Language.check name version)

def SshAccess.read : Json → Checked SshAccess :=
  record "SshAccessConfig" fun fs => do
    let (enabled, port, password, publicKey) ←
      (defaulted "enabled" false flag fs).both <|
      (defaulted "port" Catalog.defaultSshPort integer fs).both <|
      (defaulted "password" "" text fs).both <|
      defaulted "public_key" none (nullable text) fs
    Checked.ofRule (SshAccess.check enabled port password publicKey)

namespace Environment

def readLanguages (v : Json) : Checked LanguageList := do
  let ls ← listOf Language.read v
  Checked.ofRule (checkLanguages ls)

def read : Json → Checked Environment :=
  record "EnvironmentConfig" fun fs => do
    let (name, system, languages, ssh) ←
      (defaulted "name" none (nullable text) fs).both <|
      (required "os" BaseSystem.read fs).both <|
      (defaulted "languages" ⟨[], List.nodup_nil⟩ readLanguages fs).both <|
      defaulted "ssh" none (nullable SshAccess.read) fs
    return ⟨name, system, languages.1, ssh, languages.2⟩

end Environment

def Progress.read : Json → Checked Progress :=
  record "WizardSnapshot" fun fs => do
    let (step, environment) ←
      (defaulted "current_step" 1 integer fs).both (required "config" Environment.read fs)
    return ⟨step, environment⟩

end DevEnv
