import DevEnv.CommandLine.Invocation
import DevEnv.CommandLine.Session
import DevEnv.Environment.Edit

/-!
The commands that show and change the configuration.
-/

namespace DevEnv.CommandLine

set_option autoImplicit false

variable {σ : Type}

/-- A password as so many stars. -/
def masked (password : String) : String := "".pushn '*' password.length

/-- The environment in its stored form, but for the password. -/
def maskedJson (e : Environment) : Json :=
  match e.ssh with
  | some a =>
    .object (Json.bind "ssh" (.object [("enabled", .bool a.enabled), ("port", .integer a.port),
      ("password", .text (masked a.password)), ("public_key", .ofText? a.publicKey)]) e.fields)
  | none => e.toJson

def showConfig : CommandM σ Unit := do
  if (← load).isNone then echo "No environment configuration found (defaults shown)"
  let shown := maskedJson (← environment)
  echo "Environment Configuration:"
  echo ((shown.withHalves (← get).standIns).pretty .nonAscii)

/-- Changes the environment that is kept; a change that breaks a rule changes nothing. -/
def update (change : Environment → Checked Environment) : CommandM σ Environment := do
  match change (← environment) with
  | .error issues =>
    complain ("Error: " ++ Issue.summary issues)
    throw (.status 1)
  | .ok e =>
    saveEnvironment e
    return e

/-- Carries out an edit and says so. -/
def updateWith (edit : Edit) (message : String) : CommandM σ Unit := do
  discard <| update fun e => e.apply edit
  echo message

/-- Enabled access in which the settings that are not given stay as they are. -/
def SshChange.settings (change : SshChange) (current : SshAccess) : Except Refusal SshAccess :=
  SshAccess.check true (change.port.getD current.port) (change.password.getD current.password)
    (change.publicKey.or current.publicKey)

/-- The environment with remote access changed. -/
def SshChange.apply (change : SshChange) (e : Environment) : Checked Environment :=
  if change.disable then e.apply (.ssh none)
  else do
    let access ← Checked.ofRule (change.settings (e.ssh.getD .disabled))
    e.apply (.ssh (some access))

/-- What is said after remote access has been changed. -/
def sshMessage (e : Environment) : String :=
  match e.ssh with
  | some a => if a.enabled then "SSH enabled on port " ++ toString a.port else "SSH disabled"
  | none => "SSH disabled"

def setSsh (change : SshChange) : CommandM σ Unit := do
  echo (sshMessage (← update change.apply))

def resetConfig : CommandM σ Unit := do
  setFiles (← get).files.clearProgress
  saveEnvironment .default
  echo "Configuration reset to defaults"

end DevEnv.CommandLine
