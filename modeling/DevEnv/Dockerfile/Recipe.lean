import DevEnv.Catalog
import DevEnv.Text.Shell

/-!
Recipes: the instructions that install a language or remote access on the systems of one package
family, and the tables of them. A recipe depends on the version, or on the password.
-/

namespace DevEnv.Dockerfile

set_option autoImplicit false

/-- One instruction that runs commands in turn, each on a line of its own. -/
def runLines : List String → List String
  | [] => []
  | first :: rest => go ("RUN " ++ first) rest
where
  go (line : String) : List String → List String
    | [] => [line]
    | next :: rest => (line ++ " && \\") :: go ("    " ++ next) rest

def updateCommand : Family → String
  | .debian => "apt-get update"
  | .alpine => "apk update"

def installCommand : Family → String
  | .debian => "apt-get install -y"
  | .alpine => "apk add"

def cacheDirectory : Family → String
  | .debian => "/var/lib/apt/lists/*"
  | .alpine => "/var/cache/apk/*"

/-- Refreshes the package lists, runs the commands and removes the lists again. -/
def withPackages (family : Family) (commands : List String) : List String :=
  runLines (updateCommand family :: commands ++ ["rm -rf " ++ cacheDirectory family])

def install (family : Family) (packages : String) : String :=
  installCommand family ++ " " ++ packages

abbrev Recipe := String → List String

def pythonDebian : Recipe := fun version =>
  withPackages .debian [
    install .debian "software-properties-common",
    "add-apt-repository ppa:deadsnakes/ppa -y",
    updateCommand .debian,
    install .debian ("python" ++ version ++ " python" ++ version ++ "-pip")]

/-- The family has a single version of the language. -/
def pythonAlpine : Recipe := fun _ =>
  withPackages .alpine [install .alpine "python3 py3-pip"]

def nodejsDebian : Recipe := fun version =>
  withPackages .debian [
    install .debian "curl",
    "curl -fsSL https://deb.nodesource.com/setup_" ++ version ++ ".x -o nodesource_setup.sh",
    "bash nodesource_setup.sh",
    install .debian "nodejs",
    "rm nodesource_setup.sh"]

def nodejsAlpine : Recipe := fun _ =>
  withPackages .alpine [install .alpine "nodejs npm"]

def rust (family : Family) (buildTools : String) : Recipe := fun version =>
  withPackages family [
    install family buildTools,
    "curl --proto '=https' --tlsv1.2 -sSf https://sh.rustup.rs -o rustup-init.sh",
    "sh rustup-init.sh -y" ++ (if version == "nightly" then " --default-toolchain nightly" else ""),
    "rm rustup-init.sh"] ++
  ["ENV PATH=\"/root/.cargo/bin:$\x7bPATH\x7d\""]

/-- Sets the root password of the image. -/
def passwordCommand (password : String) : String :=
  "echo " ++ Text.shellWord ("root:" ++ password) ++ " | chpasswd"

/-- Turns a commented setting of the login server on. -/
def enableSetting (mark setting : String) : String :=
  "sed -i \"s/#" ++ mark ++ setting ++ ".*/" ++ setting ++ " yes/\" /etc/ssh/sshd_config"

def sshDebian : Recipe := fun password =>
  withPackages .debian [
    "DEBIAN_FRONTEND=noninteractive " ++ install .debian "openssh-server",
    "mkdir -p /var/run/sshd",
    passwordCommand password,
    enableSetting "\\?" "PermitRootLogin",
    enableSetting "\\?" "PasswordAuthentication"]

def sshAlpine : Recipe := fun password =>
  withPackages .alpine [
    install .alpine "openssh",
    "ssh-keygen -A",
    passwordCommand password,
    enableSetting "" "PermitRootLogin",
    enableSetting "" "PasswordAuthentication",
    "mkdir -p /run/sshd"]

/-- Recipes for languages on a family and for remote access on a family. -/
structure Cookbook where
  languages : List ((String × Family) × Recipe)
  ssh : List (Family × Recipe)

namespace Cookbook

def standard : Cookbook where
  languages := [
    (("python", .debian), pythonDebian), (("python", .alpine), pythonAlpine),
    (("nodejs", .debian), nodejsDebian), (("nodejs", .alpine), nodejsAlpine),
    (("rust", .debian), rust .debian "curl build-essential"),
    (("rust", .alpine), rust .alpine "curl gcc musl-dev")]
  ssh := [(.debian, sshDebian), (.alpine, sshAlpine)]

/-- The cookbook with some recipes torn out. -/
def without (book : Cookbook) (languages : List (String × Family)) (ssh : List Family) :
    Cookbook where
  languages := book.languages.filter fun r => !languages.contains r.1
  ssh := book.ssh.filter fun r => !ssh.contains r.1

/-- A recipe that a cookbook should have: for a language, or for remote access. -/
abbrev Entry := Option String × Family

/-- The recipes that the catalog calls for and the cookbook lacks. -/
def missing (book : Cookbook) : List Entry :=
  (Catalog.languages.flatMap fun l =>
    (Family.all.filter fun f => (book.languages.lookup (l.name, f)).isNone).map fun f =>
      (some l.name, f)) ++
  (Family.all.filter fun f => (book.ssh.lookup f).isNone).map fun f => (none, f)

/-- An entry in the wording of the message. -/
def entryText : Entry → String
  | (some language, family) => "('" ++ language ++ "', '" ++ family.name ++ "')"
  | (none, family) => "(None, '" ++ family.name ++ "')"

/-- What is wrong with an incomplete cookbook. -/
def complaint? (book : Cookbook) : Option String :=
  match book.missing with
  | [] => none
  | entries =>
    let texts := ", ".intercalate (entries.map entryText)
    some ("Installer table is missing entries: [" ++ texts ++ "]")

end Cookbook

end DevEnv.Dockerfile
