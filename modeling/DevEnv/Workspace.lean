import DevEnv.Environment.Reader
import DevEnv.Environment.Writer
import DevEnv.Json.Parser
import DevEnv.Json.Printer

/-!
The files of a working directory, and among them the state file, in which the progress of the user
is kept. A state file that cannot be used is ignored, unless its bytes spell no text or its text
holds too long a number or too deep a nest of values.
-/

namespace DevEnv

set_option autoImplicit false

-- Contents are compared as in core, whatever other instances are in scope.
attribute [local instance (2000)] ByteArray.instDecidableEq

/-- What can stand under a name. -/
inductive Node
  | file (content : ByteArray)
  | directory
deriving DecidableEq

/-- Why a file could not be written or removed. -/
inductive FileFault
  | isDirectory
  /-- A directory on the way is not there. -/
  | missing
  /-- A file stands where a directory should be on the way. -/
  | notDirectory
  /-- A file stands where a directory should be made. -/
  | occupied
  | nameTooLong
deriving DecidableEq, Repr

def FileFault.message : FileFault → String
  | isDirectory => "Is a directory"
  | missing => "No such file or directory"
  | notDirectory => "Not a directory"
  | occupied => "File exists"
  | nameTooLong => "File name too long"

/-! ### The state file -/

/-- What stands in the place of the state file, if anything does. -/
abbrev StateFile := Option Node

namespace StateFile

/-- Why a state file ends the program instead of being ignored. -/
inductive Fault
  /-- The bytes spell no text. -/
  | undecodable
  | integerTooLong
  /-- Too many lists and objects are nested; a list, or else an object, is the one too many. -/
  | tooDeep (isList : Bool)
deriving DecidableEq, Repr

def Fault.message : Fault → String
  | undecodable => "invalid start byte"
  | integerTooLong => "Exceeds the limit for integer string conversion"
  | tooDeep isList =>
    "maximum recursion depth exceeded while decoding a JSON " ++
      (if isList then "array" else "object") ++ " from a unicode string"

inductive Loaded
  | nothing
  /-- There is something, and it is of no use; one warning tells so. -/
  | ignored
  /-- The progress that was kept, with stand-ins for the halves in its texts. -/
  | progress (p : Progress) (standIns : Text.StandIns)
  | failed (fault : Fault)

/-- What a text in the state file comes to. No stand-in is a character of that text, nor a `spoken`
one. -/
def loadText (limit : Json.DigitLimit) (spoken : List Char) (s : String) : Loaded :=
  match Json.parseWithin limit s with
  | .ok v =>
    let d := Text.StandIns.avoiding (v.points ++ spoken.map Char.toNat)
    match Progress.read (v.withStandIns d) with
    | .ok p => .progress p d
    | .error _ => .ignored
  | .error .malformed => .ignored
  | .error .integerTooLong => .failed .integerTooLong
  | .error (.tooDeep isList) => .failed (.tooDeep isList)

/-- What the state file comes to where integers have so many digits. Texts of `spoken` characters can
meet those of the progress. -/
def loadWithin (limit : Json.DigitLimit) (spoken : List Char) : StateFile → Loaded
  | none => .nothing
  | some .directory => .ignored
  | some (.file bytes) =>
    match String.fromUTF8? bytes with
    | none => .failed .undecodable
    | some s => loadText limit spoken s

def load (spoken : List Char) (f : StateFile) : Loaded := f.loadWithin .usual spoken

/-- How many warnings loading gives. -/
def Loaded.warnings : Loaded → Nat
  | ignored => 1
  | _ => 0

/-- The progress found; none also for what is ignored. -/
def Loaded.progress? : Loaded → Except Fault (Option Progress)
  | progress p _ => .ok (some p)
  | failed fault => .error fault
  | _ => .ok none

/-- The stand-ins in what was found. -/
def Loaded.standIns : Loaded → Text.StandIns
  | progress _ standIns => standIns
  | _ => .none

/-- The text in which progress is kept. -/
def textOf (p : Progress) : String := p.toJson.pretty .required

/-- Puts a file in the place. -/
def write (content : ByteArray) : StateFile → Except FileFault StateFile
  | some .directory => .error .isDirectory
  | _ => .ok (some (.file content))

/-- Puts a directory in the place. -/
def makeDirectory : StateFile → Except FileFault StateFile
  | none => .ok (some .directory)
  | some _ => .error .occupied

def save (p : Progress) (f : StateFile) : Except FileFault StateFile := f.write (textOf p).toUTF8

def clear : StateFile → Except FileFault StateFile
  | some .directory => .error .isDirectory
  | _ => .ok none

/-- The environment of what was loaded, or the one assumed for want of any. -/
def environmentOf : Option Progress → Environment
  | some p => p.environment
  | none => .default

/-- Progress with another environment on the page where the user was. -/
def withEnvironment (p : Option Progress) (e : Environment) : Progress :=
  ⟨match p with
    | some p => p.step
    | none => 1, e⟩

end StateFile

/-! ### The working directory -/

/-- A path from the working directory, by its parts; one from the root begins with an empty part. -/
abbrev Path := List String

/-- Everything in the working directory; each path stands once. -/
structure Workspace where
  nodes : List (Path × Node)

namespace Workspace

/-- The way to the directory above the working directory, or above it in turn. -/
def isAbove (path : Path) : Bool := path.all (· == "..")

/-- Directories that there are under the root of any system. -/
def rootDirectories : List String :=
  ["bin", "boot", "dev", "etc", "home", "lib", "media", "mnt", "opt", "proc", "root", "run", "sbin",
    "srv", "sys", "tmp", "usr", "var"]

/-- Whether a path is the root or one of its usual directories. -/
def isRoot : Path → Bool
  | [""] => true
  | ["", name] => rootDirectories.contains name
  | _ => false

/-- What stands under a path; the working directory, those above it and the root with what is always
in it are directories. -/
def find? (w : Workspace) (path : Path) : Option Node :=
  if isAbove path || isRoot path then some .directory else w.nodes.lookup path

def isDirectory (w : Workspace) (path : Path) : Bool := w.find? path == some .directory

/-- One part more: nothing for the directory itself, one part less for its parent. -/
def enter (path : Path) (part : String) : Path :=
  if part == "" || part == "." then path
  else if part != ".." then path ++ [part]
  else if isAbove path then path ++ [".."]
  else if path == [""] then path
  else path.dropLast

/-- Goes on from a path, part by part; whatever is gone through has to be a directory. -/
def follow? (w : Workspace) (path : Path) : List String → Option Path
  | [] => some path
  | part :: parts =>
    if w.isDirectory path then w.follow? (enter path part) parts else none

/-- Where a path begins: at the root if a slash comes first. -/
def origin (s : String) : Path := if s.startsWith "/" then [""] else []

/-- The longest name of a file, in bytes. -/
def maxName : Nat := 255

/-- Paths are shorter than this, in bytes. -/
def maxPath : Nat := 4096

/-- The path that a text names, if it leads through directories only. -/
def resolve? (w : Workspace) (s : String) : Option Path :=
  if maxPath ≤ s.utf8ByteSize then none else w.follow? (origin s) (s.splitOn "/")

/-- The path that a text names, whatever there is on the way. -/
def pathOf (s : String) : Path := (s.splitOn "/").foldl enter (origin s)

/-- Whether a path leads out of the working directory. -/
def isOutside : Path → Bool
  | part :: _ => part == "" || part == ".."
  | [] => false

def put (w : Workspace) (path : Path) (node : Node) : Workspace :=
  ⟨(path, node) :: w.nodes.filter fun n => n.1 != path⟩

def erase (w : Workspace) (path : Path) : Workspace := ⟨w.nodes.filter fun n => n.1 != path⟩

/-- The place of a file with this name in a directory; `slash` says that a slash follows the name,
which makes it the name of a directory. -/
def placeIn (w : Workspace) (directory : Path) (name : String) (slash : Bool) :
    Except FileFault Path :=
  let place := directory ++ [name]
  if slash || name == "." || name == ".." then .error .isDirectory
  else if maxName < name.utf8ByteSize then .error .nameTooLong
  else if w.isDirectory place then .error .isDirectory
  else .ok place

/-- The place of a file to write, from `path` on, whose directory has to be there. -/
def follow (w : Workspace) (slash : Bool) (path : Path) : List String → Except FileFault Path
  | [] => .error .isDirectory
  | part :: parts =>
    match w.find? path with
    | none => .error .missing
    | some (.file _) => .error .notDirectory
    | some .directory =>
      if parts.isEmpty then w.placeIn path part slash
      else if maxName < part.utf8ByteSize then .error .nameTooLong
      else w.follow slash (enter path part) parts

/-- The place of a file to write. -/
def target (w : Workspace) (s : String) : Except FileFault Path :=
  if maxPath ≤ s.utf8ByteSize then .error .nameTooLong
  else w.follow (s.endsWith "/") (origin s) ((s.splitOn "/").filter fun part => part != "")

/-- Makes a directory unless it is there. -/
def ensureDirectory (w : Workspace) (path : Path) : Except FileFault Workspace :=
  match w.find? path with
  | some .directory => .ok w
  | some (.file _) => .error .occupied
  | none => .ok (w.put path .directory)

/-- A workspace with these files and the directories that hold them. -/
def ofFiles (files : List (String × String)) : Workspace :=
  files.foldl (fun w f =>
    let path := pathOf f.1
    let parents := (List.range path.length).tail.map path.take
    let w := parents.foldl (fun w p => if (w.find? p).isSome then w else w.put p .directory) w
    w.put path (.file f.2.toUTF8)) ⟨[]⟩

/-- The directory of the state file. -/
def dataDirectory : Path := [".container-helper"]

def statePath : Path := dataDirectory ++ ["wizard_state.json"]

def stateFile (w : Workspace) : StateFile :=
  if w.isDirectory dataDirectory then w.find? statePath else none

/-- The workspace with what stands in the place of the state file replaced. -/
def setStateFile (w : Workspace) : StateFile → Workspace
  | some node => w.put statePath node
  | none => w.erase statePath

def saveProgress (w : Workspace) (p : Progress) : Except FileFault Workspace := do
  let w ← w.ensureDirectory dataDirectory
  return w.setStateFile (← w.stateFile.save p)

def clearProgress (w : Workspace) : Except FileFault Workspace := do
  return w.setStateFile (← w.stateFile.clear)

end Workspace

end DevEnv
