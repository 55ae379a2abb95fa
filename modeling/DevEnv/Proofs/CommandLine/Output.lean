import DevEnv.Proofs.CommandLine.Deployment
import DevEnv.Proofs.Pipeline.Output

/-!
The output of builds, from the client to the pipeline and to what commands print. Whether a build comes to
an image or not, its output arrives whole and in order, and nothing else is taken for it.
-/

namespace DevEnv.CommandLine

set_option autoImplicit false

open Daemon Pipeline

variable {σ : Type} {client : Client σ} {e : Environment} {tag : String}

/-! ### What is printed -/

section Commands
variable (client : Client σ) (given : Option String)

end Commands

/-! ### Command lines -/

section Programs
variable (client : Client σ) (setting : Setting) (daemon : σ) {w : Workspace} {args : List String}
  {kept : Option Progress} (found : (foundAt w args).progress? = .ok kept)
  (listed : (StateFile.environmentOf kept).languages ≠ [])
include found listed

end Programs

/-- A daemon whose builds have this output. -/
def building (chunks : List Json) : Scripted :=
  ⟨[(.build, [{ Reply.plain with chunks := chunks }])], []⟩

def chunk (stream : Json) : Json := .object [("stream", stream)]

end DevEnv.CommandLine
