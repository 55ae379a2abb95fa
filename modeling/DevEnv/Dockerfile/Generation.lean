import DevEnv.Dockerfile.Assembly
import DevEnv.Failure

/-!
Generating the text of a build file: the draft has to be complete, and what is dropped from it goes
into the log.
-/

namespace DevEnv.Draft

set_option autoImplicit false

/-- The failure of a draft that lacks something, if it does. -/
def incompleteness? (d : Draft) : Option EngineFailure :=
  d.gap?.map fun gap => .incomplete gap.message

/-- One warning for each thing dropped. -/
def warnings (d : Draft) : List LogEntry :=
  d.dropped.map fun dropped => ⟨.warning, dropped.message⟩

def assembled (d : Draft) : Except Failure Dockerfile :=
  d.assemble.mapError fun m => .unforeseen (.misuse m)

/-- The text of the build file, and the log of its making. -/
def generate (d : Draft) : List LogEntry × Except Failure String :=
  match d.incompleteness? with
  | some failure => ([], .error (.engine failure))
  | none => (d.warnings, d.assembled.map Dockerfile.text)

end DevEnv.Draft
