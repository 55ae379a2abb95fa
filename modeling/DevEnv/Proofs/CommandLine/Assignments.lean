import DevEnv.Proofs.CommandLine.Reading
import DevEnv.Proofs.Outcome

/-!
Options that may be given several times. All their values reach the command, in the order of the command
line, whatever other options stand between them.
-/

namespace DevEnv.CommandLine

set_option autoImplicit false

open DevEnv.Outcome

namespace Grammar

variable {g : Grammar} {given : List (OptionSpec × String)}

end Grammar

/-! ### Assignments to variables of a container -/

end DevEnv.CommandLine
