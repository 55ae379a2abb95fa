import DevEnv.Environment.Reader
import DevEnv.Environment.Writer

/-!
Reading the wire form. What it leaves out is filled in before the ordinary rules are applied, so the
issues are those of the stored form.
-/

namespace DevEnv.Environment

set_option autoImplicit false

inductive WireFault
  /-- The value or its system is no object. -/
  | notObject
  | invalid (issues : List Issue)
deriving DecidableEq, Repr

/-- The stored form of a wire form, null where the wire form has nothing. -/
def storedForm (wire system : Json) : Json :=
  .object [
    ("name", (wire.get? "name").getD .null),
    ("os", .object [
      ("type", (system.get? "os_type").getD (.text "")),
      ("version", (system.get? "version").getD (.text ""))]),
    ("languages", (wire.get? "languages").getD (.list [])),
    ("ssh", (wire.get? "ssh").getD .null)]

def ofWire (wire : Json) : Except WireFault Environment :=
  match wire, (wire.get? "os").getD (.object []) with
  | .object _, .object fs => (read (storedForm wire (.object fs))).mapError .invalid
  | _, _ => .error .notObject

end DevEnv.Environment
