import DevEnv.Catalog
import DevEnv.Container.Query
import DevEnv.Time.Display

/-!
Containers for a reader: short ids, ports, and the commands that open a shell in them.
-/

namespace DevEnv.Container

set_option autoImplicit false

/-- The id as far as it is shown. -/
def shortId (id : String) : String := String.ofList (id.toList.take 12)

/-- A published port with its host port in front. -/
def portText (p : PortMapping) : String :=
  let inner := toString p.privatePort ++ "/" ++ p.protocol
  match p.publicPort with
  | some host => if host = 0 then inner else toString host ++ ":" ++ inner
  | none => inner

def portsText (c : Container) : String :=
  if c.ports.isEmpty then "-" else ", ".intercalate (c.ports.map portText)

/-- Images with this word in their name have a small shell only. -/
def shellOf (c : Container) : String :=
  if occursIn "alpine" (Text.lower c.image) then "/bin/sh" else "/bin/bash"

def execCommand (c : Container) : String :=
  "docker exec -it " ++ shortId c.id ++ " " ++ shellOf c

/-- The command for a remote login through a host port. -/
def sshCommandAt (port : Int) : String := "ssh -p " ++ toString port ++ " root@localhost"

/-- The host port that leads to the login server, if one does. -/
def sshHostPort? (p : PortMapping) : Option Int :=
  if p.privatePort = Catalog.sshContainerPort then p.publicPort.filter (· ≠ 0) else none

def sshCommand? (c : Container) : Option String :=
  (c.ports.findSome? sshHostPort?).map sshCommandAt

end DevEnv.Container
