import DevEnv.Main
import DevEnv.Rehearsal.Daemon
import DevEnv.Rehearsal.Pipeline
import DevEnv.Rehearsal.PortProbe
import DevEnv.Rehearsal.Roster
import DevEnv.Proofs.CommandLine.Concealment
import DevEnv.Proofs.CommandLine.Output
import DevEnv.Proofs.CommandLine.PortCheck
import DevEnv.Proofs.CommandLine.Refinement
import DevEnv.Proofs.CommandLine.Watching
import DevEnv.Proofs.Container.Details
import DevEnv.Proofs.Container.Find
import DevEnv.Proofs.Container.Search
import DevEnv.Proofs.Container.Visible
import DevEnv.Proofs.Daemon.Bindings
import DevEnv.Proofs.Dockerfile.Dropping
import DevEnv.Proofs.Dockerfile.SecretWords
import DevEnv.Proofs.Dockerfile.Secrets
import DevEnv.Proofs.Environment.LastWrite
import DevEnv.Proofs.Formats
import DevEnv.Proofs.ImageName.NormalForm
import DevEnv.Proofs.Pipeline.Shipment
import DevEnv.Proofs.Pipeline.Transitions
import DevEnv.Proofs.PortProbe.Debounce
import DevEnv.Proofs.PortProbe.Order
import DevEnv.Proofs.Roster.Closing
import DevEnv.Proofs.Roster.Containment
import DevEnv.Proofs.Roster.Discipline
import DevEnv.Proofs.Time.Display
import DevEnv.Proofs.Time.Stamp
import DevEnv.Proofs.Workspace.Variable
