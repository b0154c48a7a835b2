import ControlPlane.Config.Basic
import ControlPlane.Json.Reader
import ControlPlane.Json.Writer
import ControlPlane.Proofs.Constraints.Concatenation
import ControlPlane.Proofs.Environment.Verdicts
import ControlPlane.Proofs.Machine.Addition
import ControlPlane.Proofs.Machine.Allocation
import ControlPlane.Proofs.Machine.Hosting
import ControlPlane.Proofs.Machine.Layering
import ControlPlane.Proofs.Machine.Prechecks
import ControlPlane.Proofs.Machine.Requirements
import ControlPlane.Proofs.Records.RoundTrip
import ControlPlane.Proofs.StateServers.Agreement
import ControlPlane.Proofs.StateServers.Bootstrap
import ControlPlane.Proofs.StateServers.Quorum
import ControlPlane.Proofs.StateServers.Target
import ControlPlane.Proofs.Store.Commuting
import ControlPlane.Proofs.Store.Representation
import ControlPlane.Proofs.Json.Equality
import ControlPlane.Proofs.Store.Union
import ControlPlane.Proofs.Number.Decimals
import ControlPlane.Proofs.Constraints.Exactness
import ControlPlane.Proofs.Machine.Reporting
