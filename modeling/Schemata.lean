import Schemata.Builder
import Schemata.CommandLine.Disk
import Schemata.Form.Digest
import Schemata.CommandLine.Command
import Schemata.Outline
import Schemata.Proofs.Partition
import Schemata.Proofs.Pointer
import Schemata.Proofs.Rendering
import Schemata.Proofs.RoundTrip
import Schemata.Walk
import Schemata.Workspace
import Schemata.Form.Obstacle
import Schemata.Proofs.Rebuild
import Schemata.Proofs.Comparison
import Schemata.Proofs.Fingerprint
import Schemata.Proofs.Pieces
import Schemata.Proofs.Visit
import Schemata.Proofs.Anchored
import Schemata.Proofs.Held
import Schemata.Proofs.Steps
import Schemata.Proofs.Agreement
import Schemata.Proofs.Built
import Schemata.Proofs.Lasting
import Schemata.Proofs.Boundary
import Schemata.Proofs.Assembly
import Schemata.Proofs.Offender
import Schemata.Proofs.Rearrangement
import Schemata.Proofs.Congruence
import Schemata.Proofs.Documents
import Schemata.Proofs.Importing
import Schemata.Proofs.Locating
import Schemata.Proofs.Delivery
import Schemata.Proofs.Hashing
import Schemata.Proofs.Undefined
import Schemata.Proofs.Caption
import Schemata.Proofs.Definitions
import Schemata.Proofs.Stored
import Schemata.Proofs.Escaping
import Schemata.Proofs.Settings
