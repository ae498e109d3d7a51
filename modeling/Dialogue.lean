import Dialogue.Main
import Dialogue.Pool
import Dialogue.Script.Listing
import Dialogue.Proofs.Pool.Exclusive
import Dialogue.Proofs.Pool.Registry
import Dialogue.Proofs.Pool.Exhaustion
import Dialogue.Proofs.Run.Correlation
import Dialogue.Proofs.Run.Reference
import Dialogue.Proofs.Script.Compilation
import Dialogue.Proofs.Run.Isolation
import Dialogue.Proofs.Run.Transparency
import Dialogue.Proofs.Run.Multiplex
import Dialogue.Proofs.Protocol.Loading
import Dialogue.Proofs.Run.Sequence
import Dialogue.Proofs.Run.Accounting
import Dialogue.Proofs.Run.Renumbering
import Dialogue.Proofs.Protocol.Fatal
import Dialogue.Proofs.Run.Provenance
import Dialogue.Proofs.Run.Transport
import Dialogue.Proofs.Protocol.Opening
import Dialogue.Proofs.Script.Blocks
import Dialogue.Proofs.Run.Resumption
import Dialogue.Proofs.Protocol.Capturing
import Dialogue.Proofs.Number.Decimal
import Dialogue.Proofs.Json5.Pieces
import Dialogue.Proofs.Json5.Reading
import Dialogue.Proofs.Json5.Record
import Dialogue.Proofs.Config.Reference
import Dialogue.Proofs.Config.Printing
import Dialogue.Proofs.Config.Saving
import Dialogue.Proofs.Script.Guards
import Dialogue.Proofs.Interception
import Dialogue.Proofs.Comparison
import Dialogue.Proofs.Config.Policies
import Dialogue.Proofs.Gathering
import Dialogue.Proofs.Agreement
import Dialogue.Proofs.Issuing
import Dialogue.Proofs.Base64.Canonical
import Dialogue.Proofs.Config.Substitution
import Dialogue.Proofs.Cli.Options
import Dialogue.Proofs.Run.Transcript
import Dialogue.Proofs.Path
import Dialogue.Proofs.Description
import Dialogue.Proofs.Call
import Dialogue.Proofs.Failure
