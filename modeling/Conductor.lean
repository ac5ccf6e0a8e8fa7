import Conductor.Json.Reader
import Conductor.Diagnostic.Decode
import Conductor.World.Script
import Conductor.Proofs.Lookup
import Conductor.Proofs.Pipeline
import Conductor.Proofs.Order
import Conductor.Proofs.Lifetime
import Conductor.Proofs.Stateless
import Conductor.Proofs.Interleaving
import Conductor.Proofs.Creation
import Conductor.Proofs.Capture
import Conductor.Proofs.Stages
import Conductor.Proofs.DiagnosticJson
import Conductor.Proofs.FailureShape
import Conductor.Proofs.Independence
import Conductor.Proofs.Cleanup
import Conductor.Proofs.DiagnosticForms
import Conductor.Proofs.DiagnosticFaults
import Conductor.Proofs.ManifestShape
import Conductor.Proofs.Precedence
import Conductor.Proofs.ManifestText
import Conductor.Proofs.DiagnosticSteps
import Conductor.Proofs.DiagnosticText
import Conductor.Proofs.NameDraws
