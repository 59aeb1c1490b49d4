import Verdict.Main
import Verdict.Proofs.Literal.Reading
import Verdict.Proofs.Protocol.Acceptance
import Verdict.Proofs.Protocol.Merging
import Verdict.Proofs.Record.RoundTrip
import Verdict.Proofs.Exec.Classification
import Verdict.Proofs.Exec.OrdinaryOutput
import Verdict.Proofs.Execution.Entries
import Verdict.Proofs.Execution.Containment
import Verdict.Proofs.Protocol.Outputs
import Verdict.Proofs.Exec.Ownership
import Verdict.Proofs.Protocol.Agreement
import Verdict.Proofs.Execution.Interleaving
import Verdict.Proofs.Exec.Retries
import Verdict.Proofs.Execution.BrokenSinks
import Verdict.Proofs.App.ExitCode
import Verdict.Proofs.Exec.Missing
import Verdict.Proofs.Exec.Directories
import Verdict.Proofs.Execution.Delivery
import Verdict.Proofs.Progress.Bookkeeping
import Verdict.Proofs.Execution.Calls
import Verdict.Proofs.Execution.DistinctNames
import Verdict.Proofs.Journal.Framing
import Verdict.Proofs.Exec.Spawning
import Verdict.Proofs.App.TextSettings
import Verdict.Proofs.Literal.Refusal
import Verdict.Proofs.App.Overrides
