import Conformance.Main
import Conformance.Toolchain.Scripted
import Conformance.Proofs.Evaluation
import Conformance.Proofs.Protocol
import Conformance.Proofs.Signal
import Conformance.Proofs.Isolation
import Conformance.Proofs.Provenance
import Conformance.Proofs.Freshness
import Conformance.Proofs.Header
import Conformance.Proofs.Annotation
import Conformance.Proofs.Discovery
import Conformance.Proofs.Outcome
import Conformance.Proofs.DryRun
import Conformance.Proofs.Accounting
import Conformance.Proofs.ReadBack
import Conformance.Proofs.Release
import Conformance.Proofs.NormalForm
import Conformance.Proofs.Spelling
import Conformance.Proofs.FirstLine
import Conformance.Proofs.Confinement
import Conformance.Proofs.FirstSignal
import Conformance.Proofs.Waiting
import Conformance.Proofs.Deadline
import Conformance.Proofs.Extension
import Conformance.Proofs.Respelling
import Conformance.Proofs.ReportDocument
import Conformance.Proofs.Paint
import Conformance.Proofs.Fallback
import Conformance.Proofs.WrittenRequest
import Conformance.Proofs.Regrouping
import Conformance.Proofs.Listed
import Conformance.Proofs.Configuration
import Conformance.Proofs.Anchored
import Conformance.Proofs.Survivors
import Conformance.Proofs.Strikes
