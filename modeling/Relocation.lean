import Relocation.Main
import Relocation.Proofs.Pattern.Ends
import Relocation.Proofs.Pattern.Frame
import Relocation.Proofs.Signature.Trimming
import Relocation.Proofs.FileMap
import Relocation.Proofs.Comparison.Verdict
import Relocation.Proofs.Discovery.Precedence
import Relocation.Proofs.Discovery.Walk
import Relocation.Proofs.Ignore.Containment
import Relocation.Proofs.Discovery.Scope
import Relocation.Proofs.Discovery.Overreach
import Relocation.Proofs.Pattern.Reading
import Relocation.Proofs.Signature.Naming
import Relocation.Proofs.Report.Stream
import Relocation.Proofs.Signature.Subsumption
import Relocation.Proofs.Command.Phases
import Relocation.Proofs.Command.ExitCode
import Relocation.Proofs.Command.Gathering
import Relocation.Proofs.Report.Grammar
import Relocation.Proofs.Report.Document
import Relocation.Proofs.Disk.Writing
import Relocation.Proofs.Report.Pictures
import Relocation.Proofs.Report.Recoding
import Relocation.Proofs.Report.Status
import Relocation.Proofs.Command.Agreement
import Relocation.Proofs.Text.Utf8
import Relocation.Proofs.Text.Storage
import Relocation.Proofs.Comparison.Storage
import Relocation.Proofs.Discovery.Survey
import Relocation.Proofs.Command.Verbosity
import Relocation.Proofs.Disk.Change
import Relocation.Proofs.Discovery.Growth
import Relocation.Proofs.Disk.Rewriting
import Relocation.Proofs.Command.Targets
import Relocation.Proofs.Command.Repetition
import Relocation.Proofs.Ignore.Pieces
import Relocation.Proofs.Ignore.Verdict
import Relocation.Proofs.Discovery.Folders
import Relocation.Proofs.Discovery.Blocked
import Relocation.Proofs.Ignore.Ordinary
import Relocation.Proofs.Ignore.Moving
import Relocation.Proofs.Ignore.Spaces
import Relocation.Proofs.Signature.Scan
import Relocation.Proofs.Signature.Lines
import Relocation.Proofs.Signature.Parts
import Relocation.Proofs.Signature.Declarations
import Relocation.Proofs.Signature.Recognition
import Relocation.Proofs.Signature.Appending
import Relocation.Proofs.Comparison.Accounting
import Relocation.Proofs.Comparison.Namesakes
import Relocation.Proofs.Basename
import Relocation.Proofs.Comparison.Reordering
import Relocation.Proofs.Comparison.Monotone
import Relocation.Proofs.Report.Recovery
