import Stagecraft.Codec.Flattening
import Stagecraft.Codec.ProgramFile
import Stagecraft.Codec.RunResult
import Stagecraft.Main
import Stagecraft.Program.WellFormed
import Stagecraft.Proofs.Codec.Program
import Stagecraft.Proofs.Codec.RunData
import Stagecraft.Proofs.Codec.Schema
import Stagecraft.Proofs.Flattening.EmptyRuns
import Stagecraft.Proofs.Ident.Correspondence
import Stagecraft.Proofs.Name.Assessment
import Stagecraft.Proofs.Program.Agreement
import Stagecraft.Proofs.Program.BodyText
import Stagecraft.Proofs.Program.Building
import Stagecraft.Proofs.Program.Content
import Stagecraft.Proofs.Program.Frame
import Stagecraft.Proofs.Program.History
import Stagecraft.Proofs.Program.Identity
import Stagecraft.Proofs.Program.Preservation
import Stagecraft.Proofs.Program.Reordering
import Stagecraft.Proofs.Program.Undo
import Stagecraft.Proofs.Program.Wording
import Stagecraft.Proofs.Session.Focus
import Stagecraft.Proofs.Session.Refusal
import Stagecraft.Proofs.Session.Report
import Stagecraft.Proofs.Session.Snapshot
import Stagecraft.Proofs.Shell.Check
import Stagecraft.Proofs.Shell.Saving
import Stagecraft.Proofs.SourceMap.Diagnosis
