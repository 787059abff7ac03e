import Overseer.Text.Quoted
import Overseer.Json.Label
import Overseer.Json.Reader
import Overseer.Diagnostic.Signal
import Overseer.Session.Script
import Overseer.Session.Transcript
import Overseer.Child.Launcher
import Overseer.CommandLine.Run
import Overseer.Main
import Overseer.Proofs.Supervisor.Soundness
import Overseer.Proofs.Report.TextLog
import Overseer.Proofs.Report.LogGrammar
import Overseer.Proofs.Report.JsonLog
import Overseer.Proofs.Supervisor.PhasePath
import Overseer.Proofs.Supervisor.Budget
import Overseer.Proofs.Child.Polling
import Overseer.Proofs.Supervisor.Comparison
import Overseer.Proofs.Supervisor.Extension
import Overseer.Proofs.Supervisor.Journal
import Overseer.Proofs.Child.Lifecycle
import Overseer.Proofs.CommandLine.ExitCode
import Overseer.Proofs.Supervisor.Series
import Overseer.Proofs.Child.Framing
import Overseer.Proofs.Diagnostic.Unambiguous
import Overseer.Proofs.Supervisor.Handshake
import Overseer.Proofs.Invocation
import Overseer.Proofs.CommandLine.Timeout
import Overseer.Proofs.Child.Characters
import Overseer.Proofs.Child.Lines
import Overseer.Proofs.Report.LogFault
import Overseer.Proofs.Report.LogFile
import Overseer.Proofs.Toolchain.Lookup
import Overseer.Proofs.Session.ReplayExit
import Overseer.Proofs.Diagnostic.SignalTexts
import Overseer.Proofs.Child.Memory
