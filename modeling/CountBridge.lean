import CountBridge.Bootstrap.Race
import CountBridge.Config.Environment
import CountBridge.Logging.Filter
import CountBridge.Program.Run
import CountBridge.Program.Transcript
import CountBridge.Queue.Threads
import CountBridge.Proofs.Repayment
import CountBridge.Proofs.Accounts
import CountBridge.Proofs.SideBySide
import CountBridge.Proofs.Continuity
import CountBridge.Proofs.Worlds
import CountBridge.Proofs.Accounting
import CountBridge.Proofs.ObjectSystem
import CountBridge.Proofs.Boundary
import CountBridge.Proofs.Messages
import CountBridge.Proofs.Bootstrapping
import CountBridge.Proofs.Repetitions
import CountBridge.Proofs.Sessions
import CountBridge.Proofs.Alongside
import CountBridge.Proofs.Resolving
import CountBridge.Proofs.Performing
import CountBridge.Proofs.Running
import CountBridge.Proofs.Programs
import CountBridge.Proofs.DeferredRelease
import CountBridge.Proofs.Holders
import CountBridge.Proofs.Trapping
import CountBridge.Proofs.Faults
import CountBridge.Proofs.Origins
import CountBridge.Proofs.HookAnswers
import CountBridge.Proofs.SharedQueue
import CountBridge.Proofs.OneShot
import CountBridge.Proofs.Conduct
import CountBridge.Proofs.Upholding
import CountBridge.Proofs.Balance
import CountBridge.Proofs.Calls
import CountBridge.Proofs.Dealings
import CountBridge.Proofs.Bookkeeping
import CountBridge.Proofs.HeapActing
import CountBridge.Proofs.Acting
import CountBridge.Proofs.Scopes
import CountBridge.Proofs.Stewardship
import CountBridge.Proofs.Enclosing
import CountBridge.Proofs.Heeding
import CountBridge.Proofs.Contract
import CountBridge.Proofs.Leaks
import CountBridge.Proofs.Backlog
import CountBridge.Proofs.Lasting
import CountBridge.Proofs.Deferral
import CountBridge.Proofs.Confluence
import CountBridge.Proofs.Wording
import CountBridge.Proofs.Maintaining
import CountBridge.Proofs.TextIntegrity
import CountBridge.Proofs.Timeline
import CountBridge.Proofs.RoundTrip
import CountBridge.Proofs.Readings
import CountBridge.Proofs.ScopedRelease
import CountBridge.Proofs.Lifetimes
import CountBridge.Proofs.Cascades
import CountBridge.Proofs.Clamping
import CountBridge.Proofs.Sparing
import CountBridge.Proofs.ErrorBuilding
import CountBridge.Proofs.ReadOnly
import CountBridge.Proofs.Census
import CountBridge.Proofs.Settings
import CountBridge.Proofs.Turnover
import CountBridge.Proofs.Charging
