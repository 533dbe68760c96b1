import LockLender.Address.Reader
import LockLender.Borrower.Turns
import LockLender.Fleet.Turns
import LockLender.Gate.Turns
import LockLender.HoldLog
import LockLender.Lender.Turns
import LockLender.Link.Metrics
import LockLender.Link.Pool.Turns
import LockLender.Link.Remote
import LockLender.Main
import LockLender.Operator
import LockLender.Proofs.Borrower.Owed
import LockLender.Proofs.Borrower.Toll
import LockLender.Proofs.Borrower.Wakeup
import LockLender.Proofs.Fleet.Handback
import LockLender.Proofs.Fleet.Progress
import LockLender.Proofs.Fleet.Recall
import LockLender.Proofs.Fleet.StaleRetry
import LockLender.Proofs.Fleet.Succession
import LockLender.Proofs.Fleet.Visit
import LockLender.Proofs.Gate.Tally
import LockLender.Proofs.Gate.Wakeup
import LockLender.Proofs.HoldLog
import LockLender.Proofs.Lender.Repeats
import LockLender.Proofs.Link.Answering
import LockLender.Proofs.Link.Eviction
import LockLender.Proofs.Link.Labels
import LockLender.Proofs.Link.Oversize
import LockLender.Proofs.Link.Traffic
import LockLender.Proofs.Link.Transparency
import LockLender.Proofs.Link.Unanswered
import LockLender.Proofs.Operator
import LockLender.Proofs.Settings
import LockLender.Proofs.Text.Size
import LockLender.Proofs.Wire.Corruption
import LockLender.Proofs.Wire.Reader
import LockLender.Proofs.Wire.Size
import LockLender.Script
import LockLender.Service
import LockLender.Settings.File
import LockLender.Wire.Stream
import LockLender.Workload
