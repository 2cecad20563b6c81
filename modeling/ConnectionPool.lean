import ConnectionPool.Text.WhiteSpace
import ConnectionPool.Text.Split
import ConnectionPool.Text.Numeral
import ConnectionPool.Text.LetterCase
import ConnectionPool.Text.Quoted
import ConnectionPool.Json.Pattern
import ConnectionPool.Json.Reader
import ConnectionPool.Json.Record
import ConnectionPool.Json.Printer
import ConnectionPool.Address
import ConnectionPool.Config
import ConnectionPool.Connection.Session
import ConnectionPool.Conformance.Run.Perform
import ConnectionPool.Scenario.Perform
import ConnectionPool.WaitQueue.Session
import ConnectionPool.Proofs.Pool.Service
import ConnectionPool.Proofs.Pool.Acquisition
import ConnectionPool.Proofs.Pool.Population
import ConnectionPool.Proofs.Pool.Lifecycle
import ConnectionPool.Proofs.Pool.Loan
import ConnectionPool.Proofs.Pool.Steps
import ConnectionPool.Proofs.Course
import ConnectionPool.Proofs.Custody
import ConnectionPool.Proofs.Reachable
import ConnectionPool.Proofs.Capacity
import ConnectionPool.Proofs.Story
import ConnectionPool.Proofs.System
import ConnectionPool.Proofs.HandOut
import ConnectionPool.Proofs.Settlement
import ConnectionPool.Proofs.Timers
import ConnectionPool.Proofs.LifeCycle
import ConnectionPool.Proofs.AddressText
import ConnectionPool.Proofs.AddressGrammar
import ConnectionPool.Proofs.WireFormats
import ConnectionPool.Proofs.Pool.Progress
import ConnectionPool.Proofs.Closed
import ConnectionPool.Proofs.Ledger
import ConnectionPool.Proofs.Attempts
import ConnectionPool.Proofs.PlaceInLine
import ConnectionPool.Proofs.RunLoop
import ConnectionPool.Proofs.Withdrawal
import ConnectionPool.Proofs.ClosedAgain
import ConnectionPool.Proofs.Isolation
import ConnectionPool.Proofs.LinkCounts
import ConnectionPool.Proofs.BrokenLoans
import ConnectionPool.Proofs.Pool.Lending
import ConnectionPool.Proofs.IdleOrder
import ConnectionPool.Proofs.WorkConserving
import ConnectionPool.Proofs.Pool.Filling
import ConnectionPool.Proofs.LeastSize
import ConnectionPool.Proofs.Pool.Timing
import ConnectionPool.Proofs.Deadlines
import ConnectionPool.Proofs.Offers
import ConnectionPool.Proofs.CloseReasons
import ConnectionPool.Proofs.ConfigOptions
import ConnectionPool.Proofs.Patterns
import ConnectionPool.Proofs.Verdicts
import ConnectionPool.Proofs.Watch
import ConnectionPool.Proofs.Threads
