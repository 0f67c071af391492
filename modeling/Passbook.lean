import Passbook.Main
import Passbook.Proofs.Decimal.Bracket
import Passbook.Proofs.Posting
import Passbook.Proofs.LedgerPosting
import Passbook.Proofs.SharedLedgerPosting
import Passbook.Proofs.Change
import Passbook.Proofs.Lawful
import Passbook.Proofs.OverdraftBound
import Passbook.Proofs.History
import Passbook.Proofs.Replay
import Passbook.Proofs.Holdings
import Passbook.Proofs.Conservation
import Passbook.Proofs.Batch.Roots
import Passbook.Proofs.Batch.Groups
import Passbook.Proofs.Interleaving
import Passbook.Proofs.Picture
import Passbook.Proofs.Bare
import Passbook.Proofs.Likeness
import Passbook.Proofs.Barrier
import Passbook.Proofs.Batch.Orders
import Passbook.Proofs.Batch.Components
import Passbook.Proofs.Batch.Sequential
import Passbook.Proofs.Agreement
import Passbook.Proofs.Refusals
import Passbook.Proofs.Trail
import Passbook.Proofs.Rights
import Passbook.Proofs.Workers
import Passbook.Proofs.Batch.Schedules
import Passbook.Proofs.Statement
import Passbook.Proofs.Strategies
import Passbook.Proofs.Solvency
import Passbook.Proofs.Decimal.Places
import Passbook.Proofs.Denomination
import Passbook.Proofs.Decimal.Reading
import Passbook.Proofs.Booked
import Passbook.Proofs.Decimal.Worth
import Passbook.Proofs.Atomicity
import Passbook.Proofs.Coherence
import Passbook.Proofs.Numbering
import Passbook.Proofs.Parallel
import Passbook.Proofs.Footprint
import Passbook.Proofs.Decimal.Range
import Passbook.Proofs.Decimal.Nearest
import Passbook.Proofs.Interest
import Passbook.Proofs.Allowance
import Passbook.Proofs.Decimal.Fixed
import Passbook.Proofs.AccountsTable
import Passbook.Proofs.Total
import Passbook.Proofs.Script.Batches
import Passbook.Proofs.Written
import Passbook.Proofs.CreditAll
import Passbook.Proofs.Script.Grammar
import Passbook.Proofs.Script.Lines
import Passbook.Proofs.Chronology
import Passbook.Proofs.Batch.Climbs
import Passbook.Proofs.FirstFree
