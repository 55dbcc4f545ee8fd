import Remittance.Journal.Console
import Remittance.Ledger
import Remittance.Outcome.Supplied
import Remittance.Service
import Remittance.Settings
import Remittance.Proofs.Account.Snapshots
import Remittance.Proofs.Ledger.Posting
import Remittance.Proofs.Settlement.Answers
import Remittance.Proofs.Ledger.Conservation
import Remittance.Proofs.Ledger.Solvency
import Remittance.Proofs.Calendar.DateText
import Remittance.Proofs.Account.Ids
import Remittance.Proofs.Amount
import Remittance.Proofs.Instruction.Parts
import Remittance.Proofs.Settlement.Rulebook
import Remittance.Proofs.Text.Keyword
import Remittance.Proofs.Instruction.Recognizer
import Remittance.Proofs.Account.Places
import Remittance.Proofs.Settlement.Reports
import Remittance.Proofs.Settlement.Faults
import Remittance.Proofs.Settlement.Footprint
import Remittance.Proofs.Ledger.Independence
import Remittance.Proofs.Instruction.Rendering
import Remittance.Proofs.Settlement.Waiting
import Remittance.Proofs.Settlement.Locality
import Remittance.Proofs.Instruction.Sentences
import Remittance.Proofs.Settlement.Forms
import Remittance.Proofs.Ledger.Reversal
import Remittance.Proofs.Instruction.Tokens
import Remittance.Proofs.Settlement.Currencies
import Remittance.Proofs.Settlement.Journal
import Remittance.Proofs.Settlement.Supplied
import Remittance.Proofs.Service.EntryPoints
import Remittance.Proofs.Service.Clients
import Remittance.Proofs.Settlement.Balances
import Remittance.Proofs.Settlement.Replay
import Remittance.Proofs.Ledger.Splitting
import Remittance.Proofs.Journal.Console
import Remittance.Proofs.Instruction.Trailing
import Remittance.Proofs.Instruction.Recasing
import Remittance.Proofs.Settlement.Recasing
import Remittance.Proofs.Settlement.Fields
import Remittance.Proofs.Account.Transfers
import Remittance.Proofs.Settlement.Respacing
import Remittance.Proofs.Text.Scan
