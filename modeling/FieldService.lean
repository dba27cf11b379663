import FieldService.Lifecycle.Handling
import FieldService.Lifecycle.FeePayment
import FieldService.Lifecycle.Terminal
import FieldService.Lifecycle.Agreement
import FieldService.Lifecycle.Surcharge
import FieldService.Wallet.Commands
import FieldService.Wallet.Balance
import FieldService.Gateway.System
import FieldService.Gateway.Steps
import FieldService.Gateway.Outcome
import FieldService.Gateway.Expiry
import FieldService.Gateway.Authenticity
import FieldService.Gateway.Uninterrupted
import FieldService.Library.Grouping
import FieldService.Library.Thresholds
import FieldService.Payout.Factory
import FieldService.Payout.Lines
import FieldService.Payout.Accounting
import FieldService.Wallet.Regeneration
import FieldService.Wallet.Crediting
import FieldService.Library.Interleaving
import FieldService.Wallet.Concurrency
import FieldService.Payout.Progress
import FieldService.Lifecycle.Feeds
import FieldService.Lifecycle.Crew
import FieldService.Lifecycle.Rescheduled
import FieldService.Gateway.Publication
import FieldService.Payout.Scheduling
import FieldService.Payout.Confirmation
import FieldService.Payout.Payments
import FieldService.Payout.ReturnFiles
import FieldService.Payout.PaymentFiles
import FieldService.Payout.Batches
import FieldService.Payout.Uploads
import FieldService.Payout.Stranded
import FieldService.Orders.Tiers
import FieldService.Orders.Order
import FieldService.Dispatching.Overlap
import FieldService.Dispatching.Candidates
import FieldService.Dispatching.Ticket
import FieldService.Dispatching.Appointments
import FieldService.Dispatching.Bookings
import FieldService.Dispatching.Mirror
import FieldService.Dispatching.Racing
import FieldService.Dispatching.AutoAssignment
import FieldService.Lifecycle.OnceRescheduled
import FieldService.Dispatching.Skills
import FieldService.Orders.Promotions
import FieldService.Orders.Placing
import FieldService.Library.Delimited
import FieldService.Payout.Texts
import FieldService.Payout.ScbRecords
import FieldService.Payout.Reports
import FieldService.Auth.Texts
import FieldService.Auth.PhoneVerification
import FieldService.Auth.OtpBinding
import FieldService.Library.Commands
import FieldService.Accounts.Services
import FieldService.Accounts.Outcomes
import FieldService.Accounts.Coherence
import FieldService.Accounts.Providers
import FieldService.Accounts.Dealers
import FieldService.Accounts.Replacement
import FieldService.Accounts.Keeping
import FieldService.Accounts.Passwords
import FieldService.Accounts.Sessions
import FieldService.Orders.Quantities
import FieldService.Orders.ProviderPrices
import FieldService.Orders.GroupPrices
import FieldService.Orders.Patching
import FieldService.Lifecycle.TwoPhase
import FieldService.Orders.Revision
import FieldService.Dispatching.Scanning
import FieldService.Library.Rounding
import FieldService.Payout.Amounts
import FieldService.Payout.ControlTotals
import FieldService.Payout.DebitAccounts
import FieldService.Orders.Remarks
import FieldService.Payout.Summaries
import FieldService.Orders.TechnicalNotes
import FieldService.Lifecycle.Checkout
import FieldService.Orders.NoteReplacement
import FieldService.Payout.JobNumbers
import FieldService.Lifecycle.HourWindows
import FieldService.Dispatching.Distances
import FieldService.Lifecycle.Reminders
import FieldService.Library.Lexicographic
import FieldService.Wallet.Solvency
import FieldService.Wallet.Signals
import FieldService.Lifecycle.Recovery
import FieldService.Payout.Returned
import FieldService.Dispatching.Offers
import FieldService.Versions
import FieldService.Dispatching.DayLists
import FieldService.Wallet.Earnings
