import Birthright.Applicant
import Birthright.Application.Command
import Birthright.Application.Failure
import Birthright.Application.Files
import Birthright.Application.Help
import Birthright.Application.Run
import Birthright.Calendar.AgeGap
import Birthright.Calendar.Date
import Birthright.Calendar.Instant
import Birthright.Calendar.Pattern
import Birthright.Calendar.Reading
import Birthright.Claim
import Birthright.Collaborator.Failure
import Birthright.Collaborator.InMemory
import Birthright.Collaborator.Inquiry
import Birthright.Collaborator.Ledger
import Birthright.Decimal.Binary
import Birthright.Decimal.Shortest
import Birthright.Document
import Birthright.Eligibility.Evaluation
import Birthright.Eligibility.Failure
import Birthright.Eligibility.Guardian
import Birthright.Eligibility.Parent
import Birthright.Eligibility.Reference
import Birthright.Eligibility.Rules
import Birthright.Eligibility.Verdict
import Birthright.Fixture
import Birthright.Http.Message
import Birthright.Http.Path
import Birthright.Http.Resource
import Birthright.Identity
import Birthright.Json.Number
import Birthright.Json.Text
import Birthright.Json.Token
import Birthright.Json.Value
import Birthright.Json.Written
import Birthright.Label
import Birthright.Lineage
import Birthright.Log
import Birthright.Main
import Birthright.Proofs.Collaborator.Conduct
import Birthright.Proofs.Collaborator.Disruption
import Birthright.Proofs.Eligibility.Acceptance
import Birthright.Proofs.Eligibility.Conduct
import Birthright.Proofs.Verification.Conduct
import Birthright.Proofs.Verification.Interleaving
import Birthright.Proofs.Verification.Recount
import Birthright.Proofs.Verification.UnderWay
import Birthright.Proofs.Verification.UsageLimit
import Birthright.Regular.Bracket
import Birthright.Regular.Escape
import Birthright.Regular.Expression
import Birthright.Relationship
import Birthright.Settings.Address
import Birthright.Settings.Configuration
import Birthright.Settings.EnvFile
import Birthright.Settings.LogFilter
import Birthright.Table
import Birthright.Text.Alphanumeric
import Birthright.Text.Blank
import Birthright.Text.CaseTable
import Birthright.Text.HiddenTable
import Birthright.Text.LowerCase
import Birthright.Text.Numeral
import Birthright.Text.Quoted
import Birthright.Verification.Audit
import Birthright.Verification.Outcome
import Birthright.Verification.Service
import Birthright.Proofs.Collaborator.History
import Birthright.Proofs.Eligibility.Strictness
import Birthright.Proofs.Eligibility.Renewal
import Birthright.Proofs.Verification.Course
import Birthright.Proofs.Verification.Charges
import Birthright.Proofs.Verification.Undisturbed
import Birthright.Proofs.Verification.Accounts
import Birthright.Proofs.Verification.Agreement
import Birthright.Proofs.Verification.Reprocessing
import Birthright.Proofs.Eligibility.Order
import Birthright.Proofs.Eligibility.Reached
import Birthright.Proofs.Eligibility.Requirements
import Birthright.Proofs.Eligibility.Rejection
import Birthright.Proofs.Eligibility.Containment
import Birthright.Proofs.Verification.Outages
import Birthright.Proofs.Eligibility.Reasons
import Birthright.Proofs.Verification.Consistency
import Birthright.Proofs.Calendar.AgeGap
import Birthright.Proofs.Calendar.DayCount
import Birthright.Proofs.Calendar.Decomposition
import Birthright.Proofs.Calendar.FixedWidth
import Birthright.Proofs.Verification.Effects
import Birthright.Proofs.Collaborator.Renaming
import Birthright.Proofs.Eligibility.Masking
import Birthright.Proofs.Collaborator.RenamedMemory
import Birthright.Proofs.Verification.Masking
import Birthright.Proofs.Http.History
import Birthright.Proofs.Json.Quoted
import Birthright.Proofs.Json.Integer
import Birthright.Proofs.Json.Machine
import Birthright.Proofs.Json.Spelling
import Birthright.Proofs.Json.RoundTrip
import Birthright.Proofs.Json.DirectRead
import Birthright.Proofs.Text.LowerCase
import Birthright.Proofs.Text.Words
import Birthright.Proofs.Text.Labels
import Birthright.Proofs.Calendar.Monotone
import Birthright.Proofs.Eligibility.LineageComparison
import Birthright.Proofs.Calendar.InstantText
import Birthright.Proofs.Json.Records
import Birthright.Proofs.Verification.StoredForms
