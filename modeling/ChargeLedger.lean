import ChargeLedger.Json.Value
import ChargeLedger.Json.Reader
import ChargeLedger.Json.Writer
import ChargeLedger.Text.Utf8
import ChargeLedger.Decimal
import ChargeLedger.Text.Space
import ChargeLedger.Text.Case
import ChargeLedger.Text.Quoted
import ChargeLedger.Text.Spelling
import ChargeLedger.Calendar
import ChargeLedger.ChargeDate
import ChargeLedger.Ledger.Tally
import ChargeLedger.Ledger.Flags
import ChargeLedger.Ledger.Status
import ChargeLedger.Ledger.Region
import ChargeLedger.Uuid
import ChargeLedger.Fault
import ChargeLedger.Thresholds
import ChargeLedger.Json.Record
import ChargeLedger.Validation
import ChargeLedger.Ledger.Payload
import ChargeLedger.Ledger.Payload.Read
import ChargeLedger.Ledger.Payload.Rules
import ChargeLedger.TransactionFile.Name
import ChargeLedger.Ledger.TallyJson
import ChargeLedger.Ledger.Records
import ChargeLedger.Ledger.Store
import ChargeLedger.Ledger.Store.Write
import ChargeLedger.Ledger.Seed
import ChargeLedger.Rules.Calculation
import ChargeLedger.Rules.Link
import ChargeLedger.Ledger.Env
import ChargeLedger.Ledger.Posting
import ChargeLedger.Ledger.Recording
import ChargeLedger.Ledger.Lifecycle
import ChargeLedger.Ledger.Generation
import ChargeLedger.Ledger.Task
import ChargeLedger.TransactionFile.Layout
import ChargeLedger.Ledger.Sending
import ChargeLedger.Ledger.Rebilling
import ChargeLedger.Ledger.Deletion
import ChargeLedger.Ledger.Recovery
import ChargeLedger.Ledger.Work
import ChargeLedger.Ledger.Views
import ChargeLedger.Api.Url
import ChargeLedger.Api.Slug
import ChargeLedger.Api.Route
import ChargeLedger.Api.Server
import ChargeLedger.Script.Step
import ChargeLedger.Script.Run
import ChargeLedger.Ledger.Request
import ChargeLedger.Ledger.Interleaving
import ChargeLedger.Proofs.Triple
import ChargeLedger.Proofs.Integrity
import ChargeLedger.Proofs.TallyGroup
import ChargeLedger.Proofs.Balance
import ChargeLedger.Proofs.Posting
import ChargeLedger.Proofs.Composite
import ChargeLedger.Proofs.Keeping
import ChargeLedger.Proofs.Generating
import ChargeLedger.Proofs.Removal
import ChargeLedger.Proofs.Requests
import ChargeLedger.Proofs.Rollup
import ChargeLedger.Proofs.Footprint
import ChargeLedger.Proofs.StatusMachine
import ChargeLedger.Proofs.StatusSteps
import ChargeLedger.Proofs.Failures
import ChargeLedger.Proofs.Billed
import ChargeLedger.Proofs.Lineage
import ChargeLedger.Proofs.Rebills
import ChargeLedger.Proofs.Shape
import ChargeLedger.Proofs.Copying
import ChargeLedger.Proofs.Coherence
import ChargeLedger.Proofs.Unnumbering
import ChargeLedger.Proofs.Numbering
import ChargeLedger.Proofs.Sequences
import ChargeLedger.Proofs.Raising
import ChargeLedger.Proofs.CopiedLines
import ChargeLedger.Proofs.Topping
import ChargeLedger.Proofs.Unexpected
import ChargeLedger.Proofs.MinimumCharge
import ChargeLedger.Proofs.Durable
import ChargeLedger.Proofs.Grouping
import ChargeLedger.Proofs.Generated
import ChargeLedger.Proofs.Filing
import ChargeLedger.Proofs.Legibility
import ChargeLedger.Proofs.Pruning
import ChargeLedger.Proofs.Restoring
import ChargeLedger.Proofs.Mirroring
import ChargeLedger.Proofs.CopyTallies
import ChargeLedger.Proofs.SentExactly
import ChargeLedger.Proofs.Ascii
import ChargeLedger.Proofs.ChargeDates
import ChargeLedger.Proofs.Csv
import ChargeLedger.Proofs.FileLayout
import ChargeLedger.Proofs.FilingSteps
import ChargeLedger.Proofs.FileTotals
import ChargeLedger.Proofs.Interleaving
