import ChargeLedger.Ledger.Posting
import ChargeLedger.Ledger.Task

/-!
# Rebilling an invoice

An invoice of a billed bill run can be rebilled onto another bill run of the same regime,
region and ruleset that takes changes. The target gets two new invoices for the invoice's
customer and year, both naming it: a cancel copy and a rebill copy. An invoice is rebilled at
most once, and a cancel copy is never rebilled.

The checks come in this order: the target exists; the invoice exists in the regime; its bill
run is billed; it is not on the target; it is no cancel copy; it has no copies yet; regions
match; rulesets match; the target takes changes.

The lines are copied afterwards, licence by licence: each line goes to the cancel copy with
its side turned over and to the rebill copy as it is, each copy naming the line it copies.
-/

set_option autoImplicit false

namespace ChargeLedger

namespace Rebill

/-- The invoice a rebill request names, with the bill run it is rebilled onto, if the request
passes its checks. -/
def check (ref : BillRunRef) (invoiceId : Uuid) : Op (BillRun × Invoice) := do
  let target ← Op.billRunOf ref
  let s ← get
  let some rebilled := s.invoice? invoiceId | throw (.invoiceNotFound invoiceId)
  let some source ← Store.readRow BillRun.readable (s.billRun? rebilled.billRunId)
    | throw (.invoiceNotFound invoiceId)
  Op.require (source.regimeId == target.regimeId) (.invoiceNotFound invoiceId)
  Op.require (source.status == .billed) (.rebillSourceNotBilled rebilled.id source.id)
  Op.require (rebilled.billRunId != target.id) (.rebillSameBillRun rebilled.id target.id)
  Op.require (rebilled.kind != .cancel) (.rebillCancelInvoice rebilled.id)
  Op.require (s.copiesOf rebilled.id).isEmpty (.rebillAlreadyRebilled rebilled.id)
  Op.require (source.region == target.region)
    (.rebillRegionMismatch rebilled.id source.region.name target.id target.region.name)
  Op.require (source.ruleset == target.ruleset)
    (.rebillRulesetMismatch rebilled.id source.ruleset.name target.id target.ruleset.name)
  Op.require target.status.editable (.notEditable target.id target.status)
  pure (target, rebilled)

def copy (id : Uuid) (rebilled : Invoice) (billRun : Uuid) (kind : InvoiceKind) (now : Instant) :
    Invoice :=
  { id, billRunId := billRun, customerReference := rebilled.customerReference,
    financialYear := rebilled.financialYear, kind, rebilledInvoiceId := some rebilled.id,
    createdAt := now, updatedAt := now }

/-- Adds a copy, refusing it when the bill run has one of its kind for its customer and year. -/
def insertCopy (inv : Invoice) : Op Unit := do
  Op.require (← Store.insertInvoice inv)
    (.duplicateInvoice inv.billRunId inv.kind.letter inv.customerReference inv.financialYear)

/-- Rebills an invoice onto a bill run for `actor`; the cancel and rebill copies come back,
with the copying of the lines left to run after. -/
def rebill (now : Instant) (ref : BillRunRef) (invoiceId : Uuid) (actor : String) :
    Op (Invoice × Invoice × Task) := do
  let (target, rebilled) ← check ref invoiceId
  let cancel := copy (← Store.fresh) rebilled target.id .cancel now
  let again := copy (← Store.fresh) rebilled target.id .rebill now
  Store.atomically do
    insertCopy cancel
    insertCopy again
  pure (cancel, again, .copyInvoice rebilled target.id cancel.id again.id actor)

def duplicate (id : Uuid) (t : Transaction) (billRun : Uuid) (flip : Bool) (actor : String) :
    Transaction :=
  { t with id, billRunId := billRun, invoiceId := Uuid.nil, licenceId := Uuid.nil,
           clientId := none, rebilledTransactionId := some t.id, createdBy := actor,
           chargeCredit := if flip then !t.chargeCredit else t.chargeCredit }

/-- Copies the lines of an invoice onto its cancel and rebill copies, as one block. -/
def copyLines (now : Instant) (rebilled : Invoice) (target cancelId rebillId : Uuid)
    (actor : String) : Op Unit :=
  Store.atomically do
    ((← get).licencesOf rebilled.id).forM fun lic => do
      ((← get).transactionsOfLicence lic.id).forM fun t => do
        [(cancelId, true), (rebillId, false)].forM fun dest => do
          let id ← Store.fresh
          let _ ← post now (duplicate id t target dest.2 actor) { invoice := some dest.1 }

end Rebill

end ChargeLedger
