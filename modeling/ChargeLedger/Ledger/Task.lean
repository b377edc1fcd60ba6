import ChargeLedger.Ledger.Env

/-!
# Work left for after a request

Some requests answer at once and leave work to run after them: sending a bill run leaves its
transmission, rebilling an invoice leaves the copying of its lines, and deleting a licence or
an invoice leaves the removal itself. Each piece of work has a name and tags that say what it
is about; when it fails, its fault is reported under them.
-/

set_option autoImplicit false

namespace ChargeLedger

/-- Work a request leaves behind. -/
inductive Task where
  /-- Writes and delivers the transaction file of a sent bill run. -/
  | transmit (ref : BillRunRef)
  /-- Copies the lines of an invoice onto its cancel and rebill copies, made by `actor`. -/
  | copyInvoice (rebilled : Invoice) (target cancelId rebillId : Uuid) (actor : String)
  /-- Removes a licence from a bill run that had status `prior`. -/
  | removeLicence (ref : BillRunRef) (prior : Status) (licence : Uuid)
  /-- Removes an invoice from a bill run that had status `prior`. -/
  | removeInvoice (ref : BillRunRef) (prior : Status) (invoice : Uuid)
  deriving Inhabited

namespace Task

def name : Task → String
  | .transmit _ => "billrun.send"
  | .copyInvoice .. => "rebilling.copy"
  | .removeLicence .. => "deletion.licence"
  | .removeInvoice .. => "deletion.invoice"

def tags : Task → List (String × String)
  | .transmit ref => [("bill_run_id", ref.billRunId.text), ("regime", ref.regimeSlug)]
  | .copyInvoice rebilled target _ _ _ =>
    [("bill_run_id", target.text), ("invoice_id", rebilled.id.text)]
  | .removeLicence ref _ licence => [("bill_run_id", ref.billRunId.text), ("licence_id", licence.text)]
  | .removeInvoice ref _ invoice => [("bill_run_id", ref.billRunId.text), ("invoice_id", invoice.text)]

end Task

/-- A file delivered to the file store: where it went and what it holds. -/
structure Upload where
  key : String
  content : String
  deriving DecidableEq, Repr

end ChargeLedger
