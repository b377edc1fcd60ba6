import ChargeLedger.Ledger.Task

/-!
# Deleting licences and invoices

A licence or an invoice can be deleted from a bill run that takes changes. The request only
checks that it is there; the removal runs afterwards.

The removal marks the bill run pending (it fails when the bill run has left the status it had
when the request was made), then, as one block, takes the tally of the removed lines off the
bill run (and, for a licence, off its invoice), deletes the licence or invoice with its lines,
deletes an invoice left without licences, and, when the bill run was generated, derives the
flags of the invoice left behind and the bill run's summary again. Last the bill run goes back
to the status it had, or to initialised when it has no invoices left; after a failed block it
goes back to the status it had.
-/

set_option autoImplicit false

namespace ChargeLedger

namespace Deletion

/-- The bill run a request names, if it takes changes. -/
def editableBillRun (ref : BillRunRef) : Op BillRun := do
  let b ← Op.billRunOf ref
  Op.require b.status.editable (.notEditable b.id b.status)
  pure b

/-- Asks for a licence to be deleted; the removal is left to run after. -/
def deleteLicence (ref : BillRunRef) (licence : Uuid) : Op Task := do
  let b ← editableBillRun ref
  Op.require ((← get).licenceOn? b.id licence).isSome (.licenceNotFound licence)
  pure (.removeLicence ref b.status licence)

/-- Asks for an invoice to be deleted; the removal is left to run after. -/
def deleteInvoice (ref : BillRunRef) (invoice : Uuid) : Op Task := do
  let b ← editableBillRun ref
  Op.require ((← get).invoiceOn? b.id invoice).isSome (.invoiceNotFound invoice)
  pure (.removeInvoice ref b.status invoice)

/-- Takes a tally off a pending bill run. -/
def subtract (now : Instant) (billRun : Uuid) (reverse : Tally) : Op Unit := do
  Op.require (← Store.addBillRunTally billRun reverse [.pending] now)
    (.statusConflict billRun .pending)

def linesTally (lines : List Transaction) : Tally := Tally.sum (lines.map (·.tally))

/-- Removes a licence; the invoice it leaves behind, unless that went too. -/
def removeLicence (now : Instant) (billRun licenceId : Uuid) : Op (Option Uuid) := do
  let s ← get
  let some lic := s.licenceOn? billRun licenceId | throw (.licenceNotFound licenceId)
  let reverse := -linesTally (s.transactionsOfLicence lic.id)
  subtract now billRun reverse
  let _ ← Store.addInvoiceTally lic.invoiceId reverse now
  Store.deleteLicence lic.id
  if (← get).licenceCount lic.invoiceId > 0 then pure (some lic.invoiceId)
  else
    Store.deleteInvoice lic.invoiceId
    pure none

/-- Removes an invoice. -/
def removeInvoice (now : Instant) (billRun invoiceId : Uuid) : Op (Option Uuid) := do
  let s ← get
  let some inv := s.invoiceOn? billRun invoiceId | throw (.invoiceNotFound invoiceId)
  subtract now billRun (-linesTally (s.transactionsOfInvoice inv.id))
  Store.deleteInvoice inv.id
  pure none

/-- Derives again the flags of the invoice left behind and the bill run's summary. -/
def resummarise (env : Env) (slug : String) (billRun : Uuid) (left : Option Uuid) : Op Unit := do
  match left with
  | some invoiceId =>
    let s ← get
    let some inv := s.invoice? invoiceId | throw (.invoiceNotFound invoiceId)
    let charged := (s.transactionsOfInvoice invoiceId).any (·.minimumChargeAdjustment)
    Store.setFlags invoiceId
      (InvoiceFlags.derive inv.tally charged (env.thresholds.lookup slug).deminimisLimit) env.now
  | none => pure ()
  let invoices := (← get).invoicesOf billRun
  let _ ← Store.setSummary billRun
    (Summary.ofInvoices (invoices.map fun i => (i.flags.summarised, i.tally))) .pending .pending env.now

/-- Runs a removal on a bill run that had status `prior`. -/
def cascade (env : Env) (ref : BillRunRef) (prior : Status) (remove : Op (Option Uuid)) :
    Op Unit := do
  let id := ref.billRunId
  Op.require (← Store.setStatus id [prior] .pending env.now) (.statusConflict id prior)
  let outcome ← tryCatch
    (do
      Store.atomically do
        let left ← remove
        if prior == .generated then resummarise env ref.regimeSlug id left
      pure none)
    (fun e => pure (some e))
  let remaining := (← get).invoiceCount id
  let restore := match outcome with
    | none => if remaining == 0 then Status.initialised else prior
    | some _ => prior
  let _ ← Store.setStatus id [.pending] restore env.now
  match outcome with
  | none => pure ()
  | some e => throw e

end Deletion

end ChargeLedger
