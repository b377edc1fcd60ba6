import ChargeLedger.Ledger.Env

/-!
# Posting a transaction

Posting adds a transaction's tally to its bill run, to its invoice and to its licence, and
stores it. The bill run must be in one of the statuses the posting allows (initialised or
generated unless it says otherwise); a generated bill run takes the tally and becomes
initialised again. The invoice is the one the posting names, or else the primary invoice of
the transaction's customer and financial year, made when missing; the licence is the one of
its licence number on that invoice, made when missing.

A transaction with a client id is refused when its regime already has one with that id. A
posting is meant to run inside `Store.atomically`, so a refusal leaves no tally behind.
-/

set_option autoImplicit false

namespace ChargeLedger

/-- Where a posting puts its transaction and which bill run statuses take it. -/
structure Posting where
  /-- The invoice to post to; without one, the customer's primary invoice for the year. -/
  invoice : Option Uuid := none
  allowed : List Status := [.initialised, .generated]

/-- The fault for a bill run that did not take a posting. -/
def Posting.refusal (id : Uuid) : Op Unit := do
  match ← Store.readRow BillRun.readable ((← get).billRun? id) with
  | none => throw (.billRunNotFound id)
  | some b => throw (.notEditable b.id b.status)

/-- Posts a transaction made at `now`; the stored transaction comes back. -/
def post (now : Instant) (t : Transaction) (how : Posting) : Op Transaction := do
  let delta := t.tally
  if !(← Store.addBillRunTally t.billRunId delta how.allowed now) then
    Posting.refusal t.billRunId
  let invoiceId ← match how.invoice with
    | some inv => do
      Op.require (← Store.addInvoiceTally inv delta now) (.invoiceNotFound inv)
      pure inv
    | none => Store.upsertInvoice t.billRunId t.customerReference t.chargeFinancialYear delta now
  let licenceId ← Store.upsertLicence t.billRunId invoiceId t.licenceNumber delta now
  let stored := { t with invoiceId, licenceId, createdAt := now, updatedAt := now }
  match stored.clientId with
  | some c =>
    if (← get).clientIdTaken stored.regimeId c then throw (.duplicateClientId c stored.regimeId)
  | none => pure ()
  Store.insertTransaction stored
  pure stored

end ChargeLedger
