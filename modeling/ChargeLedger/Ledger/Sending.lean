import ChargeLedger.Ledger.Lifecycle
import ChargeLedger.Ledger.Task
import ChargeLedger.TransactionFile.Layout

/-!
# Sending a bill run

Sending an approved bill run numbers it, as one block: each billable invoice, in invoice
order, takes the region's next transaction number and with it the reference
`<region><I or C><number in seven digits>T` (`C` when its net is below zero); the bill run
takes the next bill run number and, when it bills any invoice, the next file number, whose
file reference it keeps with the time of the file; it becomes pending.

Its transmission runs afterwards: the bill run becomes sending; without a file it ends as
billing not required; otherwise its transaction file is written and delivered, and it ends as
billed. A file the store refuses leaves it sending.
-/

set_option autoImplicit false

namespace ChargeLedger

namespace BillRun

def transactionReference (region : Region) (inv : Invoice) (number : Int64) : String :=
  region.name ++ (if inv.tally.net < 0 then "C" else "I") ++ TransactionFile.padded 7 number.toInt ++ "T"

/-- Hands out a regime's next number of a sequence, or fails when it has no counter. -/
def nextNumber (now : Instant) (ref : BillRunRef) (b : BillRun) (q : Sequence) : Op Int64 := do
  let n ← Store.next q b.regimeId b.region now
  Op.require (n != 0) (.counterMissing ref.regimeSlug b.region.name)
  pure n

/-- Numbers the billable invoices and the bill run, and marks it pending. -/
def assignReferences (now : Instant) (ref : BillRunRef) (b : BillRun) : Op Unit := do
  let billable := ((← get).invoicesOf b.id).filter (·.isBillable)
  billable.forM fun inv => do
    let n ← nextNumber now ref b .transaction
    Store.setReference inv.id (transactionReference b.region inv n) now
  let number ← nextNumber now ref b .billRun
  let file ← if billable.isEmpty then pure none
    else do
      let f ← Store.next .file b.regimeId b.region now
      pure (some (TransactionFile.reference b.region.name f.toInt))
  if !(← Store.assignFile b.id number file (file.map fun _ => now) .approved .pending now) then
    conflict b.id .approved

/-- Sends an approved bill run; its transmission is left to run after. -/
def send (now : Instant) (ref : BillRunRef) : Op Task := do
  let b ← Op.billRunOf ref
  Op.require (b.status == .approved) (.statusConflict b.id .approved)
  Store.atomically (assignReferences now ref b)
  pure (.transmit ref)

/-- Transmits a sent bill run; the files delivered come back. -/
def transmit (env : Env) (ref : BillRunRef) : Op (List Upload) := do
  transition env.now ref.billRunId .pending .sending
  let b ← Op.billRunOf ref
  match b.fileReference with
  | none =>
    transition env.now b.id .sending .billingNotRequired
    pure []
  | some reference =>
    let (content, _) := TransactionFile.render (← get) b (b.fileCreatedAt.getD env.now)
    match env.uploadRefusal with
    | some message => throw (.uploadFailed message)
    | none =>
      transition env.now b.id .sending .billed
      pure [⟨TransactionFile.storageKey ref.regimeSlug reference, content⟩]

end BillRun

end ChargeLedger
