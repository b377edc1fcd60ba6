import ChargeLedger.Ledger.Posting
import ChargeLedger.Ledger.Lifecycle

/-!
# Generating a bill run

Generating summarises an initialised bill run that has transactions. The bill run is marked
generating; then, as one block:

* the minimum charge adjustments of an earlier generation are taken back;
* under presroc, each primary invoice whose lines subject to the minimum charge add up, on
  the debit or the credit side, to more than zero but less than the minimum charge gets an
  adjustment line on that side topping it up to the minimum charge, copied from its first such
  line;
* every invoice gets its flags, from its tally, whether it was topped up, and the de minimis
  limit;
* the bill run gets its summary and becomes generated.

When the block fails the bill run goes back to initialised.
-/

set_option autoImplicit false

namespace ChargeLedger

namespace BillRun

def minimumChargeDescription : String :=
  "Minimum Charge Calculation - raised under Schedule 23 of the Environment Act 1995"

def adjustment (id : Uuid) (template : Transaction) (credit : Bool) (value : Int64) : Transaction :=
  { id, regimeId := template.regimeId, billRunId := template.billRunId,
    customerReference := template.customerReference, region := template.region,
    ruleset := template.ruleset, chargeValue := value, chargeCredit := credit,
    subjectToMinimumCharge := true, minimumChargeAdjustment := true,
    chargeFinancialYear := template.chargeFinancialYear,
    chargePeriodStart := template.chargePeriodStart, chargePeriodEnd := template.chargePeriodEnd,
    areaCode := template.areaCode, lineDescription := minimumChargeDescription,
    licenceNumber := template.licenceNumber, attributes := [template.lineAttr 2],
    createdBy := template.createdBy, createdAt := ⟨0⟩, updatedAt := ⟨0⟩ }

/-- Takes back the adjustment lines an earlier generation raised on a bill run. -/
def removeAdjustments (now : Instant) (id : Uuid) : Op Unit := do
  let stale := (← get).raisedAdjustments id
  if !stale.isEmpty then
    let _ ← Store.addBillRunTally id (Tally.sum (stale.map fun t => -t.tally)) [.generating] now
    stale.forM fun t => do
      let _ ← Store.addInvoiceTally t.invoiceId (-t.tally) now
      let _ ← Store.addLicenceTally t.licenceId (-t.tally) now
    Store.deleteTransactions (stale.map (·.id))

def sidesBelow (inv : Invoice) (floor : Int64) : List (Bool × Int64) :=
  [(false, inv.tally.subjectDebitValue), (true, inv.tally.subjectCreditValue)].filter
    fun side => side.2 > 0 && side.2 < floor

/-- Tops an primary invoice up to the minimum charge; how many lines it raised. -/
def applyMinimumCharge (now : Instant) (inv : Invoice) (floor : Int64) : Op Nat := do
  let sides := sidesBelow inv floor
  if inv.tally.subjectCount == 0 || inv.kind != .primary || sides.isEmpty then return 0
  let lines := (← get).transactionsOfInvoice inv.id
  match lines.find? fun t => t.subjectToMinimumCharge && !t.minimumChargeAdjustment with
  | none => throw (.noMinimumChargeLines inv.id)
  | some template =>
    sides.forM fun side => do
      let id ← Store.fresh
      let _ ← post now (adjustment id template side.1 (floor - side.2))
        { invoice := some inv.id, allowed := [.generating] }
    return sides.length

/-- Tops up every invoice of a list; the invoices topped up. -/
def applyMinimumCharges (now : Instant) (floor : Int64) : List Invoice → Op (List Uuid)
  | [] => pure []
  | inv :: rest => do
    let raised ← applyMinimumCharge now inv floor
    let others ← applyMinimumCharges now floor rest
    pure (if raised > 0 then inv.id :: others else others)

/-- The block of a generation: adjustments, flags and summary. -/
def summarise (now : Instant) (b : BillRun) (th : Thresholds) : Op Unit := do
  removeAdjustments now b.id
  let charged ← if b.ruleset == .presroc then
      applyMinimumCharges now th.minimumCharge ((← get).invoicesOf b.id)
    else pure []
  let flagged := ((← get).invoicesOf b.id).map fun inv =>
    (inv, InvoiceFlags.derive inv.tally (charged.contains inv.id) th.deminimisLimit)
  flagged.forM fun p => Store.setFlags p.1.id p.2 now
  let summary := Summary.ofInvoices (flagged.map fun p => (p.2.summarised, p.1.tally))
  Op.require (← Store.setSummary b.id summary .generating .generated now)
    (.statusConflict b.id .generating)

/-- Generates a bill run; the generated bill run comes back. -/
def generate (env : Env) (ref : BillRunRef) : Op BillRun := do
  let b ← Op.billRunOf ref
  Op.require (!b.status.isGenerating) (.alreadyGenerating b.id)
  Op.require (b.status != .generated) (.alreadyGenerated b.id)
  Op.require (b.status == .initialised) (.statusConflict b.id .initialised)
  Op.require ((← get).transactionCount b.id != 0) (.noTransactions b.id)
  transition env.now b.id .initialised .generating
  tryCatch (Store.atomically (summarise env.now b (env.thresholds.lookup ref.regimeSlug)))
    fun e => do
      let _ ← Store.setStatus b.id [.generating] .initialised env.now
      throw e
  Op.billRunOf ref

end BillRun

end ChargeLedger
