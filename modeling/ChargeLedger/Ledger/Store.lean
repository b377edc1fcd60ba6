import ChargeLedger.Ledger.Records
import ChargeLedger.Fault

/-!
# The store

The ledger's tables as lists in the order their rows were made, with a count of the
identifiers handed out so far. Identifiers grow with that count, so the order of a table is
also the order of its identifiers.

An operation reads and changes the store and may fail with a fault; a failure keeps the
changes made before it, as separate statements against a database do. `atomically` makes a
block all or nothing, as a database transaction does: when the block fails, the tables are as
they were before it, and only the identifiers it drew stay drawn.

The lists a query returns are in the order the ledger shows them: invoices by customer
reference, financial year and kind; licences by licence number; transactions by creation time,
then identifier. Text is compared character by character, which for UTF-8 is the order of its
octets.
-/

set_option autoImplicit false

namespace ChargeLedger

/-- The ledger's tables. -/
structure Store where
  regimes : List Regime := []
  counters : List Counter := []
  billRuns : List BillRun := []
  invoices : List Invoice := []
  licences : List Licence := []
  transactions : List Transaction := []
  /-- How many identifiers have been handed out. -/
  issued : Nat := 0
  deriving Inhabited

abbrev Op := EStateM Fault Store

namespace Store

/-- A new identifier, larger than every one handed out before. -/
def fresh : Op Uuid :=
  modifyGet fun s => (Uuid.ofSerial s.issued, { s with issued := s.issued + 1 })

/-- Runs a block all or nothing: when it fails, the tables are put back as they were. -/
def atomically {α : Type} (x : Op α) : Op α := fun s =>
  match x s with
  | .ok a s' => .ok a s'
  | .error e s' => .error e { s with issued := s'.issued }

/-- A row as it reads back: the row, or `none` when there is none; a row that holds a time
that does not read back (`readable` fails) is a fault. -/
def readRow {α : Type} (readable : α → Bool) : Option α → Op (Option α)
  | some r => if readable r then pure (some r) else throw .unreadableTime
  | none => pure none

/-! ## Finding one row -/

def regimeBySlug (s : Store) (slug : String) : Option Regime := s.regimes.find? (·.slug == slug)

def billRun? (s : Store) (id : Uuid) : Option BillRun := s.billRuns.find? (·.id == id)

def billRunIn? (s : Store) (regime id : Uuid) : Option BillRun :=
  s.billRuns.find? fun b => b.id == id && b.regimeId == regime

def invoice? (s : Store) (id : Uuid) : Option Invoice := s.invoices.find? (·.id == id)

def invoiceOn? (s : Store) (billRun id : Uuid) : Option Invoice :=
  s.invoices.find? fun i => i.id == id && i.billRunId == billRun

def licenceOn? (s : Store) (billRun id : Uuid) : Option Licence :=
  s.licences.find? fun l => l.id == id && l.billRunId == billRun

def counter? (s : Store) (regime : Uuid) (region : Region) : Option Counter :=
  s.counters.find? fun c => c.regimeId == regime && c.region == region

/-! ## Lists in the order they are shown -/

def sortBy {α : Type} (cmp : α → α → Ordering) (xs : List α) : List α :=
  xs.mergeSort fun a b => cmp a b != .gt

def invoiceOrder (a b : Invoice) : Ordering :=
  (compare a.customerReference b.customerReference).then
    ((compare a.financialYear b.financialYear).then (compare a.kind.letter b.kind.letter))

def transactionOrder (a b : Transaction) : Ordering :=
  (compare a.createdAt.storedText b.createdAt.storedText).then (compare a.id.value b.id.value)

def invoicesOf (s : Store) (billRun : Uuid) : List Invoice :=
  sortBy invoiceOrder (s.invoices.filter (·.billRunId == billRun))

def licencesOf (s : Store) (invoice : Uuid) : List Licence :=
  sortBy (fun a b => compare a.licenceNumber b.licenceNumber)
    (s.licences.filter (·.invoiceId == invoice))

def transactionsOfLicence (s : Store) (licence : Uuid) : List Transaction :=
  sortBy transactionOrder (s.transactions.filter (·.licenceId == licence))

def transactionsOfInvoice (s : Store) (invoice : Uuid) : List Transaction :=
  sortBy transactionOrder (s.transactions.filter (·.invoiceId == invoice))

def transactionCount (s : Store) (billRun : Uuid) : Nat :=
  (s.transactions.filter (·.billRunId == billRun)).length

def invoiceCount (s : Store) (billRun : Uuid) : Nat :=
  (s.invoices.filter (·.billRunId == billRun)).length

def licenceCount (s : Store) (invoice : Uuid) : Nat :=
  (s.licences.filter (·.invoiceId == invoice)).length

def copiesOf (s : Store) (invoice : Uuid) : List Invoice :=
  sortBy (fun a b => compare a.kind.letter b.kind.letter)
    (s.invoices.filter (·.rebilledInvoiceId == some invoice))

def raisedAdjustments (s : Store) (billRun : Uuid) : List Transaction :=
  s.transactions.filter fun t =>
    t.billRunId == billRun && t.minimumChargeAdjustment && t.rebilledTransactionId.isNone

def staleIn (s : Store) (status : Status) (cutoff : Instant) (limit : Nat) : List BillRun :=
  (sortBy (fun a b => (compare a.updatedAt.storedText b.updatedAt.storedText).then
      (compare a.id.value b.id.value))
    (s.billRuns.filter fun b =>
      b.status == status && decide (b.updatedAt.storedText < cutoff.storedText))).take limit

def regimesBySlug (s : Store) : List Regime :=
  sortBy (fun a b => compare a.slug b.slug) s.regimes

end Store

end ChargeLedger
