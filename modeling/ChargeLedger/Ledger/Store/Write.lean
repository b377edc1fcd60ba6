import ChargeLedger.Ledger.Store

/-!
# Writing to the store

Each write is one statement against the tables. A guarded write changes a row only when the
row is in one of the statuses it names and says whether it did. Adding a tally adds it
counter by counter; adding one to a generated bill run sends the bill run back to
initialised. Deleting a bill run, an invoice or a licence deletes what lies below it.

Upserting an invoice or a licence adds the tally to the row with the same key, or makes a
new row holding the tally; either way the row's identifier comes back. A counter hands out
its current number and moves on by one; a counter that does not exist hands out 0.
-/

set_option autoImplicit false

namespace ChargeLedger

/-- The three numbers a counter hands out. -/
inductive Sequence where
  | billRun
  | transaction
  | file
  deriving DecidableEq, Repr

namespace Counter

def number (c : Counter) : Sequence → Int64
  | .billRun => c.billRunNumber
  | .transaction => c.transactionNumber
  | .file => c.fileNumber

def advance (c : Counter) (q : Sequence) (now : Instant) : Counter :=
  match q with
  | .billRun => { c with billRunNumber := c.billRunNumber + 1, updatedAt := now }
  | .transaction => { c with transactionNumber := c.transactionNumber + 1, updatedAt := now }
  | .file => { c with fileNumber := c.fileNumber + 1, updatedAt := now }

end Counter

namespace Store

def mapBillRun (s : Store) (id : Uuid) (f : BillRun → BillRun) : Store :=
  { s with billRuns := s.billRuns.map fun b => if b.id == id then f b else b }

def mapInvoice (s : Store) (id : Uuid) (f : Invoice → Invoice) : Store :=
  { s with invoices := s.invoices.map fun i => if i.id == id then f i else i }

def mapLicence (s : Store) (id : Uuid) (f : Licence → Licence) : Store :=
  { s with licences := s.licences.map fun l => if l.id == id then f l else l }

def guarded (s : Store) (id : Uuid) (allowed : List Status) (f : BillRun → BillRun) : Bool × Store :=
  match s.billRun? id with
  | some b => if allowed.contains b.status then (true, s.mapBillRun id f) else (false, s)
  | none => (false, s)

/-! ## Bill runs -/

/-- Adds a new bill run. -/
def insertBillRun (b : BillRun) : Op Unit := modify fun s => { s with billRuns := s.billRuns ++ [b] }

/-- Moves a bill run from one of the `allowed` statuses to `target`. -/
def setStatus (id : Uuid) (allowed : List Status) (target : Status) (now : Instant) : Op Bool :=
  modifyGet fun s => s.guarded id allowed fun b => { b with status := target, updatedAt := now }

/-- Adds a tally to a bill run in one of the `allowed` statuses; a generated bill run becomes
initialised again. -/
def addBillRunTally (id : Uuid) (delta : Tally) (allowed : List Status) (now : Instant) : Op Bool :=
  modifyGet fun s => s.guarded id allowed fun b =>
    { b with tally := b.tally + delta, updatedAt := now,
             status := if b.status == .generated then .initialised else b.status }

/-- Stores a bill run's summary and moves it from status `source` to `target`. -/
def setSummary (id : Uuid) (summary : Summary) (source target : Status) (now : Instant) : Op Bool :=
  modifyGet fun s => s.guarded id [source] fun b =>
    { b with summary, status := target, updatedAt := now }

/-- Stores a bill run's number and file and moves it from status `source` to `target`. -/
def assignFile (id : Uuid) (number : Int64) (reference : Option String)
    (madeAt : Option Instant) (source target : Status) (now : Instant) : Op Bool :=
  modifyGet fun s => s.guarded id [source] fun b =>
    { b with billRunNumber := some number, fileReference := reference, fileCreatedAt := madeAt,
             status := target, updatedAt := now }

/-- Deletes a bill run with its invoices, licences and transactions. -/
def deleteBillRun (id : Uuid) : Op Unit := modify fun s =>
  { s with
    transactions := s.transactions.filter (·.billRunId != id)
    licences := s.licences.filter (·.billRunId != id)
    invoices := s.invoices.filter (·.billRunId != id)
    billRuns := s.billRuns.filter (·.id != id) }

/-! ## Invoices -/

/-- Adds a tally to the primary invoice of a customer and year on a bill run, making the
invoice if there is none; its identifier comes back. -/
def upsertInvoice (billRun : Uuid) (customer : String) (year : Int) (delta : Tally)
    (now : Instant) : Op Uuid := do
  let id ← fresh
  modifyGet fun s =>
    match s.invoices.find? fun i => i.billRunId == billRun && i.customerReference == customer &&
        i.financialYear == year && i.kind == .primary with
    | some i => (i.id, s.mapInvoice i.id fun r => { r with tally := r.tally + delta, updatedAt := now })
    | none =>
      let inv : Invoice := { id, billRunId := billRun, customerReference := customer,
                             financialYear := year, tally := delta, createdAt := now,
                             updatedAt := now }
      (id, { s with invoices := s.invoices ++ [inv] })

/-- Adds an invoice unless the bill run has one of its kind for its customer and year; says
whether it did. -/
def insertInvoice (inv : Invoice) : Op Bool :=
  modifyGet fun s =>
    if s.invoices.any fun i => i.billRunId == inv.billRunId &&
        i.customerReference == inv.customerReference && i.financialYear == inv.financialYear &&
        i.kind == inv.kind then (false, s)
    else (true, { s with invoices := s.invoices ++ [inv] })

/-- Adds a tally to an invoice; says whether the invoice exists. -/
def addInvoiceTally (id : Uuid) (delta : Tally) (now : Instant) : Op Bool :=
  modifyGet fun s =>
    ((s.invoice? id).isSome,
      s.mapInvoice id fun i => { i with tally := i.tally + delta, updatedAt := now })

/-- Stores an invoice's flags. -/
def setFlags (id : Uuid) (flags : InvoiceFlags) (now : Instant) : Op Unit :=
  modify fun s => s.mapInvoice id fun i => { i with flags, updatedAt := now }

/-- Stores an invoice's transaction reference. -/
def setReference (id : Uuid) (reference : String) (now : Instant) : Op Unit :=
  modify fun s => s.mapInvoice id fun i =>
    { i with transactionReference := some reference, updatedAt := now }

/-- Deletes an invoice with its licences and transactions. -/
def deleteInvoice (id : Uuid) : Op Unit := modify fun s =>
  { s with
    transactions := s.transactions.filter (·.invoiceId != id)
    licences := s.licences.filter (·.invoiceId != id)
    invoices := s.invoices.filter (·.id != id) }

/-! ## Licences and transactions -/

/-- Adds a tally to the licence of a number on an invoice, making the licence if there is
none; its identifier comes back. -/
def upsertLicence (billRun invoice : Uuid) (number : String) (delta : Tally) (now : Instant) :
    Op Uuid := do
  let id ← fresh
  modifyGet fun s =>
    match s.licences.find? fun l => l.invoiceId == invoice && l.licenceNumber == number with
    | some l => (l.id, s.mapLicence l.id fun r => { r with tally := r.tally + delta, updatedAt := now })
    | none =>
      let lic : Licence := { id, billRunId := billRun, invoiceId := invoice,
                             licenceNumber := number, tally := delta, createdAt := now,
                             updatedAt := now }
      (id, { s with licences := s.licences ++ [lic] })

/-- Adds a tally to a licence; says whether the licence exists. -/
def addLicenceTally (id : Uuid) (delta : Tally) (now : Instant) : Op Bool :=
  modifyGet fun s =>
    (s.licences.any (·.id == id),
      s.mapLicence id fun l => { l with tally := l.tally + delta, updatedAt := now })

/-- Deletes a licence with its transactions. -/
def deleteLicence (id : Uuid) : Op Unit := modify fun s =>
  { s with
    transactions := s.transactions.filter (·.licenceId != id)
    licences := s.licences.filter (·.id != id) }

def clientIdTaken (s : Store) (regime : Uuid) (clientId : String) : Bool :=
  s.transactions.any fun u => u.regimeId == regime && u.clientId == some clientId

/-- Adds a transaction. -/
def insertTransaction (t : Transaction) : Op Unit :=
  modify fun s => { s with transactions := s.transactions ++ [t] }

/-- Deletes the transactions with the given identifiers. -/
def deleteTransactions (ids : List Uuid) : Op Unit :=
  modify fun s => { s with transactions := s.transactions.filter fun t => !ids.contains t.id }

/-! ## Counters -/

/-- Hands out a regime's next number of a sequence in a region: 0 when it has no counter. A
counter at the largest 64-bit number cannot be moved on: the store's sum leaves the integers,
and the number read back is no integer. -/
def next (q : Sequence) (regime : Uuid) (region : Region) (now : Instant) : Op Int64 := do
  match (← get).counter? regime region with
  | none => pure 0
  | some c =>
    if c.number q == Int64.maxValue then throw .counterOverflow
    modify fun s => { s with counters := s.counters.map fun d =>
      if d.regimeId == regime && d.region == region then d.advance q now else d }
    pure (c.number q)

end Store

end ChargeLedger
