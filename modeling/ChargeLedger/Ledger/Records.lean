import ChargeLedger.Ledger.Tally
import ChargeLedger.Ledger.Flags
import ChargeLedger.Ledger.Status
import ChargeLedger.Ledger.Region
import ChargeLedger.Json.Value
import ChargeLedger.Calendar
import ChargeLedger.Uuid

/-!
# The records of the ledger

A regime (water resources, waste, ...) owns sequence counters, one per region, and bill runs.
A bill run collects charge transactions; each transaction belongs to one invoice (a customer
in a financial year) and, inside it, to one licence. Bill runs, invoices and licences carry
the tally of the transactions below them.

An invoice is a primary one, or the cancel or rebill copy of an invoice of an earlier bill run;
a copy names the invoice it copies.

A row reads back only while every time it stores lies in the years 0 to 9999
(`Instant.storable`); `readable` says so for each kind of record.
-/

set_option autoImplicit false

namespace ChargeLedger

/-- A charging regime. -/
structure Regime where
  id : Uuid
  slug : String
  name : String
  createdAt : Instant
  updatedAt : Instant
  deriving DecidableEq, Repr, Inhabited

/-- The next numbers a regime hands out in a region. -/
structure Counter where
  id : Uuid
  regimeId : Uuid
  region : Region
  billRunNumber : Int64
  transactionNumber : Int64
  fileNumber : Int64
  createdAt : Instant
  updatedAt : Instant
  deriving DecidableEq, Repr, Inhabited

/-- A bill run: the transactions of one regime, region and ruleset billed together. -/
structure BillRun where
  id : Uuid
  regimeId : Uuid
  region : Region
  ruleset : Ruleset
  status : Status
  billRunNumber : Option Int64 := none
  fileReference : Option String := none
  fileCreatedAt : Option Instant := none
  createdBy : String
  tally : Tally := {}
  summary : Summary := {}
  createdAt : Instant
  updatedAt : Instant
  deriving DecidableEq, Repr, Inhabited

/-- What an invoice is: a primary invoice, or the cancel or rebill copy of another invoice. -/
inductive InvoiceKind where
  | primary
  | cancel
  | rebill
  deriving DecidableEq, Repr, Inhabited

namespace InvoiceKind

def letter : InvoiceKind → String
  | .primary => "O"
  | .cancel => "C"
  | .rebill => "R"

end InvoiceKind

/-- An invoice: one customer's transactions of one financial year on a bill run. -/
structure Invoice where
  id : Uuid
  billRunId : Uuid
  customerReference : String
  financialYear : Int
  kind : InvoiceKind := .primary
  rebilledInvoiceId : Option Uuid := none
  transactionReference : Option String := none
  tally : Tally := {}
  flags : InvoiceFlags := ⟨false, false, false, false⟩
  createdAt : Instant
  updatedAt : Instant
  deriving DecidableEq, Repr, Inhabited

namespace Invoice

def isBillable (i : Invoice) : Bool := billable i.flags.summarised i.tally

end Invoice

/-- A licence: the transactions of one licence number on an invoice. -/
structure Licence where
  id : Uuid
  billRunId : Uuid
  invoiceId : Uuid
  licenceNumber : String
  tally : Tally := {}
  createdAt : Instant
  updatedAt : Instant
  deriving DecidableEq, Repr, Inhabited

/-- One charge line. Its first line attribute is its licence number; `attributes` holds line
attributes 2 to 15. `regimeTexts` holds the regime values 1 to 16 and 18 to 20; regime value
17 is the compensation flag. -/
structure Transaction where
  id : Uuid
  regimeId : Uuid
  billRunId : Uuid
  invoiceId : Uuid := Uuid.nil
  licenceId : Uuid := Uuid.nil
  clientId : Option String := none
  customerReference : String
  region : Region
  ruleset : Ruleset
  chargeValue : Int64
  chargeCredit : Bool
  subjectToMinimumCharge : Bool
  minimumChargeAdjustment : Bool := false
  rebilledTransactionId : Option Uuid := none
  chargeFinancialYear : Int
  chargePeriodStart : Date
  chargePeriodEnd : Date
  areaCode : String
  lineDescription : String
  licenceNumber : String
  attributes : List String := []
  regimeTexts : List String := []
  compensation : Bool := false
  chargeCalculation : Option Json := none
  createdBy : String
  createdAt : Instant
  updatedAt : Instant
  deriving Inhabited

namespace Transaction

def tally (t : Transaction) : Tally :=
  Tally.ofLine t.chargeCredit t.chargeValue t.subjectToMinimumCharge

def signedValue (t : Transaction) : Int64 := if t.chargeCredit then -t.chargeValue else t.chargeValue

def lineAttr (t : Transaction) (k : Nat) : String :=
  if k == 1 then t.licenceNumber else t.attributes.getD (k - 2) ""

def regimeText (t : Transaction) (k : Nat) : String :=
  t.regimeTexts.getD (if k < 17 then k - 1 else k - 2) ""

end Transaction

/-- Whether a counter's row reads back. -/
def Counter.readable (c : Counter) : Bool := c.createdAt.storable && c.updatedAt.storable

/-- Whether a bill run's row reads back. -/
def BillRun.readable (b : BillRun) : Bool :=
  b.createdAt.storable && b.updatedAt.storable && b.fileCreatedAt.all Instant.storable

/-- Whether an invoice's row reads back. -/
def Invoice.readable (i : Invoice) : Bool := i.createdAt.storable && i.updatedAt.storable

/-- Whether a licence's row reads back. -/
def Licence.readable (l : Licence) : Bool := l.createdAt.storable && l.updatedAt.storable

/-- Whether a transaction's row reads back. -/
def Transaction.readable (t : Transaction) : Bool := t.createdAt.storable && t.updatedAt.storable

end ChargeLedger
