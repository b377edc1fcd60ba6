import ChargeLedger.Ledger.Store
import ChargeLedger.TransactionFile.Name
import ChargeLedger.ChargeDate
import ChargeLedger.Text.Utf8

/-!
# The transaction file

A bill run's transaction file is a header record, one body record per line billed, and a tail
record. Every field is written between double quotes, a quote inside a field doubled; fields
are separated by commas and records end with a newline.

* The header: `H`, record number 0, `NAL`, the region, `I`, the file number (the reference
  after its first five octets, the whole reference when shorter), the bill run number, and the
  file date as `DD-MMM-YYYY`.
* A body record: the line's customer, the invoice's type (`C` for a credit note) and
  reference, the signed value, area and description, then the line attributes (43 fields in
  all for presroc, 46 for sroc). A compensation line shows only attributes 11 and 12; a minimum
  charge adjustment shows none.
* The tail: `T`, the record number after the last body record, the number of records, the
  invoice value and the credit note value, negated.

Body records are the lines of the bill run whose value is not zero and whose invoice has a
transaction reference, ordered by that reference, licence number, compensation (not first),
creation time and identifier; record numbers count from 1.
-/

set_option autoImplicit false

namespace ChargeLedger

namespace TransactionFile

/-- A line as the file shows it: the transaction, its invoice's reference and net. -/
structure Row where
  line : Transaction
  reference : String
  invoiceNet : Int64

def recordIndex (i : Int) : String := padded 7 i

def fileNumberOf (b : BillRun) : String :=
  match b.fileReference with
  | none => ""
  | some r => if (Utf8.octets r).length < 5 then r else Utf8.dropOctets r 5

def billRunNumberOf (b : BillRun) : String :=
  match b.billRunNumber with
  | none => ""
  | some n => toString n.toInt

def header (b : BillRun) (fileDate : Instant) : List String :=
  ["H", recordIndex 0, "NAL", b.region.name, "I", fileNumberOf b, billRunNumberOf b,
    ChargeDate.format fileDate.date]

def tail (b : BillRun) (rows : Nat) : List String :=
  ["T", recordIndex (rows + 1), toString (rows + 2), toString b.summary.invoiceValue.toInt,
    toString (-b.summary.creditNoteValue).toInt]

def leading (index : Nat) (row : Row) (fileDate : Instant) : List String :=
  let date := ChargeDate.format fileDate.date
  let value := toString row.line.signedValue.toInt
  let t := row.line
  ["D", recordIndex index, t.customerReference, date, if row.invoiceNet < 0 then "C" else "I",
    row.reference, "", "GBP", "", date, "", "", "", "", "", "", "", "", "", value, "",
    t.areaCode, t.lineDescription, "A", ""]

def detail (t : Transaction) (attrs : List String) : List String :=
  (attrs.zip (List.range attrs.length)).map fun (v, i) =>
    let compensationColumn := i == 10 || i == 11
    if compensationColumn && t.compensation && !t.minimumChargeAdjustment then v
    else if !compensationColumn && !(t.compensation || t.minimumChargeAdjustment) then v
    else ""

def yesNo (b : Bool) : String := if b then "Y" else "N"

def body (ruleset : Ruleset) (index : Nat) (row : Row) (fileDate : Instant) : List String :=
  let t := row.line
  let value := toString t.signedValue.toInt
  match ruleset with
  | .presroc =>
    leading index row fileDate ++ detail t ((List.range 14).map fun k => t.lineAttr (k + 1)) ++
      ["", "1", "Each", value]
  | .sroc =>
    leading index row fileDate ++ detail t ((List.range 15).map fun k => t.lineAttr (k + 1)) ++
      [yesNo (t.regimeText 18 == "true"), yesNo (t.regimeText 19 == "true"), yesNo t.compensation,
        "1", "Each", value]

def doubleQuotes : List Char → List Char
  | [] => []
  | c :: cs => if c = '"' then '"' :: '"' :: doubleQuotes cs else c :: doubleQuotes cs

def quoteField (f : String) : String := String.ofList ('"' :: doubleQuotes f.toList ++ ['"'])

def recordLine (fields : List String) : String := ",".intercalate (fields.map quoteField) ++ "\n"

def rowOrder (a b : Row) : Ordering :=
  (compare a.reference b.reference).then <|
  (compare a.line.licenceNumber b.line.licenceNumber).then <|
  (compare a.line.compensation b.line.compensation).then <|
  Store.transactionOrder a.line b.line

def rows (s : Store) (billRun : Uuid) : List Row :=
  Store.sortBy rowOrder <| s.transactions.filterMap fun t =>
    if t.billRunId != billRun || t.chargeValue == 0 then none
    else
      match s.invoice? t.invoiceId with
      | some inv => inv.transactionReference.map fun r => ⟨t, r, inv.tally.net⟩
      | none => none

/-- The file of a bill run with its date: the text and the number of body records. -/
def render (s : Store) (b : BillRun) (fileDate : Instant) : String × Nat :=
  let rs := rows s b.id
  let bodies := (rs.zip (List.range rs.length)).map fun (r, i) => body b.ruleset (i + 1) r fileDate
  (String.join ((header b fileDate :: bodies ++ [tail b rs.length]).map recordLine), rs.length)

end TransactionFile

end ChargeLedger
