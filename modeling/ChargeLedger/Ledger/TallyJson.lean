import ChargeLedger.Ledger.Tally
import ChargeLedger.Ledger.Flags
import ChargeLedger.Json.Record

/-!
# Tallies as JSON

A tally is written as its eight counters under their long names; its view adds the net total,
the line count and whether it is zero. A tally is read back from those eight names, each a
64-bit integer; any other key is refused.
-/

set_option autoImplicit false

namespace ChargeLedger.Tally

def wordJson (v : Int64) : Json := Json.int v.toInt

def counterFields (t : Tally) : List (String × Json) :=
  [("creditLineCount", wordJson t.creditLineCount),
    ("creditLineValue", wordJson t.creditLineValue),
    ("debitLineCount", wordJson t.debitLineCount),
    ("debitLineValue", wordJson t.debitLineValue),
    ("zeroLineCount", wordJson t.zeroLineCount),
    ("subjectToMinimumChargeCount", wordJson t.subjectCount),
    ("subjectToMinimumChargeCreditValue", wordJson t.subjectCreditValue),
    ("subjectToMinimumChargeDebitValue", wordJson t.subjectDebitValue)]

def viewFields (t : Tally) : List (String × Json) :=
  counterFields t ++ [("netTotal", wordJson t.net), ("lineCount", wordJson t.lineCount),
    ("isZero", .bool t.isZero)]

open Json in
def fields : List (RecordField Tally) :=
  [ intField "creditLineCount" "int64" fun v t => { t with creditLineCount := Int64.ofInt v },
    intField "creditLineValue" "int64" fun v t => { t with creditLineValue := Int64.ofInt v },
    intField "debitLineCount" "int64" fun v t => { t with debitLineCount := Int64.ofInt v },
    intField "debitLineValue" "int64" fun v t => { t with debitLineValue := Int64.ofInt v },
    intField "zeroLineCount" "int64" fun v t => { t with zeroLineCount := Int64.ofInt v },
    intField "subjectToMinimumChargeCount" "int64" fun v t => { t with subjectCount := Int64.ofInt v },
    intField "subjectToMinimumChargeCreditValue" "int64" fun v t =>
      { t with subjectCreditValue := Int64.ofInt v },
    intField "subjectToMinimumChargeDebitValue" "int64" fun v t =>
      { t with subjectDebitValue := Int64.ofInt v } ]

def ofJson (j : Json) : Except Json.ReadFault Tally :=
  Json.readRecord "domain.Tally" "Tally" fields {} j

end ChargeLedger.Tally

namespace ChargeLedger.InvoiceFlags

def fields (f : InvoiceFlags) : List (String × Json) :=
  [("zeroValueInvoice", .bool f.zeroValue), ("deminimisInvoice", .bool f.deminimis),
    ("minimumChargeInvoice", .bool f.minimumCharge), ("summarised", .bool f.summarised)]

end ChargeLedger.InvoiceFlags

namespace ChargeLedger.Summary

def fields (s : Summary) : List (String × Json) :=
  [("invoiceCount", Tally.wordJson s.invoiceCount), ("invoiceValue", Tally.wordJson s.invoiceValue),
    ("creditNoteCount", Tally.wordJson s.creditNoteCount),
    ("creditNoteValue", Tally.wordJson s.creditNoteValue)]

end ChargeLedger.Summary
