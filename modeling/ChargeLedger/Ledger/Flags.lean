import ChargeLedger.Ledger.Tally

/-!
# Invoice flags and the bill run summary

An invoice with no credit and no debit value is a zero-value invoice. One that is not a
minimum-charge invoice and whose net is above zero but below the de minimis limit is a de
minimis invoice. Either kind is summarised: left out of the summary and not billed.

The summary of a bill run counts the invoices that are not summarised: a positive net is an
invoice, a negative net a credit note (its value counted positive), a zero net neither.
-/

set_option autoImplicit false

namespace ChargeLedger

/-- The four flags of an invoice. -/
structure InvoiceFlags where
  zeroValue : Bool
  deminimis : Bool
  minimumCharge : Bool
  summarised : Bool
  deriving DecidableEq, Repr, Inhabited

namespace InvoiceFlags

def derive (t : Tally) (minimumCharge : Bool) (deminimisLimit : Int64) : InvoiceFlags :=
  let zeroValue := t.creditLineValue == 0 && t.debitLineValue == 0
  let deminimis := !minimumCharge && t.net > 0 && t.net < deminimisLimit
  { zeroValue, deminimis, minimumCharge, summarised := zeroValue || deminimis }

end InvoiceFlags

def billable (summarised : Bool) (t : Tally) : Bool := !summarised && t.net != 0

/-- Counts and values of invoices and credit notes. -/
structure Summary where
  invoiceCount : Int64 := 0
  invoiceValue : Int64 := 0
  creditNoteCount : Int64 := 0
  creditNoteValue : Int64 := 0
  deriving DecidableEq, Repr, Inhabited

namespace Summary

/-- Adds one invoice, given whether it is summarised and its tally. -/
def step (s : Summary) (inv : Bool × Tally) : Summary :=
  if inv.1 then s
  else
    let n := inv.2.net
    if n > 0 then { s with invoiceCount := s.invoiceCount + 1, invoiceValue := s.invoiceValue + n }
    else if n < 0 then
      { s with creditNoteCount := s.creditNoteCount + 1, creditNoteValue := s.creditNoteValue + -n }
    else s

def ofInvoices (invs : List (Bool × Tally)) : Summary := invs.foldl step {}

end Summary

end ChargeLedger
