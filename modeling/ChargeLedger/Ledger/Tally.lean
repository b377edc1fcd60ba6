/-!
# Tallies

A tally counts the lines of a bill run, an invoice or a licence and adds up their values
in pence: credit lines, debit lines, zero-value lines, and the lines subject to the
minimum charge with their credit and debit values. Values are 64-bit words, so sums wrap
around modulo 2^64.

A line is a credit, or a zero-value debit, or a debit. A line subject to the minimum charge
adds its value to the subject credit value when it is a credit, and to the subject debit
value only when it is a debit above zero.

Tallies add field by field; `Tally.ofLines` adds the tallies of a list of lines.
-/

set_option autoImplicit false

namespace ChargeLedger

/-- Eight counters of lines and values. -/
structure Tally where
  creditLineCount : Int64 := 0
  creditLineValue : Int64 := 0
  debitLineCount : Int64 := 0
  debitLineValue : Int64 := 0
  zeroLineCount : Int64 := 0
  subjectCount : Int64 := 0
  subjectCreditValue : Int64 := 0
  subjectDebitValue : Int64 := 0
  deriving DecidableEq, Repr, Inhabited

namespace Tally

def zero : Tally := {}

def ofLine (credit : Bool) (value : Int64) (subject : Bool) : Tally :=
  let base : Tally :=
    if credit then { creditLineCount := 1, creditLineValue := value }
    else if value == 0 then { zeroLineCount := 1 }
    else { debitLineCount := 1, debitLineValue := value }
  if subject then
    { base with
      subjectCount := 1
      subjectCreditValue := if credit then value else 0
      subjectDebitValue := if !credit && value > 0 then value else 0 }
  else base

def add (a b : Tally) : Tally where
  creditLineCount := a.creditLineCount + b.creditLineCount
  creditLineValue := a.creditLineValue + b.creditLineValue
  debitLineCount := a.debitLineCount + b.debitLineCount
  debitLineValue := a.debitLineValue + b.debitLineValue
  zeroLineCount := a.zeroLineCount + b.zeroLineCount
  subjectCount := a.subjectCount + b.subjectCount
  subjectCreditValue := a.subjectCreditValue + b.subjectCreditValue
  subjectDebitValue := a.subjectDebitValue + b.subjectDebitValue

def neg (a : Tally) : Tally where
  creditLineCount := -a.creditLineCount
  creditLineValue := -a.creditLineValue
  debitLineCount := -a.debitLineCount
  debitLineValue := -a.debitLineValue
  zeroLineCount := -a.zeroLineCount
  subjectCount := -a.subjectCount
  subjectCreditValue := -a.subjectCreditValue
  subjectDebitValue := -a.subjectDebitValue

instance : Add Tally := ⟨add⟩
instance : Neg Tally := ⟨neg⟩

def net (t : Tally) : Int64 := t.debitLineValue - t.creditLineValue

def lineCount (t : Tally) : Int64 := t.creditLineCount + t.debitLineCount + t.zeroLineCount

def isZero (t : Tally) : Bool := t == zero

def sum (ts : List Tally) : Tally := ts.foldl add zero

/-- The tally of a list of lines `(credit, value, subject)`. -/
def ofLines (ls : List (Bool × Int64 × Bool)) : Tally :=
  sum (ls.map fun l => ofLine l.1 l.2.1 l.2.2)

end Tally

end ChargeLedger
