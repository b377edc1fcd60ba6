import ChargeLedger.Ledger.Store

/-!
# The store a ledger starts from

Four regimes, each with a counter for every region: bill run numbers start at 10000,
transaction numbers at 1 and file numbers at 50000. Each regime takes the next identifier,
then its eight counters take the eight after it.
-/

set_option autoImplicit false

namespace ChargeLedger

namespace Counter

def firstBillRunNumber : Int64 := 10000

def firstTransactionNumber : Int64 := 1

def firstFileNumber : Int64 := 50000

def isFresh (c : Counter) : Bool :=
  c.billRunNumber == firstBillRunNumber && c.transactionNumber == firstTransactionNumber &&
    c.fileNumber == firstFileNumber

end Counter

namespace Regime

def defaults : List (String × String) :=
  [("cfd", "Water Quality"), ("pas", "Installations"), ("wml", "Waste"), ("wrls", "Water Resources")]

end Regime

namespace Store

def seedRegime (now : Instant) (k : Nat) (entry : String × String) : Regime × List Counter :=
  let id := Uuid.ofSerial (9 * k)
  ({ id := id, slug := entry.1, name := entry.2, createdAt := now, updatedAt := now },
    (Region.all.zip (List.range 8)).map fun (r, j) =>
      { id := Uuid.ofSerial (9 * k + j + 1), regimeId := id, region := r,
        billRunNumber := Counter.firstBillRunNumber,
        transactionNumber := Counter.firstTransactionNumber,
        fileNumber := Counter.firstFileNumber, createdAt := now, updatedAt := now })

def seeded (now : Instant) : Store :=
  let made := (Regime.defaults.zip (List.range Regime.defaults.length)).map fun (e, k) =>
    seedRegime now k e
  { regimes := made.map (·.1), counters := made.flatMap (·.2), issued := 9 * made.length }

end Store

end ChargeLedger
