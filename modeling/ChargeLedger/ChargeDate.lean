import ChargeLedger.Calendar
import ChargeLedger.Text.Utf8
import ChargeLedger.Text.Case
import ChargeLedger.Text.Space
import ChargeLedger.Text.Quoted

/-!
# Charge dates

A charge date is written `DD-MMM-YYYY` with an upper-case month (`01-APR-2021`), and is read
in three shapes: `DD-MMM-YYYY` with the month in any case, `YYYY-MM-DD` and `DD/MM/YYYY`.
Each field has exactly its width in digits, and the day must exist in its month.

Before reading, blanks are trimmed and a text of eleven octets with `-` at octets 2 and 6
gets its month letters cased as a name is written (first upper, then lower); the error
message quotes that cased text.
-/

set_option autoImplicit false

namespace ChargeLedger.ChargeDate

def monthNames : List String :=
  ["Jan", "Feb", "Mar", "Apr", "May", "Jun", "Jul", "Aug", "Sep", "Oct", "Nov", "Dec"]

def asciiLower (c : Char) : Char :=
  if 'A' ≤ c && c ≤ 'Z' then Char.ofNat (c.toNat + 32) else c

def monthAt (cs : List Char) : Option (Nat × List Char) :=
  let head := (cs.take 3).map asciiLower
  match (monthNames.zip (List.range 12)).find?
      (fun p => p.1.toList.map asciiLower == head) with
  | some (_, i) => some (i + 1, cs.drop 3)
  | none => none

def digits (cs : List Char) (k : Nat) : Option (Nat × List Char) := Instant.digitsN cs k

def sep (c : Char) (cs : List Char) : Option (List Char) :=
  match cs with
  | d :: r => if d == c then some r else none
  | [] => none

def finish (y : Nat) (m d : Nat) (rest : List Char) : Option Date :=
  let date : Date := ⟨y, m, d⟩
  if rest.isEmpty && date.valid then some date else none

def readNamed (cs : List Char) : Option Date := do
  let (d, cs) ← digits cs 2
  let cs ← sep '-' cs
  let (m, cs) ← monthAt cs
  let cs ← sep '-' cs
  let (y, cs) ← digits cs 4
  finish y m d cs

def readIso (cs : List Char) : Option Date := do
  let (y, cs) ← digits cs 4
  let cs ← sep '-' cs
  let (m, cs) ← digits cs 2
  let cs ← sep '-' cs
  let (d, cs) ← digits cs 2
  finish y m d cs

def readSlashed (cs : List Char) : Option Date := do
  let (d, cs) ← digits cs 2
  let cs ← sep '/' cs
  let (m, cs) ← digits cs 2
  let cs ← sep '/' cs
  let (y, cs) ← digits cs 4
  finish y m d cs

def caseMonth (s : String) : String :=
  let o := Utf8.octets s
  if o.length == 11 && o[2]? == some 0x2D && o[6]? == some 0x2D then
    Utf8.toText (o.take 3) ++
      String.ofList ((Utf8.decodeLossy ((o.drop 3).take 1)).map Case.upper) ++
      String.ofList ((Utf8.decodeLossy ((o.drop 4).take 2)).map Case.lower) ++
      Utf8.toText (o.drop 6)
  else s

/-- A text that is no charge date, as it stood after casing its month. -/
structure DateError where
  text : String
  deriving DecidableEq, Repr

def DateError.message (e : DateError) : String := Quoted.quote e.text ++ " is not a valid date"

/-- Reads a charge date. -/
def parse (s : String) : Except DateError Date :=
  let t := caseMonth (Space.trim s)
  let cs := t.toList
  match readNamed cs <|> readIso cs <|> readSlashed cs with
  | some d => .ok d
  | none => .error ⟨t⟩

def format (d : Date) : String :=
  let m := (monthNames[d.month - 1]?).getD ""
  Date.pad2 d.day ++ "-" ++ Case.upperText m ++ "-" ++ Date.pad4 d.year

end ChargeLedger.ChargeDate
