/-!
# Calendar dates and instants

Dates of the proleptic Gregorian calendar and instants on the UTC time line, counted in
nanoseconds from 1970-01-01T00:00:00Z. Day numbers come from the civil-date algorithm:
a year counted from March, so that the leap day ends it, in 400-year eras of 146 097 days.
Division here rounds toward minus infinity, so dates before 1970 need no special case.

Instants are written as RFC 3339 text in UTC: the fraction of a second shows only the
digits it needs, and none when the instant falls on a whole second.
-/

set_option autoImplicit false

namespace ChargeLedger

/-- A calendar date. -/
structure Date where
  year : Int
  month : Nat
  day : Nat
  deriving DecidableEq, Repr, Inhabited

namespace Date

def isLeap (y : Int) : Bool := y % 4 == 0 && (y % 100 != 0 || y % 400 == 0)

def daysIn (m : Nat) (y : Int) : Nat :=
  if m == 2 then (if isLeap y then 29 else 28)
  else if m == 4 || m == 6 || m == 9 || m == 11 then 30
  else 31

def valid (d : Date) : Bool :=
  1 ≤ d.month && d.month ≤ 12 && 1 ≤ d.day && d.day ≤ daysIn d.month d.year

def toDays (d : Date) : Int :=
  let y : Int := if d.month ≤ 2 then d.year - 1 else d.year
  let era : Int := y / 400
  let yoe : Int := y - era * 400
  let mp : Int := if d.month > 2 then (d.month : Int) - 3 else (d.month : Int) + 9
  let doy : Int := (153 * mp + 2) / 5 + (d.day : Int) - 1
  let doe : Int := yoe * 365 + yoe / 4 - yoe / 100 + doy
  era * 146097 + doe - 719468

def ofDays (z : Int) : Date :=
  let z := z + 719468
  let era : Int := z / 146097
  let doe : Int := z - era * 146097
  let yoe : Int := (doe - doe / 1460 + doe / 36524 - doe / 146096) / 365
  let y : Int := yoe + era * 400
  let doy : Int := doe - (365 * yoe + yoe / 4 - yoe / 100)
  let mp : Int := (5 * doy + 2) / 153
  let d : Int := doy - (153 * mp + 2) / 5 + 1
  let m : Int := if mp < 10 then mp + 3 else mp - 9
  ⟨if m ≤ 2 then y + 1 else y, m.toNat, d.toNat⟩

def financialYear (d : Date) : Int := if d.month ≥ 4 then d.year else d.year - 1

def before (a b : Date) : Bool := a.toDays < b.toDays

def pad2 (n : Nat) : String := if n < 10 then "0" ++ toString n else toString n

def pad4 (y : Int) : String :=
  let n := y.natAbs
  let digits := toString n
  let padded := String.ofList (List.replicate (4 - digits.length) '0') ++ digits
  if y < 0 then "-" ++ padded else padded

def iso (d : Date) : String := pad4 d.year ++ "-" ++ pad2 d.month ++ "-" ++ pad2 d.day

end Date

/-- An instant, in nanoseconds from 1970-01-01T00:00:00Z. -/
structure Instant where
  nanos : Int
  deriving DecidableEq, Repr, Inhabited

namespace Instant

def perSecond : Int := 1000000000

def perDay : Int := 86400 * perSecond

instance : LT Instant := ⟨fun a b => a.nanos < b.nanos⟩
instance (a b : Instant) : Decidable (a < b) := inferInstanceAs (Decidable (a.nanos < b.nanos))
instance : LE Instant := ⟨fun a b => a.nanos ≤ b.nanos⟩
instance (a b : Instant) : Decidable (a ≤ b) := inferInstanceAs (Decidable (a.nanos ≤ b.nanos))

def ofDate (d : Date) : Instant := ⟨d.toDays * perDay⟩

def date (t : Instant) : Date := Date.ofDays (t.nanos / perDay)

def addSeconds (t : Instant) (s : Int) : Instant := ⟨t.nanos + s * perSecond⟩

def fractionText (n : Nat) : String :=
  if n == 0 then ""
  else
    let digits := toString n
    let full := String.ofList (List.replicate (9 - digits.length) '0') ++ digits
    "." ++ String.ofList ((full.toList.reverse.dropWhile (· == '0')).reverse)

def clockText (t : Instant) : String :=
  let inDay := (t.nanos % perDay).toNat
  let secs := inDay / 1000000000
  let frac := inDay % 1000000000
  Date.pad2 (secs / 3600) ++ ":" ++ Date.pad2 (secs / 60 % 60) ++ ":" ++ Date.pad2 (secs % 60) ++
    fractionText frac

def rfc3339 (t : Instant) : String :=
  t.date.iso ++ "T" ++ t.clockText ++ "Z"

def storedText (t : Instant) : String :=
  t.date.iso ++ " " ++ t.clockText ++ "+00:00"

def storable (t : Instant) : Bool :=
  let y := t.date.year
  0 ≤ y && y ≤ 9999

def spanOfSeconds (s : Int) : Int := (Int64.ofInt (s * perSecond)).toInt

def addNanos (t : Instant) (n : Int) : Instant := ⟨t.nanos + n⟩

def digitsN (cs : List Char) (k : Nat) : Option (Nat × List Char) :=
  let ds := cs.take k
  if ds.length == k && ds.all Char.isDigit then
    some (ds.foldl (fun a c => a * 10 + (c.toNat - '0'.toNat)) 0, cs.drop k)
  else none

def digitsUpTo2 (cs : List Char) : Option (Nat × List Char) :=
  match digitsN cs 2 with
  | some r => some r
  | none => digitsN cs 1

def fraction (cs : List Char) : Nat × List Char :=
  let ds := cs.takeWhile Char.isDigit
  let kept := ds.take 9
  ((kept ++ List.replicate (9 - kept.length) '0').foldl
    (fun a c => a * 10 + (c.toNat - '0'.toNat)) 0, cs.dropWhile Char.isDigit)

def ofRfc3339 (s : String) : Option Instant := do
  let cs := s.toList
  let (y, cs) ← digitsN cs 4
  let cs ← match cs with | '-' :: r => some r | _ => none
  let (mo, cs) ← digitsN cs 2
  let cs ← match cs with | '-' :: r => some r | _ => none
  let (d, cs) ← digitsN cs 2
  let cs ← match cs with | 'T' :: r => some r | _ => none
  let (h, cs) ← digitsUpTo2 cs
  let cs ← match cs with | ':' :: r => some r | _ => none
  let (mi, cs) ← digitsN cs 2
  let cs ← match cs with | ':' :: r => some r | _ => none
  let (se, cs) ← digitsN cs 2
  let (frac, cs) := match cs with
    | p :: c :: r => if (p == '.' || p == ',') && c.isDigit then fraction (c :: r) else (0, p :: c :: r)
    | r => (0, r)
  let offset ← match cs with
    | ['Z'] => some (0 : Int)
    | [sg, a, b, ':', c, e] =>
      if sg == '+' || sg == '-' then do
        let (oh, _) ← digitsN [a, b] 2
        let (om, _) ← digitsN [c, e] 2
        if oh > 24 || om > 60 then none
        else some ((if sg == '-' then -1 else 1) * ((oh * 60 + om : Nat) : Int) * 60)
      else none
    | _ => none
  let date : Date := ⟨y, mo, d⟩
  if !date.valid || h > 23 || mi > 59 || se > 59 then none
  else
    let secs : Int := date.toDays * 86400 + (h * 3600 + mi * 60 + se : Nat) - offset
    some ⟨secs * perSecond + frac⟩

end Instant

end ChargeLedger
