/-!
# Decimal numbers

A decimal is an integer coefficient scaled by a power of ten, `coeff × 10 ^ exp`. Two
decimals of one value may differ in scale (`1.5` and `1.50`); operations that compare
values bring both to the finer scale first.

Text reads as: an optional exponent after the first `e` or `E` (a 32-bit integer), at
most one point, and a signed run of digits around it. The text of a decimal drops the
zeros that end its fraction. Rounding goes half away from zero; cutting to fewer places
goes toward zero.
-/

set_option autoImplicit false

namespace ChargeLedger

/-- `coeff × 10 ^ exp`. -/
structure Decimal where
  coeff : Int
  exp : Int
  deriving DecidableEq, Repr, Inhabited

namespace Decimal

def zero : Decimal := ⟨0, 0⟩

def ofInt (n : Int) : Decimal := ⟨n, 0⟩

def tenPow (n : Nat) : Int := Int.ofNat (Nat.pow 10 n)

def rescale (d : Decimal) (e : Int) : Decimal :=
  if e ≤ d.exp then ⟨d.coeff * tenPow (d.exp - e).toNat, e⟩
  else ⟨d.coeff.tdiv (tenPow (e - d.exp).toNat), e⟩

def shift (d : Decimal) (n : Int) : Decimal := ⟨d.coeff, d.exp + n⟩

def isNegative (d : Decimal) : Bool := d.coeff < 0

def cmp (a b : Decimal) : Ordering :=
  let e := min a.exp b.exp
  compare (a.rescale e).coeff (b.rescale e).coeff

def sameValue (a b : Decimal) : Bool := a.cmp b == .eq

def truncate (d : Decimal) (places : Int) : Decimal :=
  if 0 ≤ places && -places > d.exp then d.rescale (-places) else d

def round (d : Decimal) (places : Int) : Decimal :=
  if d.exp = -places then d
  else
    let r := d.rescale (-places - 1)
    let v := if r.coeff < 0 then r.coeff - 5 else r.coeff + 5
    ⟨v.tdiv 10, -places⟩

def intPart (d : Decimal) : Int := (d.rescale 0).coeff

def trimZeros (fr : List Char) : List Char :=
  (fr.reverse.dropWhile (· == '0')).reverse

def toText (d : Decimal) : String :=
  if 0 ≤ d.exp then toString (d.rescale 0).coeff
  else
    let digits := (toString d.coeff.natAbs).toList
    let k := (-d.exp).toNat
    let (ip, fp) :=
      if digits.length > k then (digits.take (digits.length - k), digits.drop (digits.length - k))
      else (['0'], List.replicate (k - digits.length) '0' ++ digits)
    let fp := trimZeros fp
    let body := String.ofList ip ++ (if fp.isEmpty then "" else "." ++ String.ofList fp)
    if d.coeff < 0 then "-" ++ body else body

/-! ## Reading text -/

def readSigned (cs : List Char) : Option Int :=
  let (neg, ds) : Bool × List Char := match cs with
    | '-' :: r => (true, r)
    | '+' :: r => (false, r)
    | r => (false, r)
  if ds.isEmpty || !ds.all Char.isDigit then none
  else
    let n : Nat := ds.foldl (fun acc c => acc * 10 + (c.toNat - '0'.toNat)) 0
    some (if neg then -(n : Int) else n)

/-- How an exponent fails to read: its digits pass the 32-bit range before the text
ends, or the text is no signed run of ASCII digits. -/
inductive ExponentFault where
  | overflow
  | notDigits
  deriving DecidableEq, Repr

def scanExponent : List Char → Nat → Except ExponentFault Nat
  | [], n => .ok n
  | c :: rest, n =>
    if !c.isDigit then .error .notDigits
    else
      let n' := n * 10 + (c.toNat - '0'.toNat)
      if n' > 4294967295 then .error .overflow else scanExponent rest n'

def readExponent (cs : List Char) : Except ExponentFault Int :=
  let (neg, ds) : Bool × List Char := match cs with
    | '-' :: r => (true, r)
    | '+' :: r => (false, r)
    | r => (false, r)
  if ds.isEmpty then .error .notDigits
  else
    match scanExponent ds 0 with
    | .error f => .error f
    | .ok n =>
      if (!neg && n ≥ 2147483648) || (neg && n > 2147483648) then .error .overflow
      else .ok (if neg then -(n : Int) else n)

def expMin : Int := -2147483648
def expMax : Int := 2147483647

/-- Why a text is no decimal; `message` gives the wording. -/
inductive ReadError where
  | notNumber (text : String)
  | exponentNotNumeric (text : String)
  | tooLong (text : String)
  | tooManyPoints (text : String)
  deriving DecidableEq, Repr

def ReadError.message : ReadError → String
  | .notNumber t => "can't convert " ++ t ++ " to decimal"
  | .exponentNotNumeric t => "can't convert " ++ t ++ " to decimal: exponent is not numeric"
  | .tooLong t => "can't convert " ++ t ++ " to decimal: fractional part too long"
  | .tooManyPoints t => "can't convert " ++ t ++ " to decimal: too many .s"

def readMantissa (m : List Char) (exp : Int) : Except ReadError Decimal :=
  let text := String.ofList m
  let ip := m.takeWhile (· != '.')
  let fp := (m.dropWhile (· != '.')).drop 1
  if fp.contains '.' then .error (.tooManyPoints text)
  else
    match readSigned (ip ++ fp) with
    | some c => .ok ⟨c, exp - fp.length⟩
    | none => .error (.notNumber text)

def ofText (s : String) : Except ReadError Decimal :=
  let cs := s.toList
  let (m, ex) := (cs.takeWhile (fun c => c != 'e' && c != 'E'),
    cs.dropWhile (fun c => c != 'e' && c != 'E'))
  let parsed : Except ReadError Decimal :=
    match ex with
    | [] => readMantissa m 0
    | _ :: digits =>
      match readExponent digits with
      | .error .notDigits => .error (.exponentNotNumeric s)
      | .error .overflow => .error (.tooLong s)
      | .ok e => readMantissa m e
  match parsed with
  | .ok d => if d.exp < expMin || d.exp > expMax then .error (.tooLong s) else .ok d
  | .error e => .error e

end Decimal

end ChargeLedger
