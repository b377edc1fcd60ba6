import ChargeLedger.Text.Utf8
import ChargeLedger.Text.Case

/-!
# Identifiers

Every row carries a 128-bit identifier, written as 32 lower-case hexadecimal digits in groups
of 8-4-4-4-12. Identifiers the ledger hands out count up from a fixed base, so their text
sorts in the order they were handed out.

Reading accepts the grouped form, the grouped form inside any two enclosing characters,
the grouped form after `urn:uuid:` (in any case), and 32 digits with no dashes. Lengths
and positions count octets.
-/

set_option autoImplicit false

namespace ChargeLedger

/-- A 128-bit identifier. -/
structure Uuid where
  value : Nat
  deriving DecidableEq, Repr, Inhabited, Hashable

namespace Uuid

def nil : Uuid := ⟨0⟩

def serialBase : Nat := 0x00000000000040008000000000000000

def ofSerial (n : Nat) : Uuid := ⟨serialBase + n⟩

def hexDigit (n : Nat) : Char :=
  if n < 10 then Char.ofNat ('0'.toNat + n) else Char.ofNat ('a'.toNat + n - 10)

def hexDigits (n : Nat) : Nat → List Char
  | 0 => []
  | w + 1 => hexDigits (n / 16) w ++ [hexDigit (n % 16)]

def text (u : Uuid) : String :=
  let ds := hexDigits u.value 32
  String.ofList (ds.take 8 ++ ['-'] ++ (ds.drop 8).take 4 ++ ['-'] ++ (ds.drop 12).take 4 ++
    ['-'] ++ (ds.drop 16).take 4 ++ ['-'] ++ ds.drop 20)

instance : ToString Uuid := ⟨text⟩

def hexValue (b : UInt8) : Option Nat :=
  if 0x30 ≤ b && b ≤ 0x39 then some (b.toNat - 0x30)
  else if 0x61 ≤ b && b ≤ 0x66 then some (b.toNat - 0x61 + 10)
  else if 0x41 ≤ b && b ≤ 0x46 then some (b.toNat - 0x41 + 10)
  else none

def hexNumber (bs : List UInt8) : Option Nat :=
  bs.foldl (fun acc b => acc.bind fun a => (hexValue b).map fun v => a * 16 + v) (some 0)

def ofGrouped (bs : List UInt8) : Option Uuid :=
  if bs.length == 36 && bs[8]? == some 0x2D && bs[13]? == some 0x2D && bs[18]? == some 0x2D &&
      bs[23]? == some 0x2D then
    (hexNumber (bs.take 8 ++ (bs.drop 9).take 4 ++ (bs.drop 14).take 4 ++ (bs.drop 19).take 4 ++
      bs.drop 24)).map Uuid.mk
  else none

def parse? (s : String) : Option Uuid :=
  let bs := Utf8.octets s
  match bs.length with
  | 36 => ofGrouped bs
  | 38 => ofGrouped ((bs.drop 1).take 36)
  | 45 =>
    if Case.lowerText (Utf8.toText (bs.take 9)) == "urn:uuid:" then ofGrouped (bs.drop 9)
    else none
  | 32 => (hexNumber bs).map Uuid.mk
  | _ => none

end Uuid

end ChargeLedger
