import ChargeLedger.Json.Value
import ChargeLedger.Json.Writer
import ChargeLedger.Decimal

/-!
# Reading records from JSON objects

A record is read from an object member by member, in the order they are written, each member
overwriting what an earlier one set. A key names a field when the two are equal after folding
case: ASCII letters fold to upper case, and so do the long s (U+017F, to `S`) and the Kelvin
sign (U+212A, to `K`), the two characters outside ASCII that fold onto ASCII letters.

A key that names no field, or a value of the wrong type, does not stop the reading: the first
such fault is kept and reported at the end. A field whose own reader refuses its text (a
decimal) stops the reading at once, and that fault is reported instead. `null` leaves a plain
field as it is and empties an optional one.
-/

set_option autoImplicit false

namespace ChargeLedger.Json

/-- Why a record could not be read. -/
inductive ReadFault where
  /-- A key that names no field. -/
  | unknownField (key : String)
  /-- A value of the wrong type for a field: what the value was, the record's type name, the
  field's key and the field's type name. -/
  | mismatch (found : String) (record : String) (field : String) (type : String)
  /-- A value of the wrong type for the whole record. -/
  | notRecord (found : String) (type : String)
  /-- A field's own reader refused the value, with its words. -/
  | refused (message : String)
  deriving DecidableEq, Repr

def ReadFault.message : ReadFault → String
  | .unknownField k => "json: unknown field " ++ quote k
  | .mismatch found record field type =>
    "json: cannot unmarshal " ++ found ++ " into Go struct field " ++ record ++ "." ++ field ++
      " of type " ++ type
  | .notRecord found type => "json: cannot unmarshal " ++ found ++ " into Go value of type " ++ type
  | .refused m => m

/-- How a field took a value. -/
inductive Taken (α : Type) where
  | set (a : α)
  | mismatch (found : String)
  | refused (message : String)

/-- A field of a record of type `α`: its key, its type name, and how it takes a value. -/
structure RecordField (α : Type) where
  key : String
  type : String
  take : Json → α → Taken α

def foldChar (c : Char) : Char :=
  if 'a' ≤ c && c ≤ 'z' then Char.ofNat (c.toNat - 32)
  else if c.toNat == 0x17F then 'S'
  else if c.toNat == 0x212A then 'K'
  else c

def sameKey (a b : String) : Bool := a.toList.map foldChar == b.toList.map foldChar

/-- The state of a reading: the record so far and the first kept fault. -/
structure Progress (α : Type) where
  value : α
  kept : Option ReadFault

def fillMembers {α : Type} (strict : Bool) (record : String) (fields : List (RecordField α)) :
    List (String × Json) → Progress α → Except ReadFault (Progress α)
  | [], p => .ok p
  | (k, v) :: rest, p =>
    let keep (f : ReadFault) : Progress α := { p with kept := p.kept <|> some f }
    match fields.find? (fun f => sameKey f.key k) with
    | none =>
      fillMembers strict record fields rest (if strict then keep (.unknownField k) else p)
    | some f =>
      match f.take v p.value with
      | .set a => fillMembers strict record fields rest { p with value := a }
      | .mismatch found =>
        fillMembers strict record fields rest (keep (.mismatch found record f.key f.type))
      | .refused m => .error (.refused m)

def readRecordWith {α : Type} (strict : Bool) (type record : String) (fields : List (RecordField α))
    (init : α) (j : Json) : Except ReadFault α :=
  match j with
  | .null => .ok init
  | .obj ms =>
    match fillMembers strict record fields ms ⟨init, none⟩ with
    | .ok ⟨a, none⟩ => .ok a
    | .ok ⟨_, some f⟩ => .error f
    | .error f => .error f
  | other => .error (.notRecord other.kindWord type)

def readRecord {α : Type} (type record : String) (fields : List (RecordField α)) (init : α) (j : Json) :
    Except ReadFault α :=
  readRecordWith true type record fields init j

/-! ## Field readers -/

def textField {α : Type} (key type : String) (set : String → α → α) : RecordField α :=
  ⟨key, type, fun j a => match j with
    | .null => .set a
    | .string s _ => .set (set s a)
    | other => .mismatch other.kindWord⟩

def optTextField {α : Type} (key : String) (set : Option String → α → α) : RecordField α :=
  ⟨key, "string", fun j a => match j with
    | .null => .set (set none a)
    | .string s _ => .set (set (some s) a)
    | other => .mismatch other.kindWord⟩

def flagField {α : Type} (key : String) (set : Bool → α → α) : RecordField α :=
  ⟨key, "bool", fun j a => match j with
    | .null => .set a
    | .bool b => .set (set b a)
    | other => .mismatch other.kindWord⟩

def intOfLiteral (t : String) : Option Int :=
  let cs := t.toList
  let (neg, ds) : Bool × List Char := match cs with
    | '-' :: r => (true, r)
    | r => (false, r)
  if ds.isEmpty || !ds.all Char.isDigit then none
  else
    let n : Nat := ds.foldl (fun acc c => acc * 10 + (c.toNat - '0'.toNat)) 0
    let v : Int := if neg then -(n : Int) else n
    if v < -9223372036854775808 || v > 9223372036854775807 then none else some v

def intField {α : Type} (key type : String) (set : Int → α → α) : RecordField α :=
  ⟨key, type, fun j a => match j with
    | .null => .set a
    | .num t =>
      match intOfLiteral t with
      | some v => .set (set v a)
      | none => .mismatch ("number " ++ t)
    | other => .mismatch other.kindWord⟩

def decimalSource : Json → String
  | .num t => t
  | .string s w =>
    let body := w.getD (String.join (s.toList.map escapeChar))
    if body.isEmpty then "\"\"" else body
  | other => render other

def readDecimal (j : Json) : Except String Decimal :=
  let src := decimalSource j
  match Decimal.ofText src with
  | .ok d => .ok d
  | .error e => .error ("error decoding string '" ++ src ++ "': " ++ e.message)

def decimalField {α : Type} (key : String) (set : Decimal → α → α) : RecordField α :=
  ⟨key, "decimal.Decimal", fun j a => match j with
    | .null => .set a
    | _ =>
      match readDecimal j with
      | .ok d => .set (set d a)
      | .error m => .refused m⟩

def optDecimalField {α : Type} (key : String) (set : Option Decimal → α → α) : RecordField α :=
  ⟨key, "decimal.Decimal", fun j a => match j with
    | .null => .set (set none a)
    | _ =>
      match readDecimal j with
      | .ok d => .set (set (some d) a)
      | .error m => .refused m⟩

end ChargeLedger.Json
