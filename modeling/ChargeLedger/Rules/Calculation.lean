import ChargeLedger.Json.Record
import ChargeLedger.Json.Reader
import ChargeLedger.Fault

/-!
# Calculations of the rules service

The rules service prices a charge line: it answers with a calculation, holding the charge in
pounds and the factors it used, or with messages saying why it would not. A reply is read in
this order: a body that is no JSON document, or whose `messages` are not a list of texts, is
an unexpected reply; any message rejects the charge; a status outside 200 to 299, or no
calculation, is an unexpected reply; a calculation that is no object of decimals cannot be
read; a negative charge is refused. Keys match whatever their case, and keys the reading does
not know are passed over.

The charge in pence is the charge in pounds moved two places and rounded half away from zero,
its low 64 bits kept.
-/

set_option autoImplicit false

namespace ChargeLedger

/-- A calculation as the rules service returns it. -/
structure Calculation where
  chargeValue : Decimal := Decimal.zero
  sucFactor : Option Decimal := none
  sourceFactor : Option Decimal := none
  seasonFactor : Option Decimal := none
  lossFactor : Option Decimal := none
  volumeFactor : Option Decimal := none
  abatementAdjustment : Option Decimal := none
  s127Agreement : Option Decimal := none
  s130Agreement : Option Decimal := none
  eiucSourceFactor : Option Decimal := none
  eiucFactor : Option Decimal := none
  baseCharge : Option Decimal := none
  waterCompanyChargeValue : Option Decimal := none
  supportedSourceValue : Option Decimal := none
  winterOnlyFactor : Option Decimal := none
  compensationChargePercent : Option Decimal := none
  /-- The calculation as it was sent. -/
  raw : Json := .null
  deriving Inhabited

namespace Calculation

open Json in
def fields : List (RecordField Calculation) :=
  [ decimalField "chargeValue" fun d c => { c with chargeValue := d },
    optDecimalField "sucFactor" fun d c => { c with sucFactor := d },
    optDecimalField "sourceFactor" fun d c => { c with sourceFactor := d },
    optDecimalField "seasonFactor" fun d c => { c with seasonFactor := d },
    optDecimalField "lossFactor" fun d c => { c with lossFactor := d },
    optDecimalField "volumeFactor" fun d c => { c with volumeFactor := d },
    optDecimalField "abatementAdjustment" fun d c => { c with abatementAdjustment := d },
    optDecimalField "s127Agreement" fun d c => { c with s127Agreement := d },
    optDecimalField "s130Agreement" fun d c => { c with s130Agreement := d },
    optDecimalField "eiucSourceFactor" fun d c => { c with eiucSourceFactor := d },
    optDecimalField "eiucFactor" fun d c => { c with eiucFactor := d },
    optDecimalField "baseCharge" fun d c => { c with baseCharge := d },
    optDecimalField "waterCompanyChargeValue" fun d c => { c with waterCompanyChargeValue := d },
    optDecimalField "supportedSourceValue" fun d c => { c with supportedSourceValue := d },
    optDecimalField "winterOnlyFactor" fun d c => { c with winterOnlyFactor := d },
    optDecimalField "compensationChargePercent" fun d c =>
      { c with compensationChargePercent := d } ]

def pence (c : Calculation) : Int64 := Int64.ofInt ((c.chargeValue.shift 2).round 0).intPart

def factor : Option Decimal → String
  | some d => d.toText
  | none => ""

end Calculation

/-- The members of a reply that matter: the calculation as sent, and the messages. -/
structure Envelope where
  calculation : Option Json := none
  messages : List String := []

namespace Envelope

def textsOf : List Json → Option (List String)
  | [] => some []
  | .string s _ :: rest => (textsOf rest).map (s :: ·)
  | .null :: rest => (textsOf rest).map ("" :: ·)
  | _ :: _ => none

def ofMembers : List (String × Json) → Envelope → Option Envelope
  | [], e => some e
  | (k, v) :: rest, e =>
    if Json.sameKey k "calculation" then ofMembers rest { e with calculation := some v }
    else if Json.sameKey k "messages" then
      match v with
      | .null => ofMembers rest { e with messages := [] }
      | .arr xs =>
        match textsOf xs with
        | some ms => ofMembers rest { e with messages := ms }
        | none => none
      | _ => none
    else ofMembers rest e

def ofJson : Json → Option Envelope
  | .null => some {}
  | .obj ms => ofMembers ms {}
  | _ => none

end Envelope

def readReply (status : Nat) (body : String) : Except Fault Calculation :=
  match (Json.parse body).bind Envelope.ofJson with
  | none => .error (.rulesUnexpectedReply status)
  | some env =>
    if !env.messages.isEmpty then .error (.rulesRejected env.messages)
    else if status < 200 || status ≥ 300 then .error (.rulesUnexpectedReply status)
    else
      match env.calculation with
      | none | some .null => .error (.rulesUnexpectedReply status)
      | some raw =>
        match Json.readRecordWith false "rules.Calculation" "Calculation" Calculation.fields {} raw with
        | .error _ => .error .rulesUnreadableCalculation
        | .ok found =>
          if found.chargeValue.isNegative then .error .rulesNegativeCharge
          else .ok { found with raw }

end ChargeLedger
