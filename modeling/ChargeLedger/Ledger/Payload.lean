import ChargeLedger.Decimal
import ChargeLedger.ChargeDate
import ChargeLedger.Json.Value
import ChargeLedger.Ledger.Region

/-!
# Transaction payloads

What a client sends to record one charge line: the customer, licence and period it bills, the
facts the rules service prices it from, and how it is described on the invoice.

Before it is checked a payload is normalised: region, customer reference and area code are
trimmed and upper-cased, the ruleset trimmed and lower-cased, the licence number and line
description trimmed, and a client id that is blank after trimming is dropped.

The charge period must consist of two readable dates; then its start must not be after its
end, both must lie in one financial year, the start must not be before the ruleset's first
day (1 April 2021 for sroc, 1 April 2014 otherwise), the volume must not be negative, and an
sroc line cannot be subject to the minimum charge. Every broken rule is reported, in that
order; unreadable dates are reported alone.
-/

set_option autoImplicit false

namespace ChargeLedger

/-- A charge line as a client sends it. -/
structure Payload where
  ruleset : String := ""
  region : String := ""
  customerReference : String := ""
  licenceNumber : String := ""
  chargePeriod : String := ""
  areaCode : String := ""
  lineDescription : String := ""
  clientId : Option String := none
  periodStart : String := ""
  periodEnd : String := ""
  credit : Bool := false
  billableDays : Int := 0
  authorisedDays : Int := 0
  volume : Decimal := Decimal.zero
  loss : String := ""
  section127Agreement : Bool := false
  section130Agreement : Bool := false
  twoPartTariff : Bool := false
  compensationCharge : Bool := false
  waterUndertaker : Bool := false
  regionalChargingArea : String := ""
  source : String := ""
  season : String := ""
  eiucSource : String := ""
  section126Factor : Option Decimal := none
  subjectToMinimumCharge : Bool := false
  chargeCategoryCode : String := ""
  chargeCategoryDescription : String := ""
  supportedSource : Bool := false
  supportedSourceName : String := ""
  waterCompanyCharge : Bool := false
  winterOnly : Bool := false
  adjustmentFactor : Option Decimal := none
  aggregateProportion : Option Decimal := none
  abatementFactor : Option Decimal := none
  actualVolume : Option Decimal := none
  deriving Repr, Inhabited

/-- The dates a charge period covers and the financial year it falls in. -/
structure ChargePeriod where
  start : Date
  finish : Date
  financialYear : Int
  deriving DecidableEq, Repr, Inhabited

namespace Payload

def normalise (p : Payload) : Payload :=
  { p with
    region := Region.normalise p.region
    customerReference := Case.upperText (Space.trim p.customerReference)
    licenceNumber := Space.trim p.licenceNumber
    areaCode := Case.upperText (Space.trim p.areaCode)
    lineDescription := Space.trim p.lineDescription
    ruleset := Ruleset.normalise p.ruleset
    clientId := p.clientId.bind fun c =>
      let t := Space.trim c
      if t.isEmpty then none else some t }

def padded (w : Nat) (n : Int) : String :=
  let digits := toString n.natAbs
  let width := if n < 0 then w - 1 else w
  let body := String.ofList (List.replicate (width - digits.length) '0') ++ digits
  if n < 0 then "-" ++ body else body

def prorataDays (p : Payload) : String :=
  padded 3 p.billableDays ++ "/" ++ padded 3 p.authorisedDays

def earliestStart (ruleset : String) : Date :=
  if ruleset == "sroc" then ⟨2021, 4, 1⟩ else ⟨2014, 4, 1⟩

def periodRules (p : Payload) (start finish : Date) : List (Bool × String) :=
  [ (finish.before start, "\"periodStart\" must be less than or equal to \"periodEnd\"."),
    (start.financialYear != finish.financialYear,
      "\"periodStart\" and \"periodEnd\" must be in the same financial year."),
    (start.before (earliestStart p.ruleset),
      "\"periodStart\" must be on or after " ++ ChargeDate.format (earliestStart p.ruleset) ++
        " for ruleset " ++ p.ruleset ++ "."),
    (p.volume.isNegative, "\"volume\" must not be negative."),
    (p.ruleset == "sroc" && p.subjectToMinimumCharge,
      "\"subjectToMinimumCharge\" is not supported for ruleset sroc.") ]

def period (p : Payload) : Option ChargePeriod × List String :=
  match ChargeDate.parse p.periodStart, ChargeDate.parse p.periodEnd with
  | .ok s, .ok e =>
    (some ⟨s, e, s.financialYear⟩, ((periodRules p s e).filter (·.1)).map (·.2))
  | .ok _, .error _ => (none, ["\"periodEnd\" must be a valid date."])
  | .error _, .ok _ => (none, ["\"periodStart\" must be a valid date."])
  | .error _, .error _ =>
    (none, ["\"periodStart\" must be a valid date.", "\"periodEnd\" must be a valid date."])

def optDecimalJson : Option Decimal → Json
  | some d => .str d.toText
  | none => .null

def toJson (p : Payload) : Json :=
  .obj [("ruleset", .str p.ruleset), ("region", .str p.region),
    ("customerReference", .str p.customerReference), ("licenceNumber", .str p.licenceNumber),
    ("chargePeriod", .str p.chargePeriod), ("areaCode", .str p.areaCode),
    ("lineDescription", .str p.lineDescription), ("clientId", Json.optStr p.clientId),
    ("periodStart", .str p.periodStart), ("periodEnd", .str p.periodEnd),
    ("credit", .bool p.credit), ("billableDays", Json.int p.billableDays),
    ("authorisedDays", Json.int p.authorisedDays), ("volume", .str p.volume.toText),
    ("loss", .str p.loss), ("section127Agreement", .bool p.section127Agreement),
    ("section130Agreement", .bool p.section130Agreement),
    ("twoPartTariff", .bool p.twoPartTariff), ("compensationCharge", .bool p.compensationCharge),
    ("waterUndertaker", .bool p.waterUndertaker),
    ("regionalChargingArea", .str p.regionalChargingArea), ("source", .str p.source),
    ("season", .str p.season), ("eiucSource", .str p.eiucSource),
    ("section126Factor", optDecimalJson p.section126Factor),
    ("subjectToMinimumCharge", .bool p.subjectToMinimumCharge),
    ("chargeCategoryCode", .str p.chargeCategoryCode),
    ("chargeCategoryDescription", .str p.chargeCategoryDescription),
    ("supportedSource", .bool p.supportedSource),
    ("supportedSourceName", .str p.supportedSourceName),
    ("waterCompanyCharge", .bool p.waterCompanyCharge), ("winterOnly", .bool p.winterOnly),
    ("adjustmentFactor", optDecimalJson p.adjustmentFactor),
    ("aggregateProportion", optDecimalJson p.aggregateProportion),
    ("abatementFactor", optDecimalJson p.abatementFactor),
    ("actualVolume", optDecimalJson p.actualVolume)]

end Payload

end ChargeLedger
