import ChargeLedger.Ledger.Posting
import ChargeLedger.Ledger.Payload.Rules

/-!
# Recording a charge line

A client's payload becomes a transaction in these steps, each of which may refuse it: the
payload is normalised and its fields checked; its charge period is checked; the bill run must
exist in the regime, be of the payload's region and ruleset, and take changes; the rules
service prices the line. The transaction is then posted as one block.

The rules service is sent the charge period, the days, the volume and the facts of the
ruleset: source, season and the section 126 factor (1 unless given) under presroc; charge
category, supported source, water company and winter flags and any adjustment factors under
sroc.

The stored line keeps what the invoice file prints: its licence number, charge period, prorata
days, volume and the factors of the calculation as line attributes, and the payload's facts as
regime values.
-/

set_option autoImplicit false

namespace ChargeLedger

namespace Payload

def period? (p : Payload) : Except (List String) ChargePeriod :=
  match p.period with
  | (some c, []) => .ok c
  | (_, problems) => .error problems

def decimalParam (d : Decimal) : Json := .str d.toText

def chargeParams (p : Payload) (c : ChargePeriod) : List (String × Json) :=
  let common : List (String × Json) :=
    [("chargePeriodStart", .str (ChargeDate.format c.start)),
      ("chargePeriodEnd", .str (ChargeDate.format c.finish)),
      ("billableDays", Json.int p.billableDays), ("authorisedDays", Json.int p.authorisedDays),
      ("volume", decimalParam p.volume), ("loss", .str p.loss),
      ("section127Agreement", .bool p.section127Agreement),
      ("section130Agreement", .bool p.section130Agreement),
      ("twoPartTariff", .bool p.twoPartTariff), ("compensationCharge", .bool p.compensationCharge),
      ("waterUndertaker", .bool p.waterUndertaker),
      ("regionalChargingArea", .str p.regionalChargingArea)]
  let optional (key : String) : Option Decimal → List (String × Json)
    | some d => [(key, decimalParam d)]
    | none => []
  if p.ruleset == "sroc" then
    common ++ [("chargeCategoryCode", .str p.chargeCategoryCode),
      ("supportedSource", .bool p.supportedSource),
      ("supportedSourceName", .str p.supportedSourceName),
      ("waterCompanyCharge", .bool p.waterCompanyCharge), ("winterOnly", .bool p.winterOnly)] ++
      optional "adjustmentFactor" p.adjustmentFactor ++
      optional "aggregateProportion" p.aggregateProportion ++
      optional "abatementFactor" p.abatementFactor ++ optional "actualVolume" p.actualVolume
  else
    common ++ [("source", .str p.source), ("season", .str p.season),
      ("eiucSource", .str p.eiucSource),
      ("section126Factor", decimalParam (p.section126Factor.getD (Decimal.ofInt 1)))]

end Payload

namespace Transaction

def flagText (b : Bool) : String := if b then "true" else "false"

def ofPayload (id : Uuid) (regime : Uuid) (actor : String) (b : BillRun) (p : Payload)
    (c : ChargePeriod) (priced : Calculation) : Transaction :=
  let sroc := b.ruleset == .sroc
  let f := Calculation.factor
  let pick (forSroc forPresroc : String) : String := if sroc then forSroc else forPresroc
  { id, regimeId := regime, billRunId := b.id, clientId := p.clientId,
    customerReference := p.customerReference, region := b.region, ruleset := b.ruleset,
    chargeValue := priced.pence, chargeCredit := p.credit,
    subjectToMinimumCharge := p.subjectToMinimumCharge, chargeFinancialYear := c.financialYear,
    chargePeriodStart := c.start, chargePeriodEnd := c.finish, areaCode := p.areaCode,
    lineDescription := p.lineDescription, licenceNumber := p.licenceNumber,
    attributes :=
      [p.chargePeriod, p.prorataDays, p.volume.toText,
        pick (f priced.baseCharge) (f priced.sucFactor),
        pick (f priced.waterCompanyChargeValue) (f priced.sourceFactor),
        pick (f priced.supportedSourceValue) (f priced.seasonFactor),
        pick (f priced.winterOnlyFactor) (f priced.lossFactor),
        f priced.abatementAdjustment, f priced.s127Agreement,
        pick (f priced.compensationChargePercent) (f priced.eiucSourceFactor),
        f priced.eiucFactor, f priced.s130Agreement, f priced.volumeFactor,
        pick p.chargeCategoryCode ""],
    regimeTexts :=
      [ChargeDate.format c.start, ChargeDate.format c.finish, toString p.authorisedDays,
        toString p.billableDays, p.volume.toText,
        pick p.chargeCategoryCode p.source, pick p.chargeCategoryDescription p.season, p.loss,
        flagText p.section130Agreement, flagText p.section127Agreement,
        pick (f p.adjustmentFactor) (f p.section126Factor),
        pick (f p.aggregateProportion) p.eiucSource,
        flagText p.twoPartTariff, flagText p.waterUndertaker, p.regionalChargingArea,
        pick p.supportedSourceName "",
        pick (flagText p.winterOnly) "", pick (flagText p.supportedSource) "",
        pick (flagText p.waterCompanyCharge) ""],
    compensation := p.compensationCharge, chargeCalculation := some priced.raw, createdBy := actor,
    createdAt := ⟨0⟩, updatedAt := ⟨0⟩ }

end Transaction

/-- Records a charge line sent by `actor` on a bill run. -/
def record (env : Env) (ref : BillRunRef) (actor : String) (payload : Payload) : Op Transaction := do
  let p := payload.normalise
  let issues := p.issues
  Op.require issues.isEmpty (.invalidFields issues)
  let c ← match p.period? with
    | .ok c => pure c
    | .error problems => throw (.invalidPeriod problems)
  let b ← Op.billRunOf ref
  Op.require (b.region.name == p.region) (.regionMismatch b.id b.region.name p.region)
  Op.require (b.ruleset.name == p.ruleset) (.rulesetMismatch b.id b.ruleset.name p.ruleset)
  Op.require b.status.editable (.notEditable b.id b.status)
  let priced ← Op.ofExcept (calculate env.rules
    { regime := ref.regimeSlug, ruleset := b.ruleset.name, financialYear := c.financialYear,
      chargeParams := p.chargeParams c })
  let id ← Store.fresh
  Store.atomically (post env.now (Transaction.ofPayload id ref.regimeId actor b p c priced) {})

end ChargeLedger
