import ChargeLedger.Ledger.Payload
import ChargeLedger.Json.Record

/-!
# Reading a payload from JSON

The payload's fields, in the order they are declared, with their type names and how each
takes a value. An unknown key is refused.
-/

set_option autoImplicit false

namespace ChargeLedger.Payload

open Json in
def fields : List (RecordField Payload) :=
  [ textField "ruleset" "domain.Ruleset" fun v p => { p with ruleset := v },
    textField "region" "string" fun v p => { p with region := v },
    textField "customerReference" "string" fun v p => { p with customerReference := v },
    textField "licenceNumber" "string" fun v p => { p with licenceNumber := v },
    textField "chargePeriod" "string" fun v p => { p with chargePeriod := v },
    textField "areaCode" "string" fun v p => { p with areaCode := v },
    textField "lineDescription" "string" fun v p => { p with lineDescription := v },
    optTextField "clientId" fun v p => { p with clientId := v },
    textField "periodStart" "string" fun v p => { p with periodStart := v },
    textField "periodEnd" "string" fun v p => { p with periodEnd := v },
    flagField "credit" fun v p => { p with credit := v },
    intField "billableDays" "int" fun v p => { p with billableDays := v },
    intField "authorisedDays" "int" fun v p => { p with authorisedDays := v },
    decimalField "volume" fun v p => { p with volume := v },
    textField "loss" "string" fun v p => { p with loss := v },
    flagField "section127Agreement" fun v p => { p with section127Agreement := v },
    flagField "section130Agreement" fun v p => { p with section130Agreement := v },
    flagField "twoPartTariff" fun v p => { p with twoPartTariff := v },
    flagField "compensationCharge" fun v p => { p with compensationCharge := v },
    flagField "waterUndertaker" fun v p => { p with waterUndertaker := v },
    textField "regionalChargingArea" "string" fun v p => { p with regionalChargingArea := v },
    textField "source" "string" fun v p => { p with source := v },
    textField "season" "string" fun v p => { p with season := v },
    textField "eiucSource" "string" fun v p => { p with eiucSource := v },
    optDecimalField "section126Factor" fun v p => { p with section126Factor := v },
    flagField "subjectToMinimumCharge" fun v p => { p with subjectToMinimumCharge := v },
    textField "chargeCategoryCode" "string" fun v p => { p with chargeCategoryCode := v },
    textField "chargeCategoryDescription" "string" fun v p =>
      { p with chargeCategoryDescription := v },
    flagField "supportedSource" fun v p => { p with supportedSource := v },
    textField "supportedSourceName" "string" fun v p => { p with supportedSourceName := v },
    flagField "waterCompanyCharge" fun v p => { p with waterCompanyCharge := v },
    flagField "winterOnly" fun v p => { p with winterOnly := v },
    optDecimalField "adjustmentFactor" fun v p => { p with adjustmentFactor := v },
    optDecimalField "aggregateProportion" fun v p => { p with aggregateProportion := v },
    optDecimalField "abatementFactor" fun v p => { p with abatementFactor := v },
    optDecimalField "actualVolume" fun v p => { p with actualVolume := v } ]

def ofJson (j : Json) : Except Json.ReadFault Payload :=
  Json.readRecord "domain.TransactionPayload" "TransactionPayload" fields {} j

end ChargeLedger.Payload
