import ChargeLedger.Ledger.Payload
import ChargeLedger.Validation

/-!
# The rules a payload must keep

Each field's rules, in declaration order. The source and season are required under presroc,
the charge category code under sroc, and the supported source name when the line is from a
supported source. Billable days may not exceed authorised days, which may not exceed a year
of 366 days.
-/

set_option autoImplicit false

namespace ChargeLedger.Payload

open Validation

def issues (p : Payload) : List (String × String) :=
  Validation.issues
    [ ("ruleset", checkText "ruleset" p.ruleset [.required, .oneOf "presroc sroc" ["presroc", "sroc"]]),
      ("region", checkText "region" p.region
        [.required, .oneOf "A B E N S T W Y" ["A", "B", "E", "N", "S", "T", "W", "Y"]]),
      ("customerReference", checkText "customerReference" p.customerReference
        [.required, .maxLength 12]),
      ("licenceNumber", checkText "licenceNumber" p.licenceNumber [.required, .maxLength 150]),
      ("chargePeriod", checkText "chargePeriod" p.chargePeriod [.required, .maxLength 150]),
      ("areaCode", checkText "areaCode" p.areaCode [.required, .maxLength 10]),
      ("lineDescription", checkText "lineDescription" p.lineDescription
        [.required, .maxLength 240]),
      ("clientId", match p.clientId with
        | some c => checkText "clientId" c [.skipIfEmpty, .maxLength 150]
        | none => none),
      ("periodStart", checkText "periodStart" p.periodStart [.required]),
      ("periodEnd", checkText "periodEnd" p.periodEnd [.required]),
      ("billableDays", checkInt "billableDays" p.billableDays
        [.atLeast 0, .notAbove p.authorisedDays "authorisedDays"]),
      ("authorisedDays", checkInt "authorisedDays" p.authorisedDays [.atLeast 0, .atMost 366]),
      ("loss", checkText "loss" p.loss
        [.required, .oneOf "High Medium Low 'Very Low'" ["High", "Medium", "Low", "Very Low"]]),
      ("regionalChargingArea", checkText "regionalChargingArea" p.regionalChargingArea
        [.required, .maxLength 50]),
      ("source", checkText "source" p.source
        [.requiredWhen (p.ruleset == "presroc"), .skipIfEmpty,
          .oneOf "Supported Unsupported Tidal Kielder" ["Supported", "Unsupported", "Tidal", "Kielder"]]),
      ("season", checkText "season" p.season
        [.requiredWhen (p.ruleset == "presroc"), .skipIfEmpty,
          .oneOf "Summer Winter 'All Year'" ["Summer", "Winter", "All Year"]]),
      ("eiucSource", checkText "eiucSource" p.eiucSource
        [.skipIfEmpty, .oneOf "Tidal Other" ["Tidal", "Other"]]),
      ("chargeCategoryCode", checkText "chargeCategoryCode" p.chargeCategoryCode
        [.requiredWhen (p.ruleset == "sroc"), .maxLength 10]),
      ("chargeCategoryDescription", checkText "chargeCategoryDescription"
        p.chargeCategoryDescription [.maxLength 150]),
      ("supportedSourceName", checkText "supportedSourceName" p.supportedSourceName
        [.requiredWhen p.supportedSource, .maxLength 150]) ]

end ChargeLedger.Payload
