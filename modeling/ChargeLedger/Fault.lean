import ChargeLedger.Json.Value
import ChargeLedger.Uuid
import ChargeLedger.Ledger.Status

/-!
# Faults

Every way a ledger operation can fail, as a cause with its data. A fault has a kind (which
decides the HTTP status), a message for people, and sometimes details for programs.

The kinds, in the order a fault is classed: validation, not found, conflict, rules service
unavailable, upstream service error, unexpected. A fault of the rules service being down is
also an upstream fault; it is classed by the earlier of the two.
-/

set_option autoImplicit false

namespace ChargeLedger

/-- The class of a fault. -/
inductive FaultKind where
  | validation
  | notFound
  | conflict
  | rulesUnavailable
  | upstream
  | unexpected
  deriving DecidableEq, Repr, Inhabited

namespace FaultKind

def word : FaultKind → String
  | .validation => "validation_error"
  | .notFound => "not_found"
  | .conflict => "conflict"
  | .rulesUnavailable => "rules_service_unavailable"
  | .upstream => "upstream_service_error"
  | .unexpected => "unexpected_error"

def httpStatus : FaultKind → Nat
  | .validation => 400
  | .notFound => 404
  | .conflict => 409
  | .rulesUnavailable => 502
  | .upstream => 422
  | .unexpected => 500

end FaultKind

/-- Why an operation failed. -/
inductive Fault where
  /-- No bill run with this id in the regime. -/
  | billRunNotFound (id : Uuid)
  /-- No invoice with this id where it was looked for. -/
  | invoiceNotFound (id : Uuid)
  /-- No licence with this id on the bill run. -/
  | licenceNotFound (id : Uuid)
  /-- The bill run had another status than the one a step needs. -/
  | statusConflict (id : Uuid) (want : Status)
  /-- The bill run takes no changes in its status. -/
  | notEditable (id : Uuid) (current : Status)
  /-- The regime has no sequence counter for the region. -/
  | counterMissing (regime : String) (region : String)
  /-- A counter's number is the largest a 64-bit integer holds, so the store cannot move it on
  and still read it back as a whole number. -/
  | counterOverflow
  /-- A stored time lies outside the years 0 to 9999, whose text the store cannot read back
  as a time, so the row holding it cannot be read. -/
  | unreadableTime
  /-- Fields that break their rules, with one message each, in field order. -/
  | invalidFields (issues : List (String × String))
  /-- The charge period breaks its rules. -/
  | invalidPeriod (problems : List String)
  /-- The transaction's region is not the bill run's. -/
  | regionMismatch (billRun : Uuid) (expected actual : String)
  /-- The transaction's ruleset is not the bill run's. -/
  | rulesetMismatch (billRun : Uuid) (expected actual : String)
  /-- A transaction with the client id exists in the regime. -/
  | duplicateClientId (clientId : String) (regime : Uuid)
  /-- The bill run cannot be deleted in its status. -/
  | cannotDelete (id : Uuid) (current : Status)
  /-- The summary is being generated already. -/
  | alreadyGenerating (id : Uuid)
  /-- The summary has been generated already. -/
  | alreadyGenerated (id : Uuid)
  /-- A bill run with no transactions has nothing to summarise. -/
  | noTransactions (id : Uuid)
  /-- An invoice subject to the minimum charge has no line to copy for its adjustment. -/
  | noMinimumChargeLines (invoice : Uuid)
  /-- A bill run without a file reference has no file. -/
  | noFileReference (id : Uuid)
  /-- The file store refused a file, with its own words. -/
  | uploadFailed (message : String)
  /-- The rules service could not be reached. -/
  | rulesUnavailable
  /-- The rules service answered with a status or body that is no calculation. -/
  | rulesUnexpectedReply (status : Nat)
  /-- The rules service rejected the charge, with its messages. -/
  | rulesRejected (messages : List String)
  /-- The calculation the rules service returned could not be read. -/
  | rulesUnreadableCalculation
  /-- The rules service returned a negative charge. -/
  | rulesNegativeCharge
  /-- The source bill run of an invoice to rebill is not billed. -/
  | rebillSourceNotBilled (invoice billRun : Uuid)
  /-- The invoice to rebill is on the target bill run already. -/
  | rebillSameBillRun (invoice billRun : Uuid)
  /-- A cancel invoice cannot be rebilled. -/
  | rebillCancelInvoice (invoice : Uuid)
  /-- The invoice has been rebilled already. -/
  | rebillAlreadyRebilled (invoice : Uuid)
  /-- The invoice's region is not the target bill run's. -/
  | rebillRegionMismatch (invoice : Uuid) (source : String) (target : Uuid) (targetRegion : String)
  /-- The invoice's ruleset is not the target bill run's. -/
  | rebillRulesetMismatch (invoice : Uuid) (source : String) (target : Uuid)
      (targetRuleset : String)
  /-- The target bill run has an invoice of the kind for the customer and year already. -/
  | duplicateInvoice (billRun : Uuid) (kind : String) (customer : String) (year : Int)
  /-- The regime named in the path does not exist. -/
  | unknownRegime (raw : String)
  /-- A path segment is no identifier. -/
  | invalidId (field raw : String)
  /-- The request body names a field the request does not have. -/
  | unknownField (name : String)
  /-- The request body could not be read. -/
  | malformedBody
  deriving DecidableEq, Repr, Inhabited

namespace Fault

def kind : Fault → FaultKind
  | .billRunNotFound _ | .invoiceNotFound _ | .licenceNotFound _ | .counterMissing _ _
  | .unknownRegime _ => .notFound
  | .statusConflict _ _ | .notEditable _ _ | .duplicateClientId _ _ | .alreadyGenerating _
  | .alreadyGenerated _ | .rebillSourceNotBilled _ _ | .rebillSameBillRun _ _
  | .rebillCancelInvoice _ | .rebillAlreadyRebilled _ | .rebillRegionMismatch _ _ _ _
  | .rebillRulesetMismatch _ _ _ _ | .duplicateInvoice _ _ _ _ => .conflict
  | .invalidFields _ | .invalidPeriod _ | .regionMismatch _ _ _ | .rulesetMismatch _ _ _
  | .cannotDelete _ _ | .noTransactions _ | .invalidId _ _ | .unknownField _
  | .malformedBody => .validation
  | .rulesUnavailable => .rulesUnavailable
  | .rulesUnexpectedReply _ | .rulesRejected _ | .rulesUnreadableCalculation
  | .rulesNegativeCharge => .upstream
  | .noMinimumChargeLines _ | .noFileReference _ | .uploadFailed _ | .counterOverflow
  | .unreadableTime => .unexpected

def message : Fault → String
  | .billRunNotFound id => s!"Bill run {id} is unknown."
  | .invoiceNotFound id => s!"Invoice {id} is unknown."
  | .licenceNotFound id => s!"Licence {id} is unknown."
  | .statusConflict id want => s!"Bill run {id} does not have a status of '{want.name}'."
  | .notEditable id cur => s!"Bill run {id} cannot be edited because its status is {cur.name}."
  | .counterMissing regime region =>
    s!"Invalid sequence counter for regime '{regime}' and region '{region}'."
  | .invalidFields issues => " ".intercalate (issues.map Prod.snd)
  | .invalidPeriod problems => " ".intercalate problems
  | .regionMismatch id e a => s!"Bill run {id} is for region {e} but the transaction is for region {a}."
  | .rulesetMismatch id e a =>
    s!"Bill run {id} is for ruleset {e} but the transaction is for ruleset {a}."
  | .duplicateClientId c r => s!"A transaction with Client ID '{c}' for Regime '{r}' already exists."
  | .cannotDelete id cur => s!"Bill run {id} cannot be deleted because its status is {cur.name}."
  | .alreadyGenerating id => s!"Summary for bill run {id} is already being generated."
  | .alreadyGenerated id => s!"Summary for bill run {id} has already been generated."
  | .noTransactions id =>
    s!"Summary for bill run {id} cannot be generated because it has no transactions."
  | .noMinimumChargeLines inv => s!"invoice {inv} has no minimum charge lines"
  | .noFileReference id => s!"bill run {id} has no file reference"
  | .counterOverflow =>
    "converting driver.Value type float64 (\"9.223372036854776e+18\") to a int64: invalid syntax"
  | .unreadableTime => "unsupported Scan, storing driver.Value type string into type *time.Time"
  | .uploadFailed m => m
  | .rulesUnavailable => "The rules service is currently unavailable."
  | .rulesUnexpectedReply st => s!"The rules service returned an unexpected response ({st})."
  | .rulesRejected ms => " ".intercalate ms
  | .rulesUnreadableCalculation => "The rules service returned a calculation that could not be read."
  | .rulesNegativeCharge => "The rules service returned a negative charge value."
  | .rebillSourceNotBilled inv br =>
    s!"Invoice {inv} cannot be rebilled because its bill run {br} is not billed."
  | .rebillSameBillRun inv br => s!"Invoice {inv} is already on bill run {br}."
  | .rebillCancelInvoice inv => s!"Invoice {inv} is a cancel invoice and cannot be rebilled."
  | .rebillAlreadyRebilled inv => s!"Invoice {inv} has already been rebilled."
  | .rebillRegionMismatch inv s t tr =>
    s!"Invoice {inv} is for region {s} but bill run {t} is for region {tr}."
  | .rebillRulesetMismatch inv s t tr =>
    s!"Invoice {inv} is for ruleset {s} but bill run {t} is for ruleset {tr}."
  | .duplicateInvoice br k c y => s!"Bill run {br} already has a {k} invoice for customer {c} in {y}."
  | .unknownRegime raw => s!"Regime {raw} is unknown."
  | .invalidId _ raw => s!"{raw} is not a valid id."
  | .unknownField name => s!"{name} is not an allowed field."
  | .malformedBody => "The request body is not valid JSON."

def details : Fault → List (String × Json)
  | .invalidFields issues => issues.map fun p => (p.1, .str p.2)
  | .invalidPeriod problems => [("problems", .arr (problems.map .str))]
  | .duplicateClientId c _ => [("clientId", .str c)]
  | .rulesRejected ms => [("messages", .arr (ms.map .str))]
  | .invalidId field _ => [("field", .str field)]
  | .unknownField name => [("field", .str name)]
  | _ => []

def toJson (f : Fault) : Json :=
  let base := [("error", Json.str f.kind.word), ("message", Json.str f.message)]
  match f.details with
  | [] => .obj base
  | ds => .obj (base ++ [("details", .obj ds)])

end Fault

end ChargeLedger
