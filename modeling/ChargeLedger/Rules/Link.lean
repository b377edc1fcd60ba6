import ChargeLedger.Rules.Calculation

/-!
# The link to the rules service

A request names the regime, the ruleset and the financial year, and carries the charge
parameters; it goes to `/v1/<regime>/calculate/<ruleset>`. The link answers with the
service's reply, or with nothing when the service cannot be reached.

Requests are not repeated. A reply of status 429, or of a 5xx status other than 501, is one
the client would have tried again, so with no tries left the service counts as unavailable,
as it does when it cannot be reached.
-/

set_option autoImplicit false

namespace ChargeLedger

/-- A request for a calculation. -/
structure RulesRequest where
  regime : String
  ruleset : String
  financialYear : Int
  chargeParams : List (String × Json)
  deriving Inhabited

namespace RulesRequest

def path (r : RulesRequest) : String := "/v1/" ++ r.regime ++ "/calculate/" ++ r.ruleset

def toJson (r : RulesRequest) : Json :=
  .obj [("regime", .str r.regime), ("ruleset", .str r.ruleset),
    ("financialYear", Json.int r.financialYear), ("chargeParams", .obj r.chargeParams)]

end RulesRequest

/-- What came back from the rules service. -/
inductive RulesReply where
  /-- The service could not be reached. -/
  | unreachable
  /-- The service answered with a status and a body. -/
  | answered (status : Nat) (body : String)
  deriving Inhabited

abbrev RulesLink := RulesRequest → RulesReply

namespace RulesLink

def offline : RulesLink := fun _ => .unreachable

end RulesLink

def retriedStatus (status : Nat) : Bool := status == 429 || (status ≥ 500 && status != 501)

/-- Asks the rules service for a calculation. -/
def calculate (link : RulesLink) (req : RulesRequest) : Except Fault Calculation :=
  match link req with
  | .unreachable => .error .rulesUnavailable
  | .answered status body =>
    if retriedStatus status then .error .rulesUnavailable else readReply status body

end ChargeLedger
