import ChargeLedger.Decimal
import ChargeLedger.Text.Space
import ChargeLedger.Text.Case

/-!
# Thresholds

Two amounts in pounds govern an invoice: the de minimis limit (a positive net below it is not
billed) and the minimum charge (lines subject to it are raised to it). They are written as
decimal text: a default pair, and pairs for single regimes where a blank amount falls back
to the default's. Resolved, every amount is a whole number of pence.

Pounds read as pence when the text, trimmed, is a decimal that is not negative and has at
most two places of value (`1.000` is 100 pence). The pence are the low 64 bits of the exact
count, as a signed word.
-/

set_option autoImplicit false

namespace ChargeLedger

/-- Why pounds text is no amount. -/
inductive AmountError where
  | unreadable (e : Decimal.ReadError)
  | negative
  | tooManyPlaces
  deriving DecidableEq, Repr

def AmountError.message : AmountError → String
  | .unreadable e => e.message
  | .negative => "amount cannot be negative"
  | .tooManyPlaces => "amount has more than two decimal places"

def toPence (pounds : String) : Except AmountError Int64 :=
  match Decimal.ofText (Space.trim pounds) with
  | .error e => .error (.unreadable e)
  | .ok d =>
    if d.isNegative then .error .negative
    else
      let p := d.shift 2
      if !(p.sameValue (p.truncate 0)) then .error .tooManyPlaces
      else .ok (Int64.ofInt p.intPart)

/-- Resolved thresholds in pence. -/
structure Thresholds where
  deminimisLimit : Int64
  minimumCharge : Int64
  deriving DecidableEq, Repr, Inhabited

/-- A pair of amounts as written; a blank one is not given. -/
structure AmountRules where
  deminimisLimit : String := ""
  minimumCharge : String := ""
  deriving DecidableEq, Repr, Inhabited

/-- The written thresholds: a default pair and pairs for named regimes. -/
structure LedgerRules where
  default : AmountRules := {}
  regimes : List (String × AmountRules) := []
  deriving Repr, Inhabited

/-- An amount that could not be resolved: where it stood and why. -/
structure ConfigError where
  name : String
  field : String
  error : AmountError
  deriving DecidableEq, Repr

def ConfigError.message (e : ConfigError) : String :=
  "ledger." ++ e.name ++ "." ++ e.field ++ ": " ++ e.error.message

/-- Resolved thresholds: the default, and those of regimes by lower-case name. -/
structure ThresholdTable where
  fallback : Thresholds
  byRegime : List (String × Thresholds)
  deriving Repr, Inhabited

namespace LedgerRules

def defaultAmounts : AmountRules := ⟨"5.00", "25.00"⟩

def resolveAmount (name field text : String) (fallback : Int64) : Except ConfigError Int64 :=
  if text.isEmpty then .ok fallback
  else
    match toPence text with
    | .ok v => .ok v
    | .error e => .error ⟨name, field, e⟩

def resolvePair (name : String) (a : AmountRules) (fallback : Thresholds) :
    Except ConfigError Thresholds := do
  let d ← resolveAmount name "deminimisLimit" a.deminimisLimit fallback.deminimisLimit
  let m ← resolveAmount name "minimumCharge" a.minimumCharge fallback.minimumCharge
  pure ⟨d, m⟩

def resolve (r : LedgerRules) : Except ConfigError ThresholdTable := do
  let d : AmountRules :=
    { deminimisLimit := if r.default.deminimisLimit.isEmpty then defaultAmounts.deminimisLimit
        else r.default.deminimisLimit
      minimumCharge := if r.default.minimumCharge.isEmpty then defaultAmounts.minimumCharge
        else r.default.minimumCharge }
  let fallback ← resolvePair "default" d ⟨0, 0⟩
  let byRegime ← r.regimes.mapM fun p => do
    let t ← resolvePair p.1 p.2 fallback
    pure (Case.lowerText p.1, t)
  pure ⟨fallback, byRegime⟩

end LedgerRules

namespace ThresholdTable

def builtIn : ThresholdTable := ⟨⟨500, 2500⟩, []⟩

def lookup (t : ThresholdTable) (regime : String) : Thresholds :=
  let key := Case.lowerText (Space.trim regime)
  match (t.byRegime.reverse.find? (fun p => p.1 == key)) with
  | some p => p.2
  | none => t.fallback

end ThresholdTable

end ChargeLedger
