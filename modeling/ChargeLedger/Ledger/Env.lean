import ChargeLedger.Ledger.Store.Write
import ChargeLedger.Thresholds
import ChargeLedger.Rules.Link

/-!
# What an operation sees besides the store

The time it runs at (the clock does not move while one request and the work it starts are
handled), the de minimis and minimum charge thresholds of each regime, the link to the rules
service, and whether the file store refuses files, with the words it refuses them in.

A request about one bill run names it by regime and identifier: a bill run of another regime
is not found.
-/

set_option autoImplicit false

namespace ChargeLedger

/-- The surroundings of an operation. -/
structure Env where
  now : Instant
  thresholds : ThresholdTable := ThresholdTable.builtIn
  rules : RulesLink := RulesLink.offline
  /-- When set, the file store refuses every file with this message. -/
  uploadRefusal : Option String := none

/-- A bill run as a request names it: its regime and its identifier. -/
structure BillRunRef where
  regimeId : Uuid
  regimeSlug : String
  billRunId : Uuid
  deriving DecidableEq, Repr, Inhabited

/-- Fails with a fault unless the condition holds. -/
def Op.require (cond : Bool) (f : Fault) : Op Unit := if cond then pure () else throw f

/-- The bill run a request names, or a fault saying it is unknown or does not read back. -/
def Op.billRunOf (ref : BillRunRef) : Op BillRun := do
  match ← Store.readRow BillRun.readable ((← get).billRunIn? ref.regimeId ref.billRunId) with
  | some b => pure b
  | none => throw (.billRunNotFound ref.billRunId)

def Op.ofExcept {α : Type} : Except Fault α → Op α
  | .ok a => pure a
  | .error e => throw e

end ChargeLedger
