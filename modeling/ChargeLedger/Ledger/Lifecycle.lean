import ChargeLedger.Ledger.Env
import ChargeLedger.Validation

/-!
# Creating, approving and deleting bill runs

A bill run is created for a region and a ruleset (presroc unless given) of a regime that has a
counter for the region; it starts initialised and empty. A generated bill run is approved. An
initialised or generated bill run can be deleted, and takes its invoices, licences and
transactions with it.

A status change is a guarded write: when the bill run has moved on in the meantime, the change
fails with a conflict naming the status it needed, or with not found when the bill run is
gone.
-/

set_option autoImplicit false

namespace ChargeLedger

namespace BillRun

/-- The fault for a bill run that was not in status `want`. -/
def conflict (id : Uuid) (want : Status) : Op Unit := do
  match ← Store.readRow BillRun.readable ((← get).billRun? id) with
  | none => throw (.billRunNotFound id)
  | some _ => throw (.statusConflict id want)

/-- Moves a bill run from status `source` to `target`. -/
def transition (now : Instant) (id : Uuid) (source target : Status) : Op Unit := do
  if !(← Store.setStatus id [source] target now) then conflict id source

def creationIssues (region ruleset : String) : List (String × String) :=
  Validation.issues
    [ ("region", Validation.checkText "region" region
        [.required, .oneOf "A B E N S T W Y" (Region.all.map Region.name)]),
      ("ruleset", Validation.checkText "ruleset" ruleset
        [.required, .oneOf "presroc sroc" ["presroc", "sroc"]]) ]

/-- Creates a bill run for `actor` in a regime; region and ruleset are taken as sent. -/
def create (now : Instant) (regimeId : Uuid) (regimeSlug actor : String)
    (regionText rulesetText : String) : Op BillRun := do
  let region := Region.normalise regionText
  let ruleset := match Ruleset.normalise rulesetText with
    | "" => "presroc"
    | r => r
  let issues := creationIssues region ruleset
  Op.require issues.isEmpty (.invalidFields issues)
  match Region.ofName? region, Ruleset.ofName? ruleset with
  | some r, some rs =>
    let counter ← Store.readRow Counter.readable ((← get).counter? regimeId r)
    Op.require counter.isSome (.counterMissing regimeSlug region)
    let id ← Store.fresh
    let b : BillRun := { id, regimeId, region := r, ruleset := rs, status := .initialised,
                         createdBy := actor, createdAt := now, updatedAt := now }
    Store.insertBillRun b
    pure b
  | _, _ => throw (.invalidFields issues)

/-- The status of a bill run a request names. -/
def statusOf (ref : BillRunRef) : Op Status := do
  pure (← Op.billRunOf ref).status

/-- Approves a generated bill run. -/
def approve (now : Instant) (ref : BillRunRef) : Op Unit := do
  let b ← Op.billRunOf ref
  transition now b.id .generated .approved

/-- Deletes an initialised or generated bill run with all below it. -/
def delete (now : Instant) (ref : BillRunRef) : Op Unit := do
  let b ← Op.billRunOf ref
  Op.require b.status.editable (.cannotDelete b.id b.status)
  Store.atomically do
    if !(← Store.setStatus b.id [b.status] b.status now) then conflict b.id b.status
    Store.deleteBillRun b.id

end BillRun

end ChargeLedger
