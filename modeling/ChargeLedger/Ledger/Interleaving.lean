import ChargeLedger.Ledger.Request

/-!
# Requests side by side

Run one after another, each request with its work is one step of the ledger (`Request.step`).
Run side by side, a request is a program of atomic steps, each a read or one transaction of
the store, and the steps of several requests interleave.

A record reads its bill run, checks it takes changes and prices its line; then one transaction
posts the line, whose tally update checks the bill run's status again. A rebill reads its
invoice and its target, checking the target takes changes; then one transaction inserts the
cancel and rebill copies, with no second look at the target's status. The work a request
leaves is one step more. Every other request is one step.
-/

set_option autoImplicit false

namespace ChargeLedger

/-- A program of atomic steps: done, or one step and the program its result leads to. -/
inductive Atomic : Type 1 where
  | done : Atomic
  | step {α : Type} (x : Op α) (next : α → Atomic) : Atomic

namespace Atomic

/-- A program run on its own, as one operation. -/
def run : Atomic → Op Unit
  | done => pure ()
  | step x next => x >>= fun a => (next a).run

def ofTask (env : Env) (task : Task) : Atomic := step (task.run env) fun _ => done

/-- What follows a request's last step: its work, if it left any. -/
def after (env : Env) : Option Task → Atomic
  | none => done
  | some task => ofTask env task

end Atomic

namespace Recording

/-- What a record reads before its transaction: the payload's checks, its bill run's, the price
and an identifier, making the line it posts. -/
def prepare (env : Env) (ref : BillRunRef) (actor : String) (payload : Payload) :
    Op Transaction := do
  let p := payload.normalise
  let issues := p.issues
  Op.require issues.isEmpty (.invalidFields issues)
  let c ← match p.period? with
    | .ok c => pure c
    | .error problems => throw (.invalidPeriod problems)
  let b ← Op.billRunOf ref
  Op.require (b.region.name == p.region) (.regionMismatch b.id b.region.name p.region)
  Op.require (b.ruleset.name == p.ruleset) (.rulesetMismatch b.id b.ruleset.name p.ruleset)
  Op.require b.status.editable (.notEditable b.id b.status)
  let priced ← Op.ofExcept (calculate env.rules
    { regime := ref.regimeSlug, ruleset := b.ruleset.name, financialYear := c.financialYear,
      chargeParams := p.chargeParams c })
  let id ← Store.fresh
  pure (Transaction.ofPayload id ref.regimeId actor b p c priced)

end Recording

namespace Rebill

/-- What a rebill does once its checks passed: draws the copies' identifiers and inserts both
copies in one transaction. -/
def place (now : Instant) (target : BillRun) (rebilled : Invoice) (actor : String) :
    Op (Invoice × Invoice × Task) := do
  let cancel := copy (← Store.fresh) rebilled target.id .cancel now
  let again := copy (← Store.fresh) rebilled target.id .rebill now
  Store.atomically do
    insertCopy cancel
    insertCopy again
  pure (cancel, again, .copyInvoice rebilled target.id cancel.id again.id actor)

end Rebill

namespace Request

/-- A request as a program of atomic steps. -/
def atomic (env : Env) : Request → Atomic
  | .record slug id actor p =>
    .step (do Recording.prepare env (← refIn slug id) actor p) fun t =>
      .step (Store.atomically (post env.now t {})) fun _ => .done
  | .rebill slug id invoice actor =>
    .step (do Rebill.check (← refIn slug id) invoice) fun checked =>
      .step (Rebill.place env.now checked.1 checked.2 actor) fun placed =>
        .ofTask env placed.2.2
  | r => .step (r.run env) (Atomic.after env)

end Request

namespace Interleaving

/-- One atomic step of one of the programs running side by side, on the store as the others
left it. A step that fails ends its program, leaving the store as it failed. -/
inductive Step : Store × List Atomic → Store × List Atomic → Prop
  | ok {s s' : Store} {α : Type} {x : Op α} {next : α → Atomic} {a : α} (before after : List Atomic) :
      x s = .ok a s' → Step (s, before ++ .step x next :: after) (s', before ++ next a :: after)
  | error {s s' : Store} {α : Type} {x : Op α} {next : α → Atomic} {e : Fault}
      (before after : List Atomic) :
      x s = .error e s' → Step (s, before ++ .step x next :: after) (s', before ++ .done :: after)

end Interleaving

end ChargeLedger
