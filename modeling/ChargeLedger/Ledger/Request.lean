import ChargeLedger.Ledger.Work
import ChargeLedger.Ledger.Recording
import ChargeLedger.Ledger.Generation
import ChargeLedger.Ledger.Recovery
import ChargeLedger.Ledger.Seed

/-!
# Requests, one after another

A request names a regime by its slug and asks for one of the ledger's operations; a request
for a regime the ledger does not have changes nothing. The work a request leaves runs to its
end before the next request comes. Besides the requests of clients, the scheduler recovers
stuck generations now and then.

`Request.step` is the store after one request and its work. A store is reachable when some
requests, each run in surroundings that `ok` allows, lead to it from a freshly seeded store.
-/

set_option autoImplicit false

namespace ChargeLedger

/-- What a client or the scheduler asks of the ledger. -/
inductive Request where
  | create (regime actor region ruleset : String)
  | record (regime : String) (billRun : Uuid) (actor : String) (payload : Payload)
  | generate (regime : String) (billRun : Uuid)
  | approve (regime : String) (billRun : Uuid)
  | send (regime : String) (billRun : Uuid)
  | delete (regime : String) (billRun : Uuid)
  | deleteLicence (regime : String) (billRun licence : Uuid)
  | deleteInvoice (regime : String) (billRun invoice : Uuid)
  | rebill (regime : String) (billRun invoice : Uuid) (actor : String)
  | recover (threshold batch : Int)

namespace Request

/-- The regime with a slug. -/
def regimeNamed (slug : String) : Op Regime := do
  match (← get).regimeBySlug slug with
  | some r => pure r
  | none => throw (.unknownRegime slug)

/-- The bill run of a regime that a request names. -/
def refIn (slug : String) (billRun : Uuid) : Op BillRunRef := do
  let r ← regimeNamed slug
  pure ⟨r.id, r.slug, billRun⟩

/-- Runs a request; the work it leaves, if any. -/
def run (env : Env) : Request → Op (Option Task)
  | .create slug actor region ruleset => do
    let r ← regimeNamed slug
    let _ ← BillRun.create env.now r.id r.slug actor region ruleset
    pure none
  | .record slug id actor p => do
    let _ ← ChargeLedger.record env (← refIn slug id) actor p
    pure none
  | .generate slug id => do
    let _ ← BillRun.generate env (← refIn slug id)
    pure none
  | .approve slug id => do
    BillRun.approve env.now (← refIn slug id)
    pure none
  | .send slug id => do
    let task ← BillRun.send env.now (← refIn slug id)
    pure (some task)
  | .delete slug id => do
    BillRun.delete env.now (← refIn slug id)
    pure none
  | .deleteLicence slug id licence => do
    let task ← Deletion.deleteLicence (← refIn slug id) licence
    pure (some task)
  | .deleteInvoice slug id invoice => do
    let task ← Deletion.deleteInvoice (← refIn slug id) invoice
    pure (some task)
  | .rebill slug id invoice actor => do
    let (_, _, task) ← Rebill.rebill env.now (← refIn slug id) invoice actor
    pure (some task)
  | .recover threshold batch => do
    Recovery.recover env.now threshold batch
    pure none

/-- The store after a request and the work it leaves. -/
def step (env : Env) (r : Request) (s : Store) : Store :=
  match r.run env s with
  | .ok (some task) s' => (task.perform env s').1
  | .ok none s' => s'
  | .error _ s' => s'

end Request

/-- The stores that requests run in surroundings allowed by `ok` lead to from a seeded store. -/
inductive Reachable (ok : Env → Prop) : Store → Prop where
  | seeded (t : Instant) : Reachable ok (Store.seeded t)
  | step {s : Store} (env : Env) (r : Request) : ok env → Reachable ok s →
      Reachable ok (Request.step env r s)

end ChargeLedger
