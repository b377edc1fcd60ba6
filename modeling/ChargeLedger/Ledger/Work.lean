import ChargeLedger.Ledger.Sending
import ChargeLedger.Ledger.Rebilling
import ChargeLedger.Ledger.Deletion

/-!
# Running work left for after a request

Each piece of work runs against the store as it is when its turn comes, and gives back the
files it delivered. Its failure is its own: it keeps the changes made before it failed and is
reported as a notice under the work's name and tags.
-/

set_option autoImplicit false

namespace ChargeLedger

/-- A failure of work left for after a request. -/
structure Notice where
  task : String
  fault : Fault
  tags : List (String × String)

namespace Task

/-- Runs a piece of work; the files it delivered come back. -/
def run (env : Env) : Task → Op (List Upload)
  | .transmit ref => BillRun.transmit env ref
  | .copyInvoice rebilled target cancelId rebillId actor => do
    Rebill.copyLines env.now rebilled target cancelId rebillId actor
    pure []
  | .removeLicence ref prior licence => do
    Deletion.cascade env ref prior (Deletion.removeLicence env.now ref.billRunId licence)
    pure []
  | .removeInvoice ref prior invoice => do
    Deletion.cascade env ref prior (Deletion.removeInvoice env.now ref.billRunId invoice)
    pure []

/-- Runs a piece of work on a store: the store after it, the files it delivered and the notice
of its failure, if it failed. -/
def perform (env : Env) (task : Task) (s : Store) : Store × List Upload × Option Notice :=
  match task.run env s with
  | .ok ups s' => (s', ups, none)
  | .error e s' => (s', [], some ⟨task.name, e, task.tags⟩)

end Task

end ChargeLedger
