/-!
# Bill run status

A bill run is initialised, then generated (passing through generating), approved, and sent:
pending, sending, then billed, or billing not required when it has nothing to bill. An
administrator can store any other word as a status, so a status is one of the named ones or
some other name.

Editable statuses take new transactions and deletions; generating ones are being summarised;
terminal ones are done.
-/

set_option autoImplicit false

namespace ChargeLedger

/-- The status of a bill run. -/
inductive Status where
  | initialised
  | generating
  | generatingSummary
  | generated
  | approved
  | pending
  | sending
  | billed
  | billingNotRequired
  | other (name : String)
  deriving DecidableEq, Repr, Inhabited

namespace Status

def named : List Status :=
  [.initialised, .generating, .generatingSummary, .generated, .approved, .pending, .sending,
    .billed, .billingNotRequired]

def name : Status → String
  | .initialised => "initialised"
  | .generating => "generating"
  | .generatingSummary => "generating_summary"
  | .generated => "generated"
  | .approved => "approved"
  | .pending => "pending"
  | .sending => "sending"
  | .billed => "billed"
  | .billingNotRequired => "billing_not_required"
  | .other s => s

def ofName (s : String) : Status :=
  match named.find? (fun st => st.name == s) with
  | some st => st
  | none => .other s

def editable : Status → Bool
  | .initialised | .generated => true
  | _ => false

def isGenerating : Status → Bool
  | .generating | .generatingSummary => true
  | _ => false

def terminal : Status → Bool
  | .billed | .billingNotRequired => true
  | _ => false

end Status

end ChargeLedger
