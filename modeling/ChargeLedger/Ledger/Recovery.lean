import ChargeLedger.Ledger.Store.Write

/-!
# Recovering stuck generations

A bill run left generating for longer than a threshold (15 minutes unless set) is put back to
initialised, so it can be generated again. At most a batch of them (50 unless set) is
recovered at a time, those changed longest ago first, where "before" and "longest ago" compare
the stored texts of the times.
-/

set_option autoImplicit false

namespace ChargeLedger

namespace Recovery

def defaultThreshold : Int := 15 * 60 * Instant.perSecond

def defaultBatch : Int := 50

def orDefault (value default : Int) : Int := if value ≤ 0 then default else value

/-- Puts back to initialised the bill runs generating since before `thresholdSeconds` ago, at
most `batch` of them. The threshold is a 64-bit span of nanoseconds, so a huge count of
seconds wraps around before its default is applied. Every bill run picked must read back. -/
def recover (now : Instant) (thresholdSeconds batch : Int) : Op Unit := do
  let threshold := orDefault (Instant.spanOfSeconds thresholdSeconds) defaultThreshold
  let cutoff := now.addNanos (-threshold)
  let stale := (← get).staleIn .generating cutoff (orDefault batch defaultBatch).toNat
  if !stale.all BillRun.readable then throw .unreadableTime
  stale.forM fun b => do
    let _ ← Store.setStatus b.id [.generating] .initialised now

end Recovery

end ChargeLedger
