import Mathlib
import ChargeLedger.Ledger.Interleaving
import ChargeLedger.Proofs.FileLayout

/-!
# Requests side by side

Run alone, the atomic steps of a request end where the request and its work end
(`Request.atomic_alone`), so running requests one after another is one of their interleavings
(`Request.steps_alone`).

Side by side, a record stays within the bill runs that take changes: its transaction checks the
bill run's status again, so it posts a line only onto a bill run that is initialised or
generated when the transaction runs (`post_checks_status`), whatever ran since its reads. A
rebill does not: its transaction trusts the check it read before, and an approval scheduled
between the two leaves the copies on an approved bill run
(`rebill_copies_land_on_approved_run`).
-/

set_option autoImplicit false

namespace ChargeLedger

open Op Store

namespace Op

variable {α β : Type} {x : Op α} {k : α → Op β} {s s' : Store} {a : α} {e : Fault}

theorem bind_of_ok (h : x s = .ok a s') : (x >>= k) s = k a s' := by
  show EStateM.bind x k s = _
  unfold EStateM.bind
  rw [h]

theorem bind_of_error (h : x s = .error e s') : (x >>= k) s = .error e s' := by
  show EStateM.bind x k s = _
  unfold EStateM.bind
  rw [h]

theorem leaves_of_error (h : x s = .error e s') : x.leaves s = s' := by
  unfold Op.leaves
  rw [h]

theorem leaves_bind_of_ok (h : x s = .ok a s') : (x >>= k).leaves s = (k a).leaves s' := by
  unfold Op.leaves
  rw [bind_of_ok h]

theorem leaves_bind_of_error (h : x s = .error e s') : (x >>= k).leaves s = s' :=
  leaves_of_error (bind_of_error h)

theorem isSome_run'_bind_of_ok (h : x s = .ok a s') :
    (EStateM.run' (x >>= k) s).isSome = (EStateM.run' (k a) s').isSome := by
  delta EStateM.run' EStateM.run
  rw [bind_of_ok h]

theorem atomically_of_ok (h : Store.atomically x s = .ok a s') : x s = .ok a s' := by
  unfold Store.atomically at h
  cases hx : x s with
  | ok b s₁ =>
    rw [hx] at h
    exact h
  | error e₁ s₁ =>
    rw [hx] at h
    cases h

end Op

/-! ## One request alone -/

theorem record_eq_prepare (env : Env) (ref : BillRunRef) (actor : String) (payload : Payload) :
    record env ref actor payload =
      Recording.prepare env ref actor payload >>= fun t => Store.atomically (post env.now t {}) := by
  unfold record Recording.prepare
  cases h : payload.normalise.period? <;> simp only [h, bind_assoc, pure_bind]

theorem Rebill.rebill_eq_place (now : Instant) (ref : BillRunRef) (invoiceId : Uuid)
    (actor : String) :
    rebill now ref invoiceId actor = check ref invoiceId >>= fun c => place now c.1 c.2 actor :=
  rfl

namespace Atomic

variable (env : Env)

theorem after_some (task : Task) (s : Store) :
    (after env (some task)).run.leaves s = (task.perform env s).1 := by
  unfold Task.perform
  cases h : task.run env s with
  | ok u s' => exact leaves_bind_of_ok h
  | error e s' => exact leaves_bind_of_error h

theorem run_then_after (r : Request) (s : Store) :
    (r.run env >>= fun task => (after env task).run).leaves s = r.step env s := by
  unfold Request.step
  cases h : r.run env s with
  | ok task s' =>
    rw [leaves_bind_of_ok h]
    cases task with
    | none => rfl
    | some task => exact after_some env task s'
  | error e s' => exact leaves_bind_of_error h

end Atomic

theorem Request.atomic_record (env : Env) (slug : String) (id : Uuid) (actor : String)
    (p : Payload) :
    (Request.atomic env (.record slug id actor p)).run =
      (Request.record slug id actor p).run env >>= fun task => (Atomic.after env task).run := by
  simp only [Request.atomic, Atomic.run, Request.run, record_eq_prepare, Atomic.after, bind_assoc,
    pure_bind]

theorem Request.atomic_rebill (env : Env) (slug : String) (id invoice : Uuid) (actor : String) :
    (Request.atomic env (.rebill slug id invoice actor)).run =
      (Request.rebill slug id invoice actor).run env >>= fun task =>
        (Atomic.after env task).run := by
  simp only [Request.atomic, Atomic.run, Atomic.ofTask, Request.run, Rebill.rebill_eq_place,
    Atomic.after, bind_assoc, pure_bind]

/-- Run alone, the atomic steps of a request end where the request and its work end. -/
theorem Request.atomic_alone (env : Env) (r : Request) (s : Store) :
    (r.atomic env).run.leaves s = r.step env s := by
  cases r
  case record slug id actor p =>
    rw [Request.atomic_record]
    exact Atomic.run_then_after env _ s
  case rebill slug id invoice actor =>
    rw [Request.atomic_rebill]
    exact Atomic.run_then_after env _ s
  all_goals exact Atomic.run_then_after env _ s

/-! ## Interleavings -/

namespace Interleaving

abbrev Steps : Store × List Atomic → Store × List Atomic → Prop := Relation.ReflTransGen Step

/-- A program may run to its end without any other program taking a step. -/
theorem steps_alone (p : Atomic) (s : Store) (before after : List Atomic) :
    Steps (s, before ++ p :: after) (p.run.leaves s, before ++ .done :: after) := by
  induction p generalizing s with
  | done => exact .refl
  | step x next ih =>
    cases hx : x s with
    | ok a s' =>
      rw [show (Atomic.step x next).run.leaves s = (next a).run.leaves s' from
        leaves_bind_of_ok hx]
      exact .head (.ok before after hx) (ih a s')
    | error e s' =>
      rw [show (Atomic.step x next).run.leaves s = s' from leaves_bind_of_error hx]
      exact .single (.error before after hx)

end Interleaving

/-- Running requests one after another is one of their interleavings. -/
theorem Request.steps_alone (env : Env) (r : Request) (s : Store) :
    Interleaving.Steps (s, [r.atomic env]) (r.step env s, [.done]) := by
  rw [← Request.atomic_alone env r s]
  exact Interleaving.steps_alone (r.atomic env) s [] []

/-! ## What the second step of a record checks -/

theorem post_guarded (now : Instant) (t : Transaction) (how : Posting) (s₀ : Store) :
    Triple (· = s₀) (post now t how)
      (fun _ _ => (s₀.guarded t.billRunId how.allowed (BillRun.posted now t.tally)).1 = true)
      (fun _ => True) := by
  unfold post
  extract_lets delta line invoice
  rw [addBillRunTally_eq, show delta = t.tally from rfl]
  refine .modifyGet_bind ?_
  generalize s₀.guarded t.billRunId how.allowed (BillRun.posted now t.tally) = g
  obtain ⟨ok, s₁⟩ := g
  cases ok
  · exact .bind (refusal_fails t.billRunId trivial) fun _ => .absurd _
  · exact (Triple.always _).mono (fun _ h => h) (fun _ _ _ => rfl) fun _ h => h

/-- Wherever a record's transaction is scheduled among other requests' steps, it posts its line
only onto a bill run that is initialised or generated when it runs. -/
theorem post_checks_status (now : Instant) (t : Transaction) {s s' : Store} {u : Transaction}
    (h : Store.atomically (post now t {}) s = .ok u s') :
    s.statusOf t.billRunId = some .initialised ∨ s.statusOf t.billRunId = some .generated := by
  obtain ⟨b, hb, hst⟩ := guarded_found ((post_guarded now t {} s).of_ok rfl (atomically_of_ok h))
  have hb' : b.status = .initialised ∨ b.status = .generated := by simpa using hst
  rw [statusOf, hb, Option.map_some]
  rcases hb' with e | e <;> simp [e]

/-! ## A rebill and an approval side by side -/

def rebillRun : Store :=
  Request.step tenPoundRules (.generate "wrls" (Uuid.ofSerial 40)) <|
  Request.step tenPoundRules (.record "wrls" (Uuid.ofSerial 40) "system" srocLine) <|
  Request.step tenPoundRules (.create "wrls" "system" "A" "sroc") TransactionFile.sentRun

/-- A rebill onto the generated bill run of `rebillRun` and an approval of it, side by side: the
rebill reads, the approval runs, and the rebill's transaction then adds its two copies to the
bill run, now approved. -/
theorem rebill_copies_land_on_approved_run :
    Reachable Env.Reliable rebillRun ∧ rebillRun.statusOf (Uuid.ofSerial 40) = some .generated ∧
      ∃ s₁ s₂ s₃ ps₁ ps₂ ps₃,
        Interleaving.Step (rebillRun,
          [Request.atomic tenPoundRules (.rebill "wrls" (Uuid.ofSerial 40) (Uuid.ofSerial 38) "system"),
            Request.atomic tenPoundRules (.approve "wrls" (Uuid.ofSerial 40))]) (s₁, ps₁) ∧
        Interleaving.Step (s₁, ps₁) (s₂, ps₂) ∧ Interleaving.Step (s₂, ps₂) (s₃, ps₃) ∧
        s₂.statusOf (Uuid.ofSerial 40) = some .approved ∧
        s₃.statusOf (Uuid.ofSerial 40) = some .approved ∧
        s₃.invoiceCount (Uuid.ofSerial 40) = s₂.invoiceCount (Uuid.ofSerial 40) + 2 := by
  have hrel : tenPoundRules.Reliable := ⟨rfl, by decide⟩
  refine ⟨.step _ _ hrel <| .step _ _ hrel <| .step _ _ hrel <| .step _ _ hrel approvedRun_reachable,
    by decide +kernel, ?_⟩
  let check : Op (BillRun × Invoice) := do
    Rebill.check (← Request.refIn "wrls" (Uuid.ofSerial 40)) (Uuid.ofSerial 38)
  let approve := (Request.approve "wrls" (Uuid.ofSerial 40)).run tenPoundRules
  let place := fun c : BillRun × Invoice => Rebill.place tenPoundRules.now c.1 c.2 "system"
  -- the rebill reads, the approval runs, then the rebill inserts
  obtain ⟨c, s₁, h₁⟩ := Op.exists_ok (x := check) (s := rebillRun) (by decide +kernel)
  have hok₂ : (EStateM.run' (check >>= fun _ => approve) rebillRun).isSome = true := by
    decide +kernel
  rw [isSome_run'_bind_of_ok h₁] at hok₂
  obtain ⟨a₂, s₂, h₂⟩ := Op.exists_ok hok₂
  have hok₃ : (EStateM.run' (check >>= fun c => approve >>= fun _ => place c) rebillRun).isSome =
      true := by
    decide +kernel
  rw [isSome_run'_bind_of_ok h₁, isSome_run'_bind_of_ok h₂] at hok₃
  obtain ⟨p₃, s₃, h₃⟩ := Op.exists_ok hok₃
  have hst₂ : ((check >>= fun _ => approve).leaves rebillRun).statusOf (Uuid.ofSerial 40) =
      some .approved := by
    decide +kernel
  have hst₃ : ((check >>= fun c => approve >>= fun _ => place c).leaves rebillRun).statusOf
      (Uuid.ofSerial 40) = some .approved := by
    decide +kernel
  have hcount : ((check >>= fun c => approve >>= fun _ => place c).leaves rebillRun).invoiceCount
      (Uuid.ofSerial 40) =
      ((check >>= fun _ => approve).leaves rebillRun).invoiceCount (Uuid.ofSerial 40) + 2 := by
    decide +kernel
  rw [leaves_bind_of_ok h₁, leaves_of_ok h₂] at hst₂
  rw [leaves_bind_of_ok h₁, leaves_bind_of_ok h₂, leaves_of_ok h₃] at hst₃
  rw [leaves_bind_of_ok h₁, leaves_bind_of_ok h₂, leaves_of_ok h₃, leaves_bind_of_ok h₁,
    leaves_of_ok h₂] at hcount
  exact ⟨s₁, s₂, s₃, _, _, _, .ok [] [_] h₁, .ok [_] [] h₂, .ok [] [_] h₃, hst₂, hst₃, hcount⟩

end ChargeLedger
