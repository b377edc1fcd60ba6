import ChargeLedger.Proofs.StatusSteps

/-!
# Billed bill runs are frozen

Once a bill run is billed nothing writes to it again, whatever the surroundings: every request
on it asks for another status and fails before it writes, recovery moves only generating bill
runs, and every other request changes only the bill run it is about. So a request, with the
work it leaves, keeps the row, invoices, licences and lines of every billed bill run.
-/

set_option autoImplicit false

namespace ChargeLedger

open Op Store

namespace Status

def sent : Status → Bool
  | .pending | .sending | .billed | .billingNotRequired => true
  | _ => false

theorem not_editable_of_sent {a : Status} (h : a.sent = true) : a.editable = false := by
  cases a <;> simp_all [sent, editable]

end Status

namespace Store

variable {s : Store} {X Y : Uuid}

theorem part_guarded_of_status {allowed : List Status} {f : BillRun → BillRun}
    (hf : ∀ b, (f b).id = b.id) {a : Status} (hX : s.statusOf X = some a)
    (ha : allowed.contains a = false) : (s.guarded Y allowed f).2.part X = s.part X := by
  by_cases hY : Y = X
  · subst hY
    cases hg : (s.guarded Y allowed f).1
    · rw [guarded_false hg]
    · -- the write took, so it found the bill run in an allowed status
      obtain ⟨b, hb, hok⟩ := guarded_found hg
      rw [statusOf, hb, Option.map_some] at hX
      rw [Option.some.inj hX, ha] at hok
      cases hok
  · exact (confined_guarded hf X (Ne.symm hY)).symm

end Store

variable {s₀ : Store}

theorem recover_keeps_part (now : Instant) (threshold batch : Int) {X : Uuid} {a : Status}
    (hX : s₀.statusOf X = some a) (ha : a ≠ .generating) :
    Keeps (fun s => s.part X = s₀.part X) (Recovery.recover now threshold batch) := by
  have hno : [Status.generating].contains a = false := by simp [ha]
  have hset : ∀ Y, Keeps (fun s => s.part X = s₀.part X)
      (setStatus Y [.generating] .initialised now) := fun _ =>
    .modifyGet fun _ h => ⟨(part_guarded_of_status
      (f := fun b => { b with status := .initialised, updatedAt := now }) (fun _ => rfl)
      ((statusOf_of_part h).trans hX) hno).trans h, Nat.le_of_eq guarded_issued.symm⟩
  refine .bind .get fun _ => ?_
  dsimp only
  split
  · exact .bind (.throw _) fun _ => .forM fun _ _ => .bind (hset _) fun _ => .pure ()
  · exact .forM fun _ _ => .bind (hset _) fun _ => .pure ()

theorem send_needs_approved (now : Instant) (ref : BillRunRef) (hs₀ : s₀.Sound) :
    Triple (· = s₀) (BillRun.send now ref)
      (fun _ _ => s₀.statusOf ref.billRunId = some .approved)
      (fun s => s.part ref.billRunId = s₀.part ref.billRunId) := by
  refine Triple.bind ((billRunOf_found ref).mono (fun _ h => h) (fun _ _ h => h)
    fun _ e => by rw [e]) fun b => Triple.of_eq fun s h => ?_
  obtain ⟨e, hb⟩ := h
  subst s
  refine Triple.require_bind (fun _ _ e => by rw [e]) fun hap => ?_
  have hst : s₀.statusOf ref.billRunId = some .approved := by
    rw [statusOf, hs₀.billRun?_of_billRunIn? hb, Option.map_some, eq_of_beq hap]
  exact Triple.bind (Triple.atomically fun _ e => (Triple.always _).mono (fun _ h => h)
    (fun _ _ h => h) fun _ _ => by rw [e]; rfl) fun _ => Triple.pure fun _ _ => hst

section Step

variable (env : Env) (hc : s₀.Consistent)

theorem recover_run_keeps (threshold batch : Int) {X : Uuid} {a : Status}
    (hX : s₀.statusOf X = some a) (ha : a ≠ .generating) :
    Triple (· = s₀) ((Request.recover threshold batch).run env)
      (Request.Finishes env (·.part X = s₀.part X)) (·.part X = s₀.part X) :=
  Triple.bind ((recover_keeps_part env.now threshold batch hX ha).triple.mono
    (fun _ e => by rw [e]) (fun _ _ h => h) fun _ h => h) fun _ => Triple.pure fun _ h => h

include hc in
theorem run_on_sent (r : Request) {a : Status} (hX : s₀.statusOf (r.target s₀) = some a)
    (ha : a.sent = true) :
    Triple (· = s₀) (r.run env) (Request.Finishes env (·.part (r.target s₀) = s₀.part (r.target s₀)))
      (·.part (r.target s₀) = s₀.part (r.target s₀)) := by
  have hb : ∀ a', s₀.statusOf (r.target s₀) = some a' → a'.sent = true :=
    fun _ h => by rw [← Option.some.inj (hX.symm.trans h)]; exact ha
  have hed : ∀ a', s₀.statusOf (r.target s₀) = some a' → a'.editable = true → False :=
    fun a' h hed => by simp [Status.not_editable_of_sent (hb a' h)] at hed
  cases r <;> simp only [Request.run, Request.target] at hX hb hed ⊢
  case create => exact absurd (hX.symm.trans hc.sound.statusOf_ofSerial) (Option.some_ne_none _)
  case record slug X actor p =>
    refine answered_none env slug X rfl fun ref e => ?_
    subst e
    exact (record_outcome env ref actor p).mono (fun _ h => h)
      (fun _ _ h => (hed _ h.1.choose_spec.1 h.1.choose_spec.2).elim) fun _ h => h
  case generate slug X =>
    refine answered_none env slug X rfl fun ref e => ?_
    subst e
    exact (generate_outcome env ref).mono (fun _ h => h)
      (fun _ _ h => absurd (hb _ h.1) (by decide))
      fun _ h => h.resolve_right fun h' => absurd (hb _ h'.1) (by decide)
  case approve slug X =>
    refine answered_none env slug X rfl fun ref e => ?_
    subst e
    exact (approve_outcome env.now ref).mono (fun _ h => h)
      (fun _ _ h => absurd (hb _ h.1) (by decide)) fun _ e => by rw [e]
  case send slug X =>
    refine answered_work env slug X rfl fun ref e => ?_
    subst e
    exact (send_needs_approved env.now ref hc.sound).mono (fun _ h => h)
      (fun _ _ h => absurd (hb _ h) (by decide)) fun _ h => h
  case delete slug X =>
    refine answered_none env slug X rfl fun ref e => ?_
    subst e
    exact (delete_outcome env.now ref).mono (fun _ h => h)
      (fun _ _ h => (hed _ h.1.choose_spec.1 h.1.choose_spec.2).elim) fun _ h => h
  case deleteLicence slug X licence =>
    refine answered_work env slug X rfl fun ref e => ?_
    subst e
    exact (deleteLicence_outcome ref licence hc.sound).mono (fun _ h => h)
      (fun _ _ h => (hed _ h.2.choose_spec.1 h.2.choose_spec.2.1).elim) fun _ e => by rw [e]
  case deleteInvoice slug X invoice =>
    refine answered_work env slug X rfl fun ref e => ?_
    subst e
    exact (deleteInvoice_outcome ref invoice hc.sound).mono (fun _ h => h)
      (fun _ _ h => (hed _ h.2.choose_spec.1 h.2.choose_spec.2.1).elim) fun _ e => by rw [e]
  case rebill slug X invoice actor =>
    refine Triple.bind ((refIn_billRun slug X).mono (fun _ h => h) (fun _ _ h => h)
      fun _ e => by rw [e]) fun ref => Triple.of_eq fun _ hs => ?_
    rw [hs.1]
    obtain ⟨-, hX⟩ := hs
    subst hX
    exact Triple.bind ((rebill_outcome env.now ref invoice actor hc.sound).mono (fun _ h => h)
      (fun _ _ h => (hed _ h.2.1.choose_spec.1 h.2.1.choose_spec.2).elim) fun _ h => h)
      fun _ => Triple.absurd _
  case recover threshold batch =>
    exact recover_run_keeps env threshold batch hX fun e => by subst e; cases ha

include hc in
/-- In every surroundings, a request with the work it leaves keeps every billed bill run as it
was: its row, its invoices, its licences and its lines. -/
theorem step_keeps_billed (r : Request) {X : Uuid} (hX : s₀.statusOf X = some .billed) :
    (r.step env s₀).part X = s₀.part X := by
  -- recovery is about no bill run, so it is taken apart first
  by_cases hrec : ∃ threshold batch, r = .recover threshold batch
  · obtain ⟨threshold, batch, rfl⟩ := hrec
    exact Request.step_of env _ (recover_run_keeps env threshold batch hX (by decide))
  by_cases hXt : X = r.target s₀
  · subst hXt
    exact Request.step_of env r (run_on_sent env hc r hX rfl)
  · exact ((step_within env r hc fun t b e => absurd ⟨t, b, e⟩ hrec).2 X hXt).symm

end Step

end ChargeLedger
