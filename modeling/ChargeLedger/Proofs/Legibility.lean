import ChargeLedger.Proofs.Lineage
import ChargeLedger.Proofs.StatusSteps

/-!
# Every bill run reads back

A bill run's row reads back when its times are ones the store can hold (`BillRun.readable`).
Every write to a bill run stamps it with the clock of the request and keeps when it was made
(`Store.Stamps`); a send files it at that clock, and a new bill run is made at it. So as long as
the clock reads back, every bill run does (`Store.Legible`), and every ledger that requests lead
to under such clocks has all its bill runs reading back (`Reachable.legible`): a request never
fails on the times of the bill run it names.
-/

set_option autoImplicit false

namespace ChargeLedger

open Op Store

namespace Store

/-- Every bill run of the ledger reads back. -/
def Legible (s : Store) : Prop := ∀ b ∈ s.billRuns, b.readable = true

variable {s : Store} {X : Uuid} {b : BillRun}

theorem legible_seeded (t : Instant) : (Store.seeded t).Legible := by
  have hb : (Store.seeded t).billRuns = [] := rfl
  intro b h
  rw [hb] at h
  cases h

theorem Legible.mapBillRun (h : s.Legible) {f : BillRun → BillRun}
    (hf : ∀ b, b.readable = true → (f b).readable = true) : (s.mapBillRun X f).Legible := by
  intro b' hb'
  obtain ⟨b, hb, rfl⟩ := List.mem_map.1 hb'
  split
  · exact hf b (h b hb)
  · exact h b hb

theorem Legible.guarded (h : s.Legible) {allowed : List Status} {f : BillRun → BillRun}
    (hf : ∀ b, b.readable = true → (f b).readable = true) :
    (s.guarded X allowed f).2.Legible := by
  cases hg : (s.guarded X allowed f).1
  · rwa [guarded_false hg]
  · rw [(guarded_true hg).1]
    exact h.mapBillRun hf

theorem Legible.issue : ∀ s m, Legible s → s.issued ≤ m → Legible { s with issued := m } :=
  fun _ _ h _ => h

theorem Legible.readable_of_billRunIn? (h : s.Legible) {R : Uuid}
    (hb : s.billRunIn? R X = some b) : b.readable = true :=
  h b (List.mem_of_find?_eq_some hb)

end Store

/-! ## Each write and each operation -/

section Ops

variable {now : Instant} (hnow : now.storable = true)

include hnow

theorem keeps_legible_guarded {X : Uuid} {allowed : List Status} {f : BillRun → BillRun}
    (hf : Stamps now f) :
    Keeps Legible (modifyGet fun s => s.guarded X allowed f : Op Bool) :=
  .modifyGet fun _ h => ⟨h.guarded fun _ => hf.readable hnow, Nat.le_of_eq guarded_issued.symm⟩

theorem setStatus_legible (X : Uuid) (allowed : List Status) (target : Status) :
    Keeps Legible (setStatus X allowed target now) :=
  keeps_legible_guarded hnow fun _ => ⟨rfl, rfl, rfl, rfl, rfl⟩

theorem transition_legible (X : Uuid) (source target : Status) :
    Keeps Legible (BillRun.transition now X source target) :=
  .transition (setStatus_legible hnow _ _ _)

theorem addBillRunTally_legible (X : Uuid) (δ : Tally) (allowed : List Status) :
    Keeps Legible (addBillRunTally X δ allowed now) := by
  rw [addBillRunTally_eq]
  exact keeps_legible_guarded hnow fun _ => ⟨rfl, rfl, rfl, rfl, rfl⟩

omit hnow in
theorem upsertInvoice_legible (X : Uuid) (customer : String) (year : Int) (δ : Tally) :
    Keeps Legible (upsertInvoice X customer year δ now) :=
  .bind (.modifyGet fun _ h => ⟨h, Nat.le_succ _⟩) fun _ =>
    .modifyGet fun _ h => ⟨by split <;> exact h, by split <;> exact Nat.le_refl _⟩

omit hnow in
theorem upsertLicence_legible (X I : Uuid) (number : String) (δ : Tally) :
    Keeps Legible (upsertLicence X I number δ now) :=
  .bind (.modifyGet fun _ h => ⟨h, Nat.le_succ _⟩) fun _ =>
    .modifyGet fun _ h => ⟨by split <;> exact h, by split <;> exact Nat.le_refl _⟩

-- past the bill run's tally, a posting writes invoices, licences and lines only
theorem post_legible (t : Transaction) (how : Posting) : Keeps Legible (post now t how) :=
  .post (addBillRunTally_legible hnow _ _ _) (fun _ => .modifyGet fun _ h => ⟨h, Nat.le_refl _⟩)
    (upsertInvoice_legible _ _ _ _) (fun _ => upsertLicence_legible _ _ _ _)
    fun _ _ => .modify fun _ h => ⟨h, Nat.le_refl _⟩

theorem removeAdjustments_legible (X : Uuid) :
    Keeps Legible (BillRun.removeAdjustments now X) :=
  .removeAdjustments (fun _ => addBillRunTally_legible hnow _ _ _)
    (fun _ _ => .modifyGet fun _ h => ⟨h, Nat.le_refl _⟩)
    (fun _ _ => .modifyGet fun _ h => ⟨h, Nat.le_refl _⟩) fun _ => .modify fun _ h => ⟨h, Nat.le_refl _⟩

theorem applyMinimumCharges_legible (floor : Int64) (invs : List Invoice) :
    Keeps Legible (BillRun.applyMinimumCharges now floor invs) :=
  .applyMinimumCharges (fun _ _ _ _ _ => post_legible hnow _ _) Legible.issue invs

theorem summarise_legible (b : BillRun) (th : Thresholds) :
    Keeps Legible (BillRun.summarise now b th) :=
  .summarise (removeAdjustments_legible hnow _) (applyMinimumCharges_legible hnow _)
    (fun _ _ => .modify fun _ h => ⟨h, Nat.le_refl _⟩)
    fun _ => keeps_legible_guarded hnow fun _ => ⟨rfl, rfl, rfl, rfl, rfl⟩

theorem assignFile_legible (X : Uuid) (number : Int64) (reference : Option String)
    (madeAt : Option Instant) (hmade : madeAt.all Instant.storable = true)
    (source target : Status) :
    Keeps Legible (assignFile X number reference madeAt source target now) :=
  .modifyGet fun _ h => ⟨h.guarded fun b hb => by
    simp only [BillRun.readable, Bool.and_eq_true] at hb ⊢
    exact ⟨⟨hb.1.1, hnow⟩, hmade⟩, Nat.le_of_eq guarded_issued.symm⟩

theorem send_legible (ref : BillRunRef) : Keeps Legible (BillRun.send now ref) :=
  .send (fun _ _ _ => next_keeps_of (fun _ _ h => h) _ _ _ _)
    (fun _ _ => .modify fun _ h => ⟨h, Nat.le_refl _⟩)
    (fun _ file => assignFile_legible hnow _ _ _ _ (by cases file <;> simp [hnow]) _ _) Legible.issue

theorem delete_legible (ref : BillRunRef) : Keeps Legible (BillRun.delete now ref) :=
  .delete (fun _ _ => setStatus_legible hnow _ _ _)
    (.modify fun _ h => ⟨fun c hc => h c (List.mem_of_mem_filter hc), Nat.le_refl _⟩) Legible.issue

theorem create_legible (regimeId : Uuid) (slug actor region ruleset : String) :
    Keeps Legible (BillRun.create now regimeId slug actor region ruleset) := by
  unfold BillRun.create
  refine .bind (.require _ _) fun _ => ?_
  split
  · refine .bind .get fun _ => .bind (.readRow _ _) fun _ => .bind (.require _ _) fun _ =>
      .bind (.modifyGet fun _ h => ⟨h, Nat.le_succ _⟩) fun _ =>
      .bind (.modify fun _ h => ⟨fun c hc => ?_, Nat.le_refl _⟩) fun _ => .pure _
    rcases List.mem_append.1 hc with hc | hc
    · exact h c hc
    · rw [List.mem_singleton.1 hc]
      simp [BillRun.readable, hnow]
  · exact .throw _

theorem removeLicence_legible (X L : Uuid) : Keeps Legible (Deletion.removeLicence now X L) :=
  .removeLicence (fun _ => addBillRunTally_legible hnow _ _ _)
    (fun _ _ => .modifyGet fun _ h => ⟨h, Nat.le_refl _⟩) (fun _ => .modify fun _ h => ⟨h, Nat.le_refl _⟩)
    fun _ => .modify fun _ h => ⟨h, Nat.le_refl _⟩

theorem removeInvoice_legible (X I : Uuid) : Keeps Legible (Deletion.removeInvoice now X I) :=
  .removeInvoice (fun _ => addBillRunTally_legible hnow _ _ _) fun _ => .modify fun _ h => ⟨h, Nat.le_refl _⟩

theorem copyLines_legible (rebilled : Invoice) (target cancelId rebillId : Uuid) (actor : String) :
    Keeps Legible (Rebill.copyLines now rebilled target cancelId rebillId actor) :=
  .copyLines (fun _ _ _ _ => .of_keeps (post_legible hnow _ _)) Legible.issue

theorem recover_legible (threshold batch : Int) :
    Keeps Legible (Recovery.recover now threshold batch) :=
  .recover fun _ => setStatus_legible hnow _ _ _

end Ops

section Clocked

variable {env : Env} (hnow : env.now.storable = true)

include hnow

theorem generate_legible (ref : BillRunRef) : Keeps Legible (BillRun.generate env ref) :=
  .generate (fun _ _ => setStatus_legible hnow _ _ _) (fun _ _ => .of_keeps (summarise_legible hnow _ _))
    Legible.issue

theorem record_legible (ref : BillRunRef) (actor : String) (payload : Payload) :
    Keeps Legible (record env ref actor payload) :=
  .record (fun _ _ _ _ => .of_keeps (post_legible hnow _ _)) Legible.issue

theorem transmit_legible (ref : BillRunRef) : Keeps Legible (BillRun.transmit env ref) :=
  .transmit fun _ _ => setStatus_legible hnow _ _ _

theorem cascade_legible (ref : BillRunRef) (prior : Status) {remove : Op (Option Uuid)}
    (hrem : Keeps Legible remove) : Keeps Legible (Deletion.cascade env ref prior remove) :=
  .cascade (fun _ _ => setStatus_legible hnow _ _ _) (.of_keeps hrem)
    (fun _ => .of_keeps (.resummarise (fun _ _ => .modify fun _ h => ⟨h, Nat.le_refl _⟩)
      fun _ => keeps_legible_guarded hnow fun _ => ⟨rfl, rfl, rfl, rfl, rfl⟩))
    Legible.issue

theorem work_legible (task : Task) : Keeps Legible (task.run env) :=
  .work (transmit_legible hnow) (fun _ _ _ _ _ => copyLines_legible hnow _ _ _ _ _)
    (fun ref prior _ => cascade_legible hnow ref prior (removeLicence_legible hnow _ _))
    fun ref prior _ => cascade_legible hnow ref prior (removeInvoice_legible hnow _ _)

omit hnow in
theorem rebill_legible (ref : BillRunRef) (invoiceId : Uuid) (actor : String) :
    Keeps Legible (Rebill.rebill env.now ref invoiceId actor) := by
  unfold Rebill.rebill Rebill.check Rebill.insertCopy
  refine .bind (.bind (billRunOf_keeps ref) fun _ => .bind .get fun _ => ?_) fun _ => ?_
  · split
    · refine .bind (.readRow _ _) fun _ => ?_
      split
      · exact .bind (.require _ _) fun _ => .bind (.require _ _) fun _ => .bind (.require _ _)
          fun _ => .bind (.require _ _) fun _ => .bind (.require _ _) fun _ =>
          .bind (.require _ _) fun _ => .bind (.require _ _) fun _ => .bind (.require _ _)
          fun _ => .pure _
      · exact .throw _
    · exact .throw _
  · refine .bind (.modifyGet fun _ h => ⟨h, Nat.le_succ _⟩) fun _ =>
      .bind (.modifyGet fun _ h => ⟨h, Nat.le_succ _⟩) fun _ => .bind (.atomic ?_ fun _ _ h _ => h)
      fun _ => .pure _
    have hins : ∀ inv, Keeps Legible (do Op.require (← insertInvoice inv) (Fault.duplicateInvoice
        inv.billRunId inv.kind.letter inv.customerReference inv.financialYear) : Op Unit) :=
      fun _ => .bind (.modifyGet fun _ h => ⟨by split <;> exact h, by split <;> exact Nat.le_refl _⟩)
        fun _ =>
        .require _ _
    exact .bind (hins _) fun _ => hins _

theorem Store.Legible.step {s₀ : Store} (h₀ : s₀.Legible) (r : Request) :
    (r.step env s₀).Legible := by
  refine Request.step_of env r ?_
  have hstart : ∀ s, s = s₀ → s.Legible := fun _ e => by rw [e]; exact h₀
  have hnone : ∀ {α : Type} (slug : String) (X : Uuid) {op : BillRunRef → Op α},
      (∀ ref, Keeps Legible (op ref)) →
      Triple (· = s₀) (Request.refIn slug X >>= fun ref => op ref >>= fun _ => pure none)
        (Request.Finishes env Legible) Legible := fun slug X _ hop =>
    answered_none env slug X h₀ fun ref _ =>
      (hop ref).triple.mono hstart (fun _ _ h => h) fun _ h => h
  have hwork : ∀ (slug : String) (X : Uuid) {op : BillRunRef → Op Task},
      (∀ ref, Keeps Legible (op ref)) →
      Triple (· = s₀) (Request.refIn slug X >>= fun ref => op ref >>= fun task => pure (some task))
        (Request.Finishes env Legible) Legible := fun slug X _ hop =>
    answered_work env slug X h₀ fun ref _ => (hop ref).triple.mono hstart
      (fun task s h => (work_legible hnow task).triple.mono (fun _ e => by rw [e]; exact h)
        (fun _ _ h => h) fun _ h => h) fun _ h => h
  cases r <;> simp only [Request.run]
  case create slug actor region ruleset =>
    exact Triple.bind ((regimeNamed_keeps slug).triple.mono hstart (fun _ _ h => h) fun _ h => h)
      fun _ => Triple.bind (create_legible hnow _ _ _ _ _).triple fun _ => Triple.pure fun _ h => h
  case record slug X actor p => exact hnone slug X fun ref => record_legible hnow ref actor p
  case generate slug X => exact hnone slug X fun ref => generate_legible hnow ref
  case approve slug X =>
    exact hnone slug X fun ref => .bind (billRunOf_keeps ref) fun _ => transition_legible hnow _ _ _
  case delete slug X => exact hnone slug X fun ref => delete_legible hnow ref
  case send slug X => exact hwork slug X fun ref => send_legible hnow ref
  case deleteLicence slug X licence =>
    exact hwork slug X fun ref => deleteLicence_keeps ref licence
  case deleteInvoice slug X invoice =>
    exact hwork slug X fun ref => deleteInvoice_keeps ref invoice
  case rebill slug X invoice actor =>
    refine Triple.bind ((refIn_keeps slug X).triple.mono hstart (fun _ _ h => h) fun _ h => h)
      fun ref => Triple.bind (rebill_legible ref invoice actor).triple fun _ =>
        Triple.pure fun _ h => ?_
    exact (work_legible hnow _).triple.mono (fun _ e => by rw [e]; exact h) (fun _ _ h => h)
      fun _ h => h
  case recover threshold batch =>
    exact Triple.bind ((recover_legible hnow _ _).triple.mono hstart (fun _ _ h => h)
      fun _ h => h) fun _ => Triple.pure fun _ h => h

end Clocked

/-- In every ledger that requests lead to, each run at a clock that reads back, every bill run
reads back. -/
theorem Reachable.legible {ok : Env → Prop} (hok : ∀ env, ok env → env.now.storable = true)
    {s : Store} (h : Reachable ok s) : s.Legible := by
  induction h with
  | seeded t => exact legible_seeded t
  | step env r henv _ ih => exact ih.step (hok env henv) r

end ChargeLedger
