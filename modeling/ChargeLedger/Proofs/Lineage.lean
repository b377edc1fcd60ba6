import ChargeLedger.Proofs.Failures

/-!
# What no write changes

A bill run never changes its place (regime, region and ruleset), and an invoice never changes
what it is (bill run, customer, year, kind and the invoice it copies): writes move tallies,
statuses, flags, references and numbers. Rows only come and go. `Store.Lineage s₀ s` says that
every bill run of `s` has the place of one of `s₀`, and every invoice the lineage of one of
`s₀`, or is a new primary invoice that copies nothing.

Every operation keeps it, but a creation, which adds a bill run, and a rebill, which adds two
copies; both are taken apart where requests are.
-/

set_option autoImplicit false

namespace ChargeLedger

def BillRun.place (b : BillRun) : Uuid × Uuid × Region × Ruleset :=
  (b.id, b.regimeId, b.region, b.ruleset)

def Invoice.lineage (i : Invoice) : Uuid × Uuid × String × Int × InvoiceKind × Option Uuid :=
  (i.id, i.billRunId, i.customerReference, i.financialYear, i.kind, i.rebilledInvoiceId)

namespace Store

/-- Since `s₀` no bill run moved and no invoice changed what it is; new bill runs have new
identifiers, and new invoices are primary and copy nothing. -/
structure Lineage (s₀ s : Store) : Prop where
  billRuns : ∀ b ∈ s.billRuns, (∃ b₀ ∈ s₀.billRuns, b₀.place = b.place) ∨ b.id ∉ s₀.billRunIds
  invoices : ∀ i ∈ s.invoices, (∃ i₀ ∈ s₀.invoices, i₀.lineage = i.lineage) ∨
    (i.kind = .primary ∧ i.rebilledInvoiceId = none)

variable {s₀ s s' : Store}

theorem Lineage.refl (s : Store) : Lineage s s :=
  ⟨fun b hb => Or.inl ⟨b, hb, rfl⟩, fun i hi => Or.inl ⟨i, hi, rfl⟩⟩

theorem Lineage.of_rows (h : Lineage s₀ s)
    (hb : ∀ b' ∈ s'.billRuns, ∃ b ∈ s.billRuns, b.place = b'.place)
    (hi : ∀ i' ∈ s'.invoices, (∃ i ∈ s.invoices, i.lineage = i'.lineage) ∨
      (i'.kind = .primary ∧ i'.rebilledInvoiceId = none)) : Lineage s₀ s' := by
  refine ⟨fun b' hb' => ?_, fun i' hi' => ?_⟩
  · obtain ⟨b, hb, e⟩ := hb b' hb'
    rcases h.billRuns b hb with ⟨b₀, hb₀, e₀⟩ | hnew
    · exact Or.inl ⟨b₀, hb₀, e₀.trans e⟩
    · -- a place starts with the identifier
      have hid : b.id = b'.id := congrArg Prod.fst e
      exact Or.inr (hid ▸ hnew)
  · rcases hi i' hi' with ⟨i, hi, e⟩ | hnew
    · rcases h.invoices i hi with ⟨i₀, hi₀, e₀⟩ | ⟨hk, hr⟩
      · exact Or.inl ⟨i₀, hi₀, e₀.trans e⟩
      · -- a lineage is its fields, so a new invoice's copy is new as well
        simp only [Invoice.lineage, Prod.mk.injEq] at e
        exact Or.inr ⟨e.2.2.2.2.1 ▸ hk, e.2.2.2.2.2 ▸ hr⟩
    · exact Or.inr hnew

theorem Lineage.congr (h : Lineage s₀ s) (hb : s'.billRuns = s.billRuns)
    (hi : s'.invoices = s.invoices) : Lineage s₀ s' :=
  h.of_rows (fun b hb' => ⟨b, hb ▸ hb', rfl⟩) fun i hi' => Or.inl ⟨i, hi ▸ hi', rfl⟩

theorem Lineage.of_sublist (h : Lineage s₀ s) (hb : s'.billRuns.Sublist s.billRuns)
    (hi : s'.invoices.Sublist s.invoices) : Lineage s₀ s' :=
  h.of_rows (fun b hb' => ⟨b, hb.subset hb', rfl⟩) fun i hi' => Or.inl ⟨i, hi.subset hi', rfl⟩

theorem Lineage.mapBillRun (h : Lineage s₀ s) {X : Uuid} {f : BillRun → BillRun}
    (hf : ∀ b, (f b).place = b.place) : Lineage s₀ (s.mapBillRun X f) := by
  refine h.of_rows (fun b' hb' => ?_) fun i hi => Or.inl ⟨i, hi, rfl⟩
  obtain ⟨b, hb, rfl⟩ := List.mem_map.1 hb'
  refine ⟨b, hb, ?_⟩
  split
  · exact (hf b).symm
  · rfl

theorem Lineage.mapInvoice (h : Lineage s₀ s) {I : Uuid} {g : Invoice → Invoice}
    (hg : ∀ i, (g i).lineage = i.lineage) : Lineage s₀ (s.mapInvoice I g) := by
  refine h.of_rows (fun b hb => ⟨b, hb, rfl⟩) fun i' hi' => Or.inl ?_
  obtain ⟨i, hi, rfl⟩ := List.mem_map.1 hi'
  refine ⟨i, hi, ?_⟩
  split
  · exact (hg i).symm
  · rfl

theorem Lineage.guarded (h : Lineage s₀ s) {X : Uuid} {allowed : List Status}
    {f : BillRun → BillRun} (hf : ∀ b, (f b).place = b.place) :
    Lineage s₀ (s.guarded X allowed f).2 := by
  cases hg : (s.guarded X allowed f).1
  · rwa [guarded_false hg]
  · rw [(guarded_true hg).1]
    exact h.mapBillRun hf

end Store

open Op Store

/-! ## Each write and each operation -/

section Ops

variable {s₀ : Store}

theorem keeps_lineage_guarded {X : Uuid} {allowed : List Status} {f : BillRun → BillRun}
    (hf : ∀ b, (f b).place = b.place) :
    Keeps (Lineage s₀) (modifyGet fun s => s.guarded X allowed f : Op Bool) :=
  .modifyGet fun _ h => ⟨h.guarded hf, Nat.le_of_eq guarded_issued.symm⟩

theorem keeps_lineage_mapInvoice {I : Uuid} {g : Invoice → Invoice}
    (hg : ∀ i, (g i).lineage = i.lineage) :
    Keeps (Lineage s₀) (modify fun s => s.mapInvoice I g : Op Unit) :=
  .modify fun _ h => ⟨h.mapInvoice hg, Nat.le_refl _⟩

theorem setStatus_lineage (X : Uuid) (allowed : List Status) (target : Status) (now : Instant) :
    Keeps (Lineage s₀) (setStatus X allowed target now) :=
  keeps_lineage_guarded fun _ => rfl

theorem addInvoiceTally_lineage (I : Uuid) (δ : Tally) (now : Instant) :
    Keeps (Lineage s₀) (addInvoiceTally I δ now) :=
  .modifyGet fun _ h => ⟨h.mapInvoice fun _ => rfl, Nat.le_refl _⟩

theorem upsertInvoice_lineage (X : Uuid) (customer : String) (year : Int) (δ : Tally)
    (now : Instant) : Keeps (Lineage s₀) (upsertInvoice X customer year δ now) := by
  refine .bind (.modifyGet fun _ h => ⟨h.congr rfl rfl, Nat.le_succ _⟩) fun _ => .modifyGet fun s h => ?_
  refine ⟨?_, by split <;> exact Nat.le_refl _⟩
  split
  · exact h.mapInvoice fun _ => rfl
  · -- a new invoice for a customer and year is primary and copies nothing
    refine h.of_rows (fun b hb => ⟨b, hb, rfl⟩) fun i hi => ?_
    rcases List.mem_append.1 hi with hi | hi
    · exact Or.inl ⟨i, hi, rfl⟩
    · rw [List.mem_singleton.1 hi]
      exact Or.inr ⟨rfl, rfl⟩

theorem addBillRunTally_lineage (X : Uuid) (δ : Tally) (allowed : List Status) (now : Instant) :
    Keeps (Lineage s₀) (addBillRunTally X δ allowed now) := by
  rw [addBillRunTally_eq]
  exact keeps_lineage_guarded fun _ => rfl

theorem upsertLicence_lineage (X I : Uuid) (number : String) (δ : Tally) (now : Instant) :
    Keeps (Lineage s₀) (upsertLicence X I number δ now) :=
  .bind (.modifyGet fun _ h => ⟨h.congr rfl rfl, Nat.le_succ _⟩) fun _ =>
    .modifyGet fun _ h => ⟨by split <;> exact h.congr rfl rfl, by split <;> exact Nat.le_refl _⟩

theorem Lineage.issue : ∀ s m, Lineage s₀ s → s.issued ≤ m → Lineage s₀ { s with issued := m } :=
  fun _ _ h _ => h.congr rfl rfl

theorem post_lineage (now : Instant) (t : Transaction) (how : Posting) :
    Keeps (Lineage s₀) (post now t how) :=
  .post (addBillRunTally_lineage _ _ _ _) (fun _ => addInvoiceTally_lineage _ _ _)
    (upsertInvoice_lineage _ _ _ _ _) (fun _ => upsertLicence_lineage _ _ _ _ _)
    fun _ _ => .modify fun _ h => ⟨h.congr rfl rfl, Nat.le_refl _⟩

theorem removeAdjustments_lineage (now : Instant) (X : Uuid) :
    Keeps (Lineage s₀) (BillRun.removeAdjustments now X) :=
  .removeAdjustments (fun _ => addBillRunTally_lineage _ _ _ _)
    (fun _ _ => addInvoiceTally_lineage _ _ _)
    (fun _ _ => .modifyGet fun _ h => ⟨h.congr rfl rfl, Nat.le_refl _⟩)
    fun _ => .modify fun _ h => ⟨h.congr rfl rfl, Nat.le_refl _⟩

theorem applyMinimumCharges_lineage (now : Instant) (floor : Int64) (invs : List Invoice) :
    Keeps (Lineage s₀) (BillRun.applyMinimumCharges now floor invs) :=
  .applyMinimumCharges (fun _ _ _ _ _ => post_lineage _ _ _) Lineage.issue invs

theorem summarise_lineage (now : Instant) (b : BillRun) (th : Thresholds) :
    Keeps (Lineage s₀) (BillRun.summarise now b th) :=
  .summarise (removeAdjustments_lineage _ _) (applyMinimumCharges_lineage _ _)
    (fun _ _ => keeps_lineage_mapInvoice fun _ => rfl) fun _ => keeps_lineage_guarded fun _ => rfl

theorem generate_lineage (env : Env) (ref : BillRunRef) :
    Keeps (Lineage s₀) (BillRun.generate env ref) :=
  .generate (fun _ _ => setStatus_lineage _ _ _ _) (fun _ _ => .of_keeps (summarise_lineage _ _ _))
    Lineage.issue

theorem record_lineage (env : Env) (ref : BillRunRef) (actor : String) (payload : Payload) :
    Keeps (Lineage s₀) (record env ref actor payload) :=
  .record (fun _ _ _ _ => .of_keeps (post_lineage _ _ _)) Lineage.issue

theorem approve_lineage (now : Instant) (ref : BillRunRef) :
    Keeps (Lineage s₀) (BillRun.approve now ref) :=
  .approve fun _ _ => setStatus_lineage _ _ _ _

theorem send_lineage (now : Instant) (ref : BillRunRef) :
    Keeps (Lineage s₀) (BillRun.send now ref) :=
  .send (fun _ _ _ => next_keeps_of (fun _ _ h => h.congr rfl rfl) _ _ _ _)
    (fun _ _ => keeps_lineage_mapInvoice fun _ => rfl) (fun _ _ => keeps_lineage_guarded fun _ => rfl)
    Lineage.issue

theorem transmit_lineage (env : Env) (ref : BillRunRef) :
    Keeps (Lineage s₀) (BillRun.transmit env ref) :=
  .transmit fun _ _ => setStatus_lineage _ _ _ _

theorem delete_lineage (now : Instant) (ref : BillRunRef) :
    Keeps (Lineage s₀) (BillRun.delete now ref) :=
  .delete (fun _ _ => setStatus_lineage _ _ _ _)
    (.modify fun _ h => ⟨h.of_sublist List.filter_sublist List.filter_sublist, Nat.le_refl _⟩)
    Lineage.issue

theorem deleteInvoice_lineage (I : Uuid) : Keeps (Lineage s₀) (deleteInvoice I) :=
  .modify fun _ h => ⟨h.of_sublist (List.Sublist.refl _) List.filter_sublist, Nat.le_refl _⟩

theorem removeLicence_lineage (now : Instant) (X L : Uuid) :
    Keeps (Lineage s₀) (Deletion.removeLicence now X L) :=
  .removeLicence (fun _ => addBillRunTally_lineage _ _ _ _) (fun _ _ => addInvoiceTally_lineage _ _ _)
    (fun _ => .modify fun _ h => ⟨h.congr rfl rfl, Nat.le_refl _⟩) deleteInvoice_lineage

theorem removeInvoice_lineage (now : Instant) (X I : Uuid) :
    Keeps (Lineage s₀) (Deletion.removeInvoice now X I) :=
  .removeInvoice (fun _ => addBillRunTally_lineage _ _ _ _) deleteInvoice_lineage

theorem cascade_lineage (env : Env) (ref : BillRunRef) (prior : Status)
    {remove : Op (Option Uuid)} (hrem : Keeps (Lineage s₀) remove) :
    Keeps (Lineage s₀) (Deletion.cascade env ref prior remove) :=
  .cascade (fun _ _ => setStatus_lineage _ _ _ _) (.of_keeps hrem)
    (fun _ => .of_keeps (.resummarise (fun _ _ => keeps_lineage_mapInvoice fun _ => rfl)
      fun _ => keeps_lineage_guarded fun _ => rfl))
    Lineage.issue

theorem copyLines_lineage (now : Instant) (rebilled : Invoice) (target cancelId rebillId : Uuid)
    (actor : String) :
    Keeps (Lineage s₀) (Rebill.copyLines now rebilled target cancelId rebillId actor) :=
  .copyLines (fun _ _ _ _ => .of_keeps (post_lineage _ _ _)) Lineage.issue

theorem recover_lineage (now : Instant) (threshold batch : Int) :
    Keeps (Lineage s₀) (Recovery.recover now threshold batch) :=
  .recover fun _ => setStatus_lineage _ _ _ _

/-- The work a request leaves keeps every place and lineage. -/
theorem work_lineage (env : Env) (task : Task) : Keeps (Lineage s₀) (task.run env) :=
  .work (transmit_lineage env) (copyLines_lineage env.now)
    (fun ref prior _ => cascade_lineage env ref prior (removeLicence_lineage _ _ _))
    fun ref prior _ => cascade_lineage env ref prior (removeInvoice_lineage _ _ _)

end Ops

end ChargeLedger
