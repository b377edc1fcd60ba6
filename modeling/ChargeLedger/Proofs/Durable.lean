import ChargeLedger.Proofs.CopiedLines

/-!
# Rows only deletions take away

A bill run, an invoice or a licence leaves the ledger only by a deletion. Every other request,
with the work it leaves, keeps each bill run where it bills, each invoice as what it is and each
licence on its invoice under its number (`step_rowsKept`). Lines may go, since a generation takes
back the adjustments it raised before, but never a row they hang on.

Writes in place keep the rows (`RowsKept.inPlace`); the other writes of these requests add rows
or touch lines only; so each operation keeps the rows by its walk, and the work a request that
deletes nothing leaves is a transmission or a copying, never a removal.
-/

set_option autoImplicit false

namespace ChargeLedger

open Op Store

/-- A request that deletes a bill run, a licence or an invoice. -/
def Request.deletes : Request → Bool
  | .delete .. | .deleteLicence .. | .deleteInvoice .. => true
  | _ => false

/-- Work that removes a licence or an invoice. -/
def Task.removes : Task → Bool
  | .removeLicence .. | .removeInvoice .. => true
  | _ => false

namespace Store

variable {s₀ s s' : Store}

/-- Since `s₀`, every bill run is there where it bills, every invoice as what it is, and every
licence on its invoice under its number. -/
structure RowsKept (s₀ s : Store) : Prop where
  billRuns : ∀ b ∈ s₀.billRuns, ∃ b' ∈ s.billRuns, b'.place = b.place
  invoices : InvoicesKept s₀ s
  licences : ∀ l ∈ s₀.licences, ∃ l' ∈ s.licences, l'.lineage = l.lineage

theorem RowsKept.refl (s : Store) : RowsKept s s :=
  ⟨fun b hb => ⟨b, hb, rfl⟩, InvoicesKept.refl s, fun l hl => ⟨l, hl, rfl⟩⟩

theorem RowsKept.trans (h : RowsKept s₀ s) (h' : RowsKept s s') : RowsKept s₀ s' := by
  refine ⟨fun b hb => ?_, fun i hi => ?_, fun l hl => ?_⟩
  · obtain ⟨b₁, hb₁, e₁⟩ := h.billRuns b hb
    obtain ⟨b₂, hb₂, e₂⟩ := h'.billRuns b₁ hb₁
    exact ⟨b₂, hb₂, e₂.trans e₁⟩
  · obtain ⟨i₁, hi₁, e₁⟩ := h.invoices i hi
    obtain ⟨i₂, hi₂, e₂⟩ := h'.invoices i₁ hi₁
    exact ⟨i₂, hi₂, e₂.trans e₁⟩
  · obtain ⟨l₁, hl₁, e₁⟩ := h.licences l hl
    obtain ⟨l₂, hl₂, e₂⟩ := h'.licences l₁ hl₁
    exact ⟨l₂, hl₂, e₂.trans e₁⟩

theorem RowsKept.of_subset (hb : s.billRuns ⊆ s'.billRuns) (hi : s.invoices ⊆ s'.invoices)
    (hl : s.licences ⊆ s'.licences) : RowsKept s s' :=
  ⟨fun b h => ⟨b, hb h, rfl⟩, fun i h => ⟨i, hi h, rfl⟩, fun l h => ⟨l, hl h, rfl⟩⟩

theorem RowsKept.mapBillRun (X : Uuid) {f : BillRun → BillRun} (hf : ∀ b, (f b).place = b.place) :
    RowsKept s (s.mapBillRun X f) := by
  refine ⟨fun b hb => ⟨if b.id == X then f b else b, List.mem_map_of_mem hb, ?_⟩,
    InvoicesKept.refl s, fun l hl => ⟨l, hl, rfl⟩⟩
  split
  · exact hf b
  · rfl

theorem RowsKept.mapLicence (L : Uuid) {k : Licence → Licence} (hk : ∀ l, (k l).lineage = l.lineage) :
    RowsKept s (s.mapLicence L k) := by
  refine ⟨fun b hb => ⟨b, hb, rfl⟩, InvoicesKept.refl s,
    fun l hl => ⟨if l.id == L then k l else l, List.mem_map_of_mem hl, ?_⟩⟩
  split
  · exact hk l
  · rfl

theorem RowsKept.of_rows_eq (h : RowsKept s₀ s) (hb : s'.billRuns = s.billRuns)
    (hi : s'.invoices = s.invoices) (hl : s'.licences = s.licences) : RowsKept s₀ s' :=
  h.trans (RowsKept.of_subset (hb ▸ List.Subset.refl _) (hi ▸ List.Subset.refl _)
    (hl ▸ List.Subset.refl _))

/-- Writes in place keep every row. -/
theorem RowsKept.inPlace (s₀ : Store) : InPlace (RowsKept s₀) where
  mapBillRun _ X _ hf h := h.trans (RowsKept.mapBillRun X hf)
  mapInvoice _ K _ hg h := h.trans ⟨fun b hb => ⟨b, hb, rfl⟩, InvoicesKept.mapInvoice K hg,
    fun l hl => ⟨l, hl, rfl⟩⟩
  counters _ _ h := h.of_rows_eq rfl rfl rfl
  issue _ _ h _ := h.of_rows_eq rfl rfl rfl

end Store

/-! ## Each write and each operation -/

section Ops

variable {s₀ : Store}

theorem upsertInvoice_rows (X : Uuid) (customer : String) (year : Int) (δ : Tally) (now : Instant) :
    Keeps (RowsKept s₀) (upsertInvoice X customer year δ now) := by
  refine .bind (.fresh (RowsKept.inPlace s₀).issue) fun _ => .modifyGet fun s h => ?_
  refine ⟨?_, by split <;> exact Nat.le_refl _⟩
  split
  · exact (RowsKept.inPlace s₀).mapInvoice _ _ _ (fun _ => rfl) h
  · exact h.trans (RowsKept.of_subset (List.Subset.refl _) (List.subset_append_left _ _)
      (List.Subset.refl _))

theorem upsertLicence_rows (X I : Uuid) (number : String) (δ : Tally) (now : Instant) :
    Keeps (RowsKept s₀) (upsertLicence X I number δ now) := by
  refine .bind (.fresh (RowsKept.inPlace s₀).issue) fun _ => .modifyGet fun s h => ?_
  refine ⟨?_, by split <;> exact Nat.le_refl _⟩
  split
  · exact h.trans (RowsKept.mapLicence _ fun _ => rfl)
  · exact h.trans (RowsKept.of_subset (List.Subset.refl _) (List.Subset.refl _)
      (List.subset_append_left _ _))

theorem addLicenceTally_rows (L : Uuid) (δ : Tally) (now : Instant) :
    Keeps (RowsKept s₀) (addLicenceTally L δ now) :=
  .modifyGet fun _ h => ⟨h.trans (RowsKept.mapLicence _ fun _ => rfl), Nat.le_refl _⟩

theorem post_rows (now : Instant) (t : Transaction) (how : Posting) :
    Keeps (RowsKept s₀) (post now t how) :=
  .post ((RowsKept.inPlace s₀).rewrites.addBillRunTally _ _ _ _)
    (fun _ => (RowsKept.inPlace s₀).rewrites.addInvoiceTally _ _ _) (upsertInvoice_rows _ _ _ _ _)
    (fun _ => upsertLicence_rows _ _ _ _ _) fun _ _ =>
      .modify fun _ h => ⟨h.of_rows_eq rfl rfl rfl, Nat.le_refl _⟩

theorem record_rows (env : Env) (ref : BillRunRef) (actor : String) (payload : Payload) :
    Keeps (RowsKept s₀) (record env ref actor payload) :=
  .record (fun _ _ _ _ => .of_keeps (post_rows _ _ _)) (RowsKept.inPlace s₀).issue

theorem summarise_rows (now : Instant) (b : BillRun) (th : Thresholds) :
    Keeps (RowsKept s₀) (BillRun.summarise now b th) :=
  .summarise (.removeAdjustments (fun _ => (RowsKept.inPlace s₀).rewrites.addBillRunTally _ _ _ _)
      (fun _ _ => (RowsKept.inPlace s₀).rewrites.addInvoiceTally _ _ _)
      (fun _ _ => addLicenceTally_rows _ _ _) fun _ =>
        .modify fun _ h => ⟨h.of_rows_eq rfl rfl rfl, Nat.le_refl _⟩)
    (fun _ => .applyMinimumCharges (fun _ _ _ _ _ => post_rows _ _ _) (RowsKept.inPlace s₀).issue _)
    (fun _ _ => (RowsKept.inPlace s₀).keeps_mapInvoice fun _ => rfl)
    fun _ => (RowsKept.inPlace s₀).keeps_guarded fun _ => rfl

theorem generate_rows (env : Env) (ref : BillRunRef) :
    Keeps (RowsKept s₀) (BillRun.generate env ref) :=
  .generate (fun _ _ => (RowsKept.inPlace s₀).rewrites.setStatus _ _ _ _)
    (fun _ _ => .of_keeps (summarise_rows _ _ _)) (RowsKept.inPlace s₀).issue

theorem copyLines_rows (now : Instant) (rebilled : Invoice) (target cancelId rebillId : Uuid)
    (actor : String) :
    Keeps (RowsKept s₀) (Rebill.copyLines now rebilled target cancelId rebillId actor) :=
  .copyLines (fun _ _ _ _ => .of_keeps (post_rows _ _ _)) (RowsKept.inPlace s₀).issue

theorem rebill_rows (now : Instant) (ref : BillRunRef) (invoiceId : Uuid) (actor : String) :
    Keeps (RowsKept s₀) (Rebill.rebill now ref invoiceId actor) := by
  have hinsert : ∀ inv, Keeps (RowsKept s₀) (Rebill.insertCopy inv) := fun _ =>
    .bind (.modifyGet fun _ h => ⟨by split; exacts [h, h.trans (RowsKept.of_subset
      (List.Subset.refl _) (List.subset_append_left _ _) (List.Subset.refl _))],
      by split <;> exact Nat.le_refl _⟩) fun _ => .require _ _
  have hcheck : Keeps (RowsKept s₀) (Rebill.check ref invoiceId) := fun _ =>
    Triple.of_eq fun s hs => (check_spec ref invoiceId).mono (fun _ e => e)
      (fun _ _ h => by rw [h.1]; exact hs) fun _ e => by rw [e]; exact hs
  unfold Rebill.rebill
  refine .bind hcheck fun r => ?_
  obtain ⟨target, rebilled⟩ := r
  exact .bind (.fresh (RowsKept.inPlace s₀).issue) fun _ => .bind (.fresh (RowsKept.inPlace s₀).issue)
    fun _ => .bind (.atomic (.bind (hinsert _) fun _ => hinsert _) (RowsKept.inPlace s₀).issue)
    fun _ => .pure _

theorem create_rows (now : Instant) (regimeId : Uuid) (slug actor region ruleset : String) :
    Keeps (RowsKept s₀) (BillRun.create now regimeId slug actor region ruleset) := fun _ =>
  Triple.of_eq fun s hs => (create_spec now regimeId slug actor region ruleset).mono (fun _ e => e)
    (fun _ _ h => by
      rw [h.1]
      exact ⟨hs.1.trans (RowsKept.of_subset (List.subset_append_left _ _) (List.Subset.refl _)
        (List.Subset.refl _)), Nat.le_succ_of_le hs.2⟩)
    fun _ e => by rw [e]; exact hs

end Ops

/-! ## Every request that deletes nothing -/

section Step

variable (env : Env) {s₀ : Store}

theorem work_rows {task : Task} (h : task.removes = false) : Keeps (RowsKept s₀) (task.run env) := by
  cases task with
  | transmit ref => exact (RowsKept.inPlace s₀).rewrites.transmit env ref
  | copyInvoice rebilled target cancelId rebillId actor =>
    exact .bind (copyLines_rows _ _ _ _ _ _) fun _ => .pure _
  | removeLicence => simp [Task.removes] at h
  | removeInvoice => simp [Task.removes] at h

theorem run_rows (r : Request) (hr : r.deletes = false) : Keeps (RowsKept s₀) (r.run env) := by
  cases r <;> simp only [Request.run]
  case create slug actor region ruleset =>
    exact .bind (regimeNamed_keeps slug) fun _ => .bind (create_rows _ _ _ _ _ _) fun _ => .pure _
  case record slug X actor p =>
    exact .bind (refIn_keeps _ _) fun _ => .bind (record_rows _ _ _ _) fun _ => .pure _
  case generate slug X =>
    exact .bind (refIn_keeps _ _) fun _ => .bind (generate_rows _ _) fun _ => .pure _
  case approve slug X =>
    exact .bind (refIn_keeps _ _) fun _ =>
      .bind ((RowsKept.inPlace s₀).rewrites.approve _ _) fun _ => .pure _
  case send slug X =>
    exact .bind (refIn_keeps _ _) fun _ => .bind ((RowsKept.inPlace s₀).send _ _) fun _ => .pure _
  case rebill slug X invoice actor =>
    refine .bind (refIn_keeps _ _) fun _ => .bind (rebill_rows _ _ _ _) fun res => ?_
    obtain ⟨_, _, task⟩ := res
    exact .pure _
  case recover threshold batch =>
    exact .bind ((RowsKept.inPlace s₀).rewrites.recover _ _ _) fun _ => .pure _
  all_goals simp [Request.deletes] at hr

theorem rebill_leaves_copying (now : Instant) (ref : BillRunRef) (invoiceId : Uuid) (actor : String)
    {P : Store → Prop} :
    Triple P (Rebill.rebill now ref invoiceId actor) (fun res _ => res.2.2.removes = false)
      (fun _ => True) := by
  unfold Rebill.rebill
  exact Triple.bind (Triple.always _) fun _ => Triple.bind (Triple.always _) fun _ =>
    Triple.bind (Triple.always _) fun _ => Triple.bind (Triple.always _) fun _ =>
    Triple.pure fun _ _ => rfl

theorem run_leaves_no_removal (r : Request) (hr : r.deletes = false) :
    Triple (fun _ => True) (r.run env) (fun task _ => ∀ t, task = some t → t.removes = false)
      (fun _ => True) := by
  have hnone : ∀ t : Task, (none : Option Task) = some t → t.removes = false :=
    fun _ e => absurd e.symm (Option.some_ne_none _)
  cases r <;> simp only [Request.run]
  case send slug X =>
    refine Triple.bind (Triple.always _) fun ref => Triple.bind (send_leaves_transmit _ ref)
      fun task => Triple.pure fun _ (h : task = .transmit ref) t e => ?_
    rw [← Option.some.inj e, h]
    rfl
  case rebill slug X invoice actor =>
    refine Triple.bind (Triple.always _) fun _ => Triple.bind (rebill_leaves_copying _ _ _ _)
      fun res => ?_
    obtain ⟨_, _, task⟩ := res
    exact Triple.pure fun _ (h : task.removes = false) t e => Option.some.inj e ▸ h
  case recover threshold batch =>
    exact Triple.bind (Triple.always _) fun _ => Triple.pure fun _ _ => hnone
  case delete | deleteLicence | deleteInvoice => simp [Request.deletes] at hr
  all_goals exact Triple.bind (Triple.always _) fun _ => Triple.bind (Triple.always _) fun _ =>
    Triple.pure fun _ _ => hnone

/-- A request that deletes nothing, with the work it leaves, keeps every bill run where it
bills, every invoice as what it is and every licence on its invoice under its number. -/
theorem step_rowsKept (r : Request) (hr : r.deletes = false) : RowsKept s₀ (r.step env s₀) := by
  refine Request.step_of env r (((run_rows env r hr).triple.conj (run_leaves_no_removal env r hr)).mono
    (fun _ e => ⟨by rw [e]; exact RowsKept.refl _, trivial⟩) (fun task s h => ?_) fun _ h => h.1)
  cases task with
  | none => exact h.1
  | some t =>
    show Triple (· = s) (t.run env) (fun _ => RowsKept s₀) (RowsKept s₀)
    exact (work_rows env (h.2 t rfl)).triple.mono (fun _ e => by rw [e]; exact h.1)
      (fun _ _ h => h) fun _ h => h

end Step

end ChargeLedger
