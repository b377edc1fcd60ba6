import ChargeLedger.Proofs.Coherence

/-!
# Only sending numbers

Sending writes the numbers of a ledger: a transaction reference on each billable invoice, a bill
run number and a file reference on the bill run, and the counters they are drawn from. No other
write does: rows are rewritten keeping their numbers, made without numbers or taken away, and
counters are left alone. `Store.Unnumbering I` says that `I` survives every such write; every
operation but sending keeps every such `I`, and so does every request but a send, with the work
it leaves (`Store.Unnumbering.run`).

Three such invariants carry the numbering argument: the counters as they are, every bill run
under a counter of its regime and region (`Store.Counted`), and a bill run without numbers
(`Store.Unnumbered`).
-/

set_option autoImplicit false

namespace ChargeLedger

open Op Store

theorem Op.Keeps.of_leaves {α : Type} {I : Store → Prop} {x : Op α}
    (hx : ∀ s₀, Triple (· = s₀) x (fun _ => (· = s₀)) (· = s₀)) : Keeps I x :=
  fun _ => Triple.of_eq fun s₀ h => (hx s₀).mono (fun _ e => e) (fun _ _ e => by rw [e]; exact h)
    fun _ e => by rw [e]; exact h

namespace Store

variable {s s' : Store} {I J : Store → Prop}

/-- Bill run `X` carries no numbers: its row has neither a bill run number nor a file reference,
and its invoices no transaction reference. -/
def Unnumbered (X : Uuid) (s : Store) : Prop :=
  (∀ b ∈ s.billRuns, b.id = X → b.numbers = (none, none)) ∧
    ∀ i ∈ s.invoices, i.billRunId = X → i.transactionReference = none

/-- Every bill run has a counter of its regime in its region. -/
def Counted (s : Store) : Prop :=
  ∀ b ∈ s.billRuns, ∃ c ∈ s.counters, c.regimeId = b.regimeId ∧ c.region = b.region

theorem Rewrites.and (hI : Rewrites I) (hJ : Rewrites J) : Rewrites fun s => I s ∧ J s where
  mapBillRun s X f hf h := ⟨hI.mapBillRun s X f hf h.1, hJ.mapBillRun s X f hf h.2⟩
  mapInvoice s K g hg h := ⟨hI.mapInvoice s K g hg h.1, hJ.mapInvoice s K g hg h.2⟩
  issue s m h hm := ⟨hI.issue s m h.1 hm, hJ.issue s m h.2 hm⟩

/-- An invariant that every write but numbering keeps: rows rewritten keeping their numbers,
tables cut down with the counters and regimes left alone, a bill run without numbers added under a counter
of its regime and region, an invoice without a reference added. -/
structure Unnumbering (I : Store → Prop) : Prop where
  rewrites : Rewrites I
  rows : ∀ s s', s'.billRuns.Sublist s.billRuns → s'.invoices.Sublist s.invoices →
    s'.counters = s.counters → s'.regimes = s.regimes → I s → I s'
  insertBillRun : ∀ s (b : BillRun), b.numbers = (none, none) →
    (∃ c ∈ s.counters, c.regimeId = b.regimeId ∧ c.region = b.region) → I s →
      I { s with billRuns := s.billRuns ++ [b] }
  insertInvoice : ∀ s (i : Invoice), i.transactionReference = none → I s →
    I { s with invoices := s.invoices ++ [i] }

theorem Unnumbering.and (hI : Unnumbering I) (hJ : Unnumbering J) :
    Unnumbering fun s => I s ∧ J s where
  rewrites := hI.rewrites.and hJ.rewrites
  rows s s' hb hi hc hr h := ⟨hI.rows s s' hb hi hc hr h.1, hJ.rows s s' hb hi hc hr h.2⟩
  insertBillRun s b hb hc h := ⟨hI.insertBillRun s b hb hc h.1, hJ.insertBillRun s b hb hc h.2⟩
  insertInvoice s i hi h := ⟨hI.insertInvoice s i hi h.1, hJ.insertInvoice s i hi h.2⟩

theorem Unnumbering.congr (hI : Unnumbering I) (h : I s) (hb : s'.billRuns = s.billRuns)
    (hi : s'.invoices = s.invoices) (hc : s'.counters = s.counters)
    (hr : s'.regimes = s.regimes) : I s' :=
  hI.rows s s' (hb ▸ List.Sublist.refl _) (hi ▸ List.Sublist.refl _) hc hr h

theorem Unnumbering.counters (C : List Counter) : Unnumbering fun s => s.counters = C where
  rewrites := ⟨fun _ _ _ _ h => h, fun _ _ _ _ h => h, fun _ _ h _ => h⟩
  rows _ _ _ _ hc _ h := hc.trans h
  insertBillRun _ _ _ _ h := h
  insertInvoice _ _ _ h := h

theorem Unnumbering.regimes (Rs : List Regime) : Unnumbering fun s => s.regimes = Rs where
  rewrites := ⟨fun _ _ _ _ h => h, fun _ _ _ _ h => h, fun _ _ h _ => h⟩
  rows _ _ _ _ _ hr h := hr.trans h
  insertBillRun _ _ _ _ h := h
  insertInvoice _ _ _ h := h

theorem BillRun.place_eq {b b' : BillRun} (e : b'.place = b.place) :
    b'.id = b.id ∧ b'.regimeId = b.regimeId ∧ b'.region = b.region ∧ b'.ruleset = b.ruleset := by
  simpa [BillRun.place] using e

theorem mem_mapBillRun {X : Uuid} {f : BillRun → BillRun} {b' : BillRun}
    (h : b' ∈ (s.mapBillRun X f).billRuns) : ∃ b ∈ s.billRuns, b' = f b ∨ b' = b := by
  obtain ⟨b, hb, rfl⟩ := List.mem_map.1 h
  refine ⟨b, hb, ?_⟩
  split
  · exact Or.inl rfl
  · exact Or.inr rfl

theorem mem_mapInvoice {K : Uuid} {g : Invoice → Invoice} {i' : Invoice}
    (h : i' ∈ (s.mapInvoice K g).invoices) : ∃ i ∈ s.invoices, i' = g i ∨ i' = i := by
  obtain ⟨i, hi, rfl⟩ := List.mem_map.1 h
  refine ⟨i, hi, ?_⟩
  split
  · exact Or.inl rfl
  · exact Or.inr rfl

theorem Unnumbering.counted : Unnumbering Counted where
  rewrites := by
    refine ⟨fun s X f hf h b' hb' => ?_, fun _ _ _ _ h => h, fun _ _ h _ => h⟩
    obtain ⟨b, hb, e⟩ := mem_mapBillRun hb'
    obtain ⟨c, hc, hR, hG⟩ := h b hb
    have hplace : b'.place = b.place := by
      rcases e with rfl | rfl
      · exact (hf b).1
      · rfl
    obtain ⟨-, hR', hG', -⟩ := BillRun.place_eq hplace
    exact ⟨c, hc, hR.trans hR'.symm, hG.trans hG'.symm⟩
  rows s s' hb _ hc _ h b hb' := by
    rw [hc]
    exact h b (hb.subset hb')
  insertBillRun s b _ hc h b' hb' := by
    rcases List.mem_append.1 hb' with hb' | hb'
    · exact h b' hb'
    · rw [List.mem_singleton.1 hb']
      exact hc
  insertInvoice _ _ _ h := h

theorem Unnumbering.unnumbered (X : Uuid) : Unnumbering (Unnumbered X) where
  rewrites := by
    refine ⟨fun s Y f hf h => ⟨fun b' hb' e => ?_, h.2⟩, fun s K g hg h => ⟨h.1, fun i' hi' e => ?_⟩,
      fun _ _ h _ => h⟩
    · obtain ⟨b, hb, e'⟩ := mem_mapBillRun hb'
      rcases e' with rfl | rfl
      · rw [(hf b).2]
        exact h.1 b hb ((BillRun.place_eq (hf b).1).1.symm.trans e)
      · exact h.1 _ hb e
    · obtain ⟨i, hi, e'⟩ := mem_mapInvoice hi'
      rcases e' with rfl | rfl
      · rw [(hg i).2]
        exact h.2 i hi ((Invoice.lineage_eq (hg i).1).2.1.symm.trans e)
      · exact h.2 _ hi e
  rows _ _ hb hi _ _ h :=
    ⟨fun b hb' e => h.1 b (hb.subset hb') e, fun i hi' e => h.2 i (hi.subset hi') e⟩
  insertBillRun s b hb _ h := by
    refine ⟨fun b' hb' e => ?_, h.2⟩
    rcases List.mem_append.1 hb' with hb' | hb'
    · exact h.1 b' hb' e
    · rw [List.mem_singleton.1 hb']
      exact hb
  insertInvoice s i hi h := by
    refine ⟨h.1, fun i' hi' e => ?_⟩
    rcases List.mem_append.1 hi' with hi' | hi'
    · exact h.2 i' hi' e
    · rw [List.mem_singleton.1 hi']
      exact hi

/-! ## Every operation but sending -/

section Ops

variable {I : Store → Prop} (hI : Unnumbering I)
include hI

theorem Unnumbering.fresh : Keeps I Store.fresh :=
  .fresh hI.rewrites.issue

theorem Unnumbering.upsertInvoice (X : Uuid) (customer : String) (year : Int) (δ : Tally)
    (now : Instant) : Keeps I (upsertInvoice X customer year δ now) := by
  refine .bind hI.fresh fun _ => .modifyGet fun s h => ⟨?_, by split <;> exact Nat.le_refl _⟩
  split
  · exact hI.rewrites.mapInvoice s _ _ (fun _ => ⟨rfl, rfl⟩) h
  · exact hI.insertInvoice s _ rfl h

theorem Unnumbering.upsertLicence (X K : Uuid) (number : String) (δ : Tally) (now : Instant) :
    Keeps I (upsertLicence X K number δ now) :=
  .bind hI.fresh fun _ => .modifyGet fun _ h =>
    ⟨by split <;> exact hI.congr h rfl rfl rfl rfl, by split <;> exact Nat.le_refl _⟩

theorem Unnumbering.post (now : Instant) (t : Transaction) (how : Posting) :
    Keeps I (post now t how) :=
  .post (hI.rewrites.addBillRunTally _ _ _ _) (fun _ => hI.rewrites.addInvoiceTally _ _ _)
    (hI.upsertInvoice _ _ _ _ _) (fun _ => hI.upsertLicence _ _ _ _ _)
    fun _ _ => .modify fun _ h => ⟨hI.congr h rfl rfl rfl rfl, Nat.le_refl _⟩

theorem Unnumbering.removeAdjustments (now : Instant) (X : Uuid) :
    Keeps I (BillRun.removeAdjustments now X) :=
  .removeAdjustments (fun _ => hI.rewrites.addBillRunTally _ _ _ _)
    (fun _ _ => hI.rewrites.addInvoiceTally _ _ _)
    (fun _ _ => .modifyGet fun _ h => ⟨hI.congr h rfl rfl rfl rfl, Nat.le_refl _⟩)
    fun _ => .modify fun _ h => ⟨hI.congr h rfl rfl rfl rfl, Nat.le_refl _⟩

theorem Unnumbering.applyMinimumCharges (now : Instant) (floor : Int64) (invs : List Invoice) :
    Keeps I (BillRun.applyMinimumCharges now floor invs) :=
  .applyMinimumCharges (fun _ _ _ _ _ => hI.post _ _ _) hI.rewrites.issue invs

theorem Unnumbering.summarise (now : Instant) (b : BillRun) (th : Thresholds) :
    Keeps I (BillRun.summarise now b th) :=
  .summarise (hI.removeAdjustments _ _) (hI.applyMinimumCharges _ _)
    (fun _ _ => hI.rewrites.keeps_mapInvoice fun _ => ⟨rfl, rfl⟩)
    fun _ => hI.rewrites.keeps_guarded fun _ => ⟨rfl, rfl⟩

theorem Unnumbering.generate (env : Env) (ref : BillRunRef) :
    Keeps I (BillRun.generate env ref) :=
  .generate (fun _ _ => hI.rewrites.setStatus _ _ _ _) (fun _ _ => .of_keeps (hI.summarise _ _ _))
    hI.rewrites.issue

theorem Unnumbering.record (env : Env) (ref : BillRunRef) (actor : String) (payload : Payload) :
    Keeps I (record env ref actor payload) :=
  .record (fun _ _ _ _ => .of_keeps (hI.post _ _ _)) hI.rewrites.issue

theorem Unnumbering.create (now : Instant) (regimeId : Uuid) (slug actor region ruleset : String) :
    Keeps I (BillRun.create now regimeId slug actor region ruleset) := by
  unfold BillRun.create
  extract_lets region ruleset issues
  clear_value region ruleset issues
  refine .bind (.require _ _) fun _ => ?_
  split
  · refine fun n => Triple.of_eq fun s₁ h₁ => Triple.get_bind
      (Triple.bind (Triple.readRow.mono (fun _ h => h) (fun _ _ h => h) fun _ e => by rw [e]; exact h₁)
        fun counter => Triple.of_eq fun s hs => ?_)
    obtain ⟨hcounter, rfl⟩ := hs
    refine Triple.require_bind (fun _ _ e => by rw [e]; exact h₁) fun hsome =>
      Triple.fresh_bind (Triple.modify_bind (Triple.pure fun _ e => ?_))
    rw [e]
    rw [hcounter] at hsome
    obtain ⟨c, hc⟩ := Option.isSome_iff_exists.1 hsome
    have hkey := List.find?_some hc
    simp only [Bool.and_eq_true, beq_iff_eq] at hkey
    exact ⟨hI.insertBillRun _ _ rfl ⟨c, List.mem_of_find?_eq_some hc, hkey.1, hkey.2⟩
      (hI.rewrites.issue _ _ h₁.1 (Nat.le_succ _)), Nat.le_succ_of_le h₁.2⟩
  · exact .throw _

theorem Unnumbering.delete (now : Instant) (ref : BillRunRef) :
    Keeps I (BillRun.delete now ref) :=
  .delete (fun _ _ => hI.rewrites.setStatus _ _ _ _)
    (.modify fun s h => ⟨hI.rows s _ List.filter_sublist List.filter_sublist rfl rfl h, Nat.le_refl _⟩)
    hI.rewrites.issue

theorem Unnumbering.deleteInvoice (K : Uuid) : Keeps I (deleteInvoice K) :=
  .modify fun s h => ⟨hI.rows s _ (List.Sublist.refl _) List.filter_sublist rfl rfl h, Nat.le_refl _⟩

theorem Unnumbering.removeLicence (now : Instant) (X L : Uuid) :
    Keeps I (Deletion.removeLicence now X L) :=
  .removeLicence (fun _ => hI.rewrites.addBillRunTally _ _ _ _)
    (fun _ _ => hI.rewrites.addInvoiceTally _ _ _)
    (fun _ => .modify fun _ h => ⟨hI.congr h rfl rfl rfl rfl, Nat.le_refl _⟩) hI.deleteInvoice

theorem Unnumbering.removeInvoice (now : Instant) (X K : Uuid) :
    Keeps I (Deletion.removeInvoice now X K) :=
  .removeInvoice (fun _ => hI.rewrites.addBillRunTally _ _ _ _) hI.deleteInvoice

theorem Unnumbering.cascade (env : Env) (ref : BillRunRef) (prior : Status)
    {remove : Op (Option Uuid)} (hrem : Keeps I remove) :
    Keeps I (Deletion.cascade env ref prior remove) :=
  .cascade (fun _ _ => hI.rewrites.setStatus _ _ _ _) (.of_keeps hrem)
    (fun _ => .of_keeps (hI.rewrites.resummarise _ _ _ _)) hI.rewrites.issue

theorem Unnumbering.rebill (now : Instant) (ref : BillRunRef) (invoiceId : Uuid) (actor : String) :
    Keeps I (Rebill.rebill now ref invoiceId actor) := by
  have hcopy : ∀ inv : Invoice, inv.transactionReference = none → Keeps I (Rebill.insertCopy inv) :=
    fun inv hinv => by
      unfold Rebill.insertCopy Store.insertInvoice
      refine .bind (.modifyGet fun s h => ⟨?_, by split <;> exact Nat.le_refl _⟩) fun _ => .require _ _
      split
      · exact h
      · exact hI.insertInvoice s inv hinv h
  unfold Rebill.rebill
  exact .bind (Keeps.of_leaves fun _ => (check_spec ref invoiceId).mono (fun _ h => h)
    (fun _ _ h => h.1) fun _ h => h) fun _ => .bind hI.fresh fun _ => .bind hI.fresh fun _ =>
      .bind (.atomic (.bind (hcopy _ rfl) fun _ => hcopy _ rfl) hI.rewrites.issue) fun _ => .pure _

theorem Unnumbering.copyLines (now : Instant) (rebilled : Invoice) (target cancelId rebillId : Uuid)
    (actor : String) : Keeps I (Rebill.copyLines now rebilled target cancelId rebillId actor) :=
  .copyLines (fun _ _ _ _ => .of_keeps (hI.post _ _ _)) hI.rewrites.issue

theorem Unnumbering.work (env : Env) (task : Task) : Keeps I (task.run env) :=
  .work (hI.rewrites.transmit env) (fun _ _ _ _ _ => hI.copyLines _ _ _ _ _ _)
    (fun ref prior _ => hI.cascade env ref prior (hI.removeLicence _ _ _))
    fun ref prior _ => hI.cascade env ref prior (hI.removeInvoice _ _ _)

/-- Every request but a send, with the work it leaves, writes no number and hands none out. -/
theorem Unnumbering.run (env : Env) {s₀ : Store} (h₀ : I s₀) (r : Request)
    (hr : ∀ slug X, r ≠ .send slug X) :
    Triple (· = s₀) (r.run env) (Request.Finishes env I) I := by
  refine Request.finishes_of_keeps env h₀ ?_ (hI.work env)
  cases r <;> simp only [Request.run]
  case create slug actor region ruleset =>
    exact .bind (regimeNamed_keeps _) fun _ => .bind (hI.create _ _ _ _ _ _) fun _ => .pure _
  case record slug X actor p =>
    exact .bind (refIn_keeps _ _) fun _ => .bind (hI.record _ _ _ _) fun _ => .pure _
  case generate slug X =>
    exact .bind (refIn_keeps _ _) fun _ => .bind (hI.generate _ _) fun _ => .pure _
  case approve slug X =>
    exact .bind (refIn_keeps _ _) fun _ => .bind (hI.rewrites.approve _ _) fun _ => .pure _
  case send slug X => exact absurd rfl (hr slug X)
  case delete slug X =>
    exact .bind (refIn_keeps _ _) fun _ => .bind (hI.delete _ _) fun _ => .pure _
  case deleteLicence slug X licence =>
    exact .bind (refIn_keeps _ _) fun _ => .bind (deleteLicence_keeps _ _) fun _ => .pure _
  case deleteInvoice slug X invoice =>
    exact .bind (refIn_keeps _ _) fun _ => .bind (deleteInvoice_keeps _ _) fun _ => .pure _
  case rebill slug X invoice actor =>
    exact .bind (refIn_keeps _ _) fun _ => .bind (hI.rebill _ _ _ _) fun _ => .pure _
  case recover threshold batch =>
    exact .bind (hI.rewrites.recover _ _ _) fun _ => .pure _

end Ops

end Store

end ChargeLedger
