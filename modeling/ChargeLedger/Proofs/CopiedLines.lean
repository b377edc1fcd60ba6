import ChargeLedger.Proofs.Coherence

/-!
# Copied lines sit on copies

A rebill copies the lines of an invoice onto its cancel copy and its rebill copy, and each copy of
a line names the line it copies. No other write makes such a line: recorded lines and the
adjustments generation raises copy nothing. So every copied line sits on a copy invoice of its
bill run, never on a primary invoice (`Store.CopiesApart`), in every reachable ledger.

Generation leans on this: on a primary invoice every minimum charge adjustment is one that
generation raised, so once those are taken back, a line subject to the minimum charge is an
ordinary line.
-/

set_option autoImplicit false

namespace ChargeLedger

open Op Store

theorem Op.Keeps.of_and {α : Type} {I J : Store → Prop} {x : Op α}
    (h : Keeps (fun s => I s ∧ J s) x) (hJ : ∀ s, I s → J s) : Keeps I x := fun n =>
  (h n).mono (fun s hs => ⟨⟨hs.1, hJ s hs.1⟩, hs.2⟩) (fun _ _ h => ⟨h.1.1, h.2⟩)
    fun _ h => ⟨h.1.1, h.2⟩

namespace Store

variable {s s' : Store} {I X : Uuid}

/-- Invoice `I` is a cancel or rebill copy on bill run `X`. -/
def CopyOn (s : Store) (I X : Uuid) : Prop :=
  ∃ i ∈ s.invoices, i.id = I ∧ i.billRunId = X ∧ i.kind ≠ .primary

/-- Every line a rebill copied sits on a copy invoice of its bill run. -/
def CopiesApart (s : Store) : Prop :=
  ∀ t ∈ s.transactions, t.rebilledTransactionId.isSome → s.CopyOn t.invoiceId t.billRunId

theorem CopyOn.of_rows (h : s.CopyOn I X)
    (hi : ∀ i ∈ s.invoices, i.id = I → i.billRunId = X →
      ∃ i' ∈ s'.invoices, i'.lineage = i.lineage) : s'.CopyOn I X := by
  obtain ⟨i, hi', hid, hX, hk⟩ := h
  obtain ⟨i', hi'', e⟩ := hi i hi' hid hX
  obtain ⟨eid, eX, -, -, ek, -⟩ := Invoice.lineage_eq e
  exact ⟨i', hi'', eid.trans hid, eX.trans hX, ek ▸ hk⟩

theorem CopiesApart.of_rows (h : s.CopiesApart) (ht : ∀ t ∈ s'.transactions, t ∈ s.transactions)
    (hi : ∀ t ∈ s'.transactions, ∀ i ∈ s.invoices, i.id = t.invoiceId → i.billRunId = t.billRunId →
      ∃ i' ∈ s'.invoices, i'.lineage = i.lineage) : s'.CopiesApart :=
  fun t ht' hc => (h t (ht t ht') hc).of_rows (hi t ht')

/-- Invoices that stay what they are, whatever else the write does. -/
def InvoicesKept (s s' : Store) : Prop := ∀ i ∈ s.invoices, ∃ i' ∈ s'.invoices, i'.lineage = i.lineage

theorem InvoicesKept.refl (s : Store) : InvoicesKept s s := fun i hi => ⟨i, hi, rfl⟩

theorem InvoicesKept.mapInvoice (K : Uuid) {g : Invoice → Invoice} (hg : ∀ i, (g i).lineage = i.lineage) :
    InvoicesKept s (s.mapInvoice K g) := fun i hi => by
  refine ⟨if i.id == K then g i else i, List.mem_map_of_mem hi, ?_⟩
  split
  · exact hg i
  · rfl

theorem InvoicesKept.append (s : Store) (is : List Invoice) :
    InvoicesKept s { s with invoices := s.invoices ++ is } :=
  fun i hi => ⟨i, List.mem_append_left _ hi, rfl⟩

theorem CopyOn.of_kept (h : s.CopyOn I X) (hk : InvoicesKept s s') : s'.CopyOn I X :=
  h.of_rows fun i hi _ _ => hk i hi

theorem CopiesApart.of_kept (h : s.CopiesApart) (ht : s'.transactions = s.transactions)
    (hk : InvoicesKept s s') : s'.CopiesApart :=
  h.of_rows (fun t h => by rwa [ht] at h) fun _ _ i hi _ _ => hk i hi

theorem CopyOn.inPlace (I X : Uuid) : InPlace fun s => s.CopyOn I X where
  mapBillRun _ _ _ _ h := h.of_kept (InvoicesKept.refl _)
  mapInvoice _ K _ hg h := h.of_kept (InvoicesKept.mapInvoice K hg)
  counters _ _ h := h.of_kept (InvoicesKept.refl _)
  issue _ _ h _ := h.of_kept (InvoicesKept.refl _)

theorem CopiesApart.inPlace : InPlace CopiesApart where
  mapBillRun _ _ _ _ h := h.of_kept rfl (InvoicesKept.refl _)
  mapInvoice _ K _ hg h := h.of_kept rfl (InvoicesKept.mapInvoice K hg)
  counters _ _ h := h.of_kept rfl (InvoicesKept.refl _)
  issue _ _ h _ := h.of_kept rfl (InvoicesKept.refl _)

theorem CopiesApart.insertTransaction (h : s.CopiesApart) {t : Transaction}
    (ht : t.rebilledTransactionId.isSome → s.CopyOn t.invoiceId t.billRunId) :
    CopiesApart { s with transactions := s.transactions ++ [t] } := by
  intro u hu hc
  rcases List.mem_append.1 hu with hu | hu
  · exact h u hu hc
  · rw [List.mem_singleton.1 hu] at hc ⊢
    exact ht hc

/-- Copied lines kept apart, and the invoices `C` names are copies: what a block that posts
copies onto copies it was handed keeps. -/
def ApartWith (C : Uuid → Uuid → Prop) (s : Store) : Prop :=
  s.CopiesApart ∧ ∀ I X, C I X → s.CopyOn I X

theorem ApartWith.inPlace (C : Uuid → Uuid → Prop) : InPlace (ApartWith C) :=
  CopiesApart.inPlace.and
    ⟨fun s Y f hf h I X hC => (CopyOn.inPlace I X).mapBillRun s Y f hf (h I X hC),
      fun s K g hg h I X hC => (CopyOn.inPlace I X).mapInvoice s K g hg (h I X hC),
      fun s cs h I X hC => (CopyOn.inPlace I X).counters s cs (h I X hC),
      fun s m h hm I X hC => (CopyOn.inPlace I X).issue s m (h I X hC) hm⟩

theorem ApartWith.of_kept {C : Uuid → Uuid → Prop} (h : ApartWith C s)
    (ht : s'.transactions = s.transactions) (hk : InvoicesKept s s') : ApartWith C s' :=
  ⟨h.1.of_kept ht hk, fun I X hC => (h.2 I X hC).of_kept hk⟩

theorem copiesApart_seeded (t : Instant) : (seeded t).CopiesApart := by
  intro u hu
  have ht : (seeded t).transactions = [] := rfl
  rw [ht] at hu
  exact absurd hu List.not_mem_nil

end Store

/-! ## Postings -/

section Posting

variable (now : Instant)

theorem post_apartWith (t : Transaction) (how : Posting) {C : Uuid → Uuid → Prop}
    (hC : t.rebilledTransactionId.isSome → ∃ I, how.invoice = some I ∧ C I t.billRunId) :
    Keeps (ApartWith C) (post now t how) := by
  unfold post
  extract_lets delta line invoice
  rw [addBillRunTally_eq]
  have hkept : ∀ {α : Type} (f : Store → α × Store), (∀ s, (f s).2.transactions = s.transactions) →
      (∀ s, InvoicesKept s (f s).2) → (∀ s, s.issued ≤ (f s).2.issued) →
      Keeps (ApartWith C) (modifyGet f : Op α) :=
    fun _ hf hk hn => .modifyGet fun s h => ⟨h.of_kept (hf s) (hk s), hn s⟩
  have hfresh : Keeps (ApartWith C) fresh :=
    hkept _ (fun _ => rfl) (fun _ => InvoicesKept.refl _) fun _ => Nat.le_succ _
  have hline : ∀ J, (t.rebilledTransactionId.isSome → how.invoice = some J) →
      Keeps (ApartWith C) (line J) := by
    intro J hJ
    simp only [line, upsertLicence]
    refine .bind (.bind hfresh fun _ => hkept _ (fun _ => by split <;> rfl)
      (fun _ => by split <;> exact InvoicesKept.refl _) fun _ => by split <;> exact Nat.le_refl _)
      fun _ => ?_
    have hfin : ∀ u : Transaction, u.invoiceId = J → u.billRunId = t.billRunId →
        u.rebilledTransactionId = t.rebilledTransactionId →
        Keeps (ApartWith C) (insertTransaction u >>= fun _ => pure u) := by
      intro u hu hb hr
      refine .bind (.modify fun s h => ⟨⟨h.1.insertTransaction fun hc => ?_, h.2⟩, Nat.le_refl _⟩)
        fun _ => .pure _
      rw [hr] at hc
      obtain ⟨I, hI, hCI⟩ := hC hc
      obtain rfl : I = J := Option.some.inj (hI.symm.trans (hJ hc))
      rw [hu, hb]
      exact h.2 I _ hCI
    split
    · refine .bind .get fun _ => ?_
      split
      · exact .bind (.throw _) fun _ => hfin _ rfl rfl rfl
      · exact hfin _ rfl rfl rfl
    · exact hfin _ rfl rfl rfl
  have hinvoice : Keeps (ApartWith C) (invoice ()) := by
    simp only [invoice]
    split
    · rename_i I hI
      refine .bind (hkept _ (fun _ => rfl) (fun _ => InvoicesKept.mapInvoice _ fun _ => rfl)
        fun _ => Nat.le_refl _) fun _ => .bind (.require _ _) fun _ => ?_
      rw [pure_bind]
      exact hline I fun _ => hI
    · rename_i hnone
      refine .bind (.bind hfresh fun _ => hkept _ (fun _ => by split <;> rfl)
        (fun s => by split; exacts [InvoicesKept.mapInvoice _ fun _ => rfl, InvoicesKept.append _ _])
        fun _ => by split <;> exact Nat.le_refl _) fun J => hline J fun hc => ?_
      obtain ⟨I, hI, -⟩ := hC hc
      exact absurd (hnone.symm.trans hI) (Option.some_ne_none I).symm
  refine .bind (hkept _ (fun _ => by
      unfold guarded; split <;> (try split) <;> rfl)
    (fun s => by unfold guarded; split <;> (try split) <;> exact InvoicesKept.refl _)
    fun _ => Nat.le_of_eq guarded_issued.symm) fun ok => ?_
  cases ok
  · exact .bind (fun n => Triple.of_eq fun s hs => (refusal_fails (E := fun s =>
      ApartWith C s ∧ n ≤ s.issued) t.billRunId hs).mono (fun _ h => h) (fun _ _ h => h.elim)
      fun _ h => h) fun _ => hinvoice
  · exact hinvoice

theorem post_copiesApart (t : Transaction) (how : Posting) (ht : t.rebilledTransactionId = none) :
    Keeps CopiesApart (post now t how) :=
  Keeps.of_and (post_apartWith now t how (C := fun _ _ => False) fun hc => by simp [ht] at hc)
    fun _ _ _ _ h => h.elim

theorem fresh_copiesApart : Keeps CopiesApart fresh :=
  .modifyGet fun _ h => ⟨CopiesApart.inPlace.issue _ _ h (Nat.le_succ _), Nat.le_succ _⟩

end Posting

/-! ## Requests -/

section Operations

variable (now : Instant)

theorem removeAdjustments_copiesApart (X : Uuid) :
    Keeps CopiesApart (BillRun.removeAdjustments now X) :=
  .removeAdjustments (fun _ => CopiesApart.inPlace.rewrites.addBillRunTally _ _ _ _)
    (fun _ _ => CopiesApart.inPlace.rewrites.addInvoiceTally _ _ _)
    (fun _ _ => .modifyGet fun _ h => ⟨h.of_kept rfl (InvoicesKept.refl _), Nat.le_refl _⟩)
    fun _ => .modify fun _ h => ⟨h.of_rows (fun _ ht => (List.mem_filter.1 ht).1)
      fun _ _ i hi _ _ => ⟨i, hi, rfl⟩, Nat.le_refl _⟩

theorem applyMinimumCharges_copiesApart (floor : Int64) (invs : List Invoice) :
    Keeps CopiesApart (BillRun.applyMinimumCharges now floor invs) :=
  .applyMinimumCharges (fun _ _ _ _ _ => post_copiesApart _ _ _ rfl) CopiesApart.inPlace.issue invs

theorem generate_copiesApart (env : Env) (ref : BillRunRef) :
    Keeps CopiesApart (BillRun.generate env ref) :=
  .generate (fun _ _ => CopiesApart.inPlace.rewrites.setStatus _ _ _ _)
    (fun _ _ => .of_keeps (.summarise (removeAdjustments_copiesApart _ _)
      (applyMinimumCharges_copiesApart _ _) (fun _ _ => CopiesApart.inPlace.keeps_mapInvoice fun _ => rfl)
      fun _ => CopiesApart.inPlace.keeps_guarded fun _ => rfl))
    CopiesApart.inPlace.issue

theorem record_copiesApart (env : Env) (ref : BillRunRef) (actor : String) (payload : Payload) :
    Keeps CopiesApart (record env ref actor payload) :=
  .record (fun _ _ _ _ => .of_keeps (post_copiesApart _ _ _ rfl)) CopiesApart.inPlace.issue

theorem create_copiesApart (regimeId : Uuid) (slug actor region ruleset : String) :
    Keeps CopiesApart (BillRun.create now regimeId slug actor region ruleset) := by
  unfold BillRun.create
  extract_lets region ruleset issues
  refine .bind (.require _ _) fun _ => ?_
  split
  · exact .bind .get fun _ => .bind (.readRow _ _) fun _ => .bind (.require _ _) fun _ =>
      .bind fresh_copiesApart fun _ => .bind (.modify fun _ h =>
        ⟨h.of_kept rfl (InvoicesKept.refl _), Nat.le_refl _⟩) fun _ => .pure _
  · exact .throw _

theorem delete_copiesApart (ref : BillRunRef) : Keeps CopiesApart (BillRun.delete now ref) :=
  .delete (fun _ _ => CopiesApart.inPlace.rewrites.setStatus _ _ _ _)
    (.modify fun _ h => ⟨h.of_rows (fun _ ht => (List.mem_filter.1 ht).1) fun t ht i hi _ e =>
      ⟨i, List.mem_filter.2 ⟨hi, by rw [e]; exact (List.mem_filter.1 ht).2⟩, rfl⟩, Nat.le_refl _⟩)
    CopiesApart.inPlace.issue

theorem deleteInvoice_copiesApart (K : Uuid) : Keeps CopiesApart (deleteInvoice K) :=
  .modify fun _ h => ⟨h.of_rows (fun _ ht => (List.mem_filter.1 ht).1) fun t ht i hi e _ =>
    ⟨i, List.mem_filter.2 ⟨hi, by rw [e]; exact (List.mem_filter.1 ht).2⟩, rfl⟩, Nat.le_refl _⟩

theorem removeLicence_copiesApart (X L : Uuid) :
    Keeps CopiesApart (Deletion.removeLicence now X L) :=
  .removeLicence (fun _ => CopiesApart.inPlace.rewrites.addBillRunTally _ _ _ _)
    (fun _ _ => CopiesApart.inPlace.rewrites.addInvoiceTally _ _ _)
    (fun _ => .modify fun _ h => ⟨h.of_rows (fun _ ht => (List.mem_filter.1 ht).1)
      fun _ _ i hi _ _ => ⟨i, hi, rfl⟩, Nat.le_refl _⟩)
    deleteInvoice_copiesApart

theorem removeInvoice_copiesApart (X K : Uuid) :
    Keeps CopiesApart (Deletion.removeInvoice now X K) :=
  .removeInvoice (fun _ => CopiesApart.inPlace.rewrites.addBillRunTally _ _ _ _)
    deleteInvoice_copiesApart

theorem cascade_copiesApart (env : Env) (ref : BillRunRef) (prior : Status)
    {remove : Op (Option Uuid)} (hrem : Keeps CopiesApart remove) :
    Keeps CopiesApart (Deletion.cascade env ref prior remove) :=
  .cascade (fun _ _ => CopiesApart.inPlace.rewrites.setStatus _ _ _ _) (.of_keeps hrem)
    (fun _ => .of_keeps (CopiesApart.inPlace.rewrites.resummarise _ _ _ _)) CopiesApart.inPlace.issue

theorem rebill_copiesApart (ref : BillRunRef) (invoiceId : Uuid) (actor : String) :
    Keeps CopiesApart (Rebill.rebill now ref invoiceId actor) := by
  have hinsert : ∀ inv, Keeps CopiesApart (Rebill.insertCopy inv) := fun _ =>
    .bind (.modifyGet fun _ h => ⟨by split; exacts [h, h.of_kept rfl (InvoicesKept.append _ _)],
      by split <;> exact Nat.le_refl _⟩) fun _ => .require _ _
  have hcheck : Keeps CopiesApart (Rebill.check ref invoiceId) := fun _ =>
    Triple.of_eq fun s hs => (check_spec ref invoiceId).mono (fun _ e => e)
      (fun _ _ h => by rw [h.1]; exact hs) fun _ e => by rw [e]; exact hs
  unfold Rebill.rebill
  refine .bind hcheck fun r => ?_
  obtain ⟨target, rebilled⟩ := r
  exact .bind fresh_copiesApart fun _ => .bind fresh_copiesApart fun _ =>
    .bind (.atomic (.bind (hinsert _) fun _ => hinsert _) CopiesApart.inPlace.issue) fun _ => .pure _

theorem copyLines_apartWith (rebilled : Invoice) (X c r : Uuid) (actor : String) :
    Keeps (ApartWith fun I Y => I ∈ [c, r] ∧ Y = X) (Rebill.copyLines now rebilled X c r actor) := by
  refine .copyLines (fun _ _ dest hdest => .of_keeps (post_apartWith _ _ _ fun _ =>
    ⟨dest.1, rfl, ?_, rfl⟩)) (ApartWith.inPlace _).issue
  simp only [List.mem_cons, List.not_mem_nil, or_false] at hdest ⊢
  rcases hdest with rfl | rfl
  · exact Or.inl rfl
  · exact Or.inr rfl

end Operations

/-! ## Every request -/

section Step

variable (env : Env) {s₀ : Store}

theorem rebill_run_copiesApart (hc : s₀.Coherent) (h₀ : s₀.CopiesApart) (slug : String)
    (X invoice : Uuid) (actor : String) :
    Triple (· = s₀) ((Request.rebill slug X invoice actor).run env)
      (Request.Finishes env CopiesApart) CopiesApart := by
  refine Triple.bind ((refIn_billRun slug X).mono (fun _ h => h) (fun _ _ h => h)
    fun _ e => by rw [e]; exact h₀) fun ref => Triple.of_eq fun _ hs => ?_
  rw [hs.1]
  refine Triple.bind (((rebill_copiesApart env.now ref invoice actor).triple.conj
      (rebill_shaped env.now ref invoice actor hc)).mono (fun _ e => ⟨by rw [e]; exact h₀, e⟩)
      (fun _ _ h => h) fun _ h => h.1) fun res => Triple.of_eq fun s₁ h => ?_
  obtain ⟨cancel, again, task⟩ := res
  obtain ⟨h₁, target, rebilled, -, hc₁, hc₂, htask, -, hi, -, -⟩ := h
  simp only at hc₁ hc₂ htask hi
  subst hc₁ hc₂ htask
  have hcopies : ∀ I Y, I ∈ [(Rebill.copy (Uuid.ofSerial s₀.issued) rebilled target.id .cancel
      env.now).id, (Rebill.copy (Uuid.ofSerial (s₀.issued + 1)) rebilled target.id .rebill
      env.now).id] ∧ Y = target.id → s₁.CopyOn I Y := by
    rintro I Y ⟨hI, rfl⟩
    simp only [List.mem_cons, List.not_mem_nil, or_false] at hI
    rcases hI with rfl | rfl
    · refine ⟨_, ?_, rfl, rfl, by simp [Rebill.copy]⟩
      rw [hi]
      exact List.mem_append_right _ List.mem_cons_self
    · refine ⟨_, ?_, rfl, rfl, by simp [Rebill.copy]⟩
      rw [hi]
      exact List.mem_append_right _ (List.mem_cons_of_mem _ List.mem_cons_self)
  refine Triple.pure fun s e => ?_
  subst s
  exact Triple.bind ((copyLines_apartWith env.now rebilled target.id _ _ actor).triple.mono
    (fun _ e => by rw [e]; exact ⟨h₁, hcopies⟩) (fun _ _ h => h) fun _ h => h.1)
    fun _ => Triple.pure fun _ h => h.1

theorem Store.CopiesApart.step (hc : s₀.Coherent) (h₀ : s₀.CopiesApart) (r : Request) :
    (r.step env s₀).CopiesApart := by
  refine Request.step_of env r ?_
  have hstart : ∀ s, s = s₀ → s.CopiesApart := fun _ e => by rw [e]; exact h₀
  have hnone : ∀ {α : Type} (slug : String) (X : Uuid) {op : BillRunRef → Op α},
      (∀ ref, Keeps CopiesApart (op ref)) →
      Triple (· = s₀) (Request.refIn slug X >>= fun ref => op ref >>= fun _ => pure none)
        (Request.Finishes env CopiesApart) CopiesApart := fun slug X _ hop =>
    answered_none env slug X h₀ fun ref _ =>
      (hop ref).triple.mono hstart (fun _ _ h => h) fun _ h => h
  cases r <;> simp only [Request.run]
  case create slug actor region ruleset =>
    exact Triple.bind ((regimeNamed_keeps slug).triple.mono hstart (fun _ _ h => h) fun _ h => h)
      fun _ => Triple.bind (create_copiesApart _ _ _ _ _ _).triple fun _ => Triple.pure fun _ h => h
  case record slug X actor p => exact hnone slug X fun ref => record_copiesApart env ref actor p
  case generate slug X => exact hnone slug X fun ref => generate_copiesApart env ref
  case approve slug X =>
    exact hnone slug X fun ref => CopiesApart.inPlace.rewrites.approve env.now ref
  case delete slug X => exact hnone slug X fun ref => delete_copiesApart env.now ref
  case send slug X =>
    refine answered_work env slug X h₀ fun ref _ =>
      ((CopiesApart.inPlace.send env.now ref).triple.conj (send_leaves_transmit env.now ref)).mono
        (fun _ e => ⟨hstart _ e, trivial⟩) (fun task s h => ?_) fun _ h => h.1
    rw [h.2]
    exact (CopiesApart.inPlace.rewrites.transmit env ref).triple.mono
      (fun _ e => by rw [e]; exact h.1) (fun _ _ h => h) fun _ h => h
  case deleteLicence slug X licence =>
    refine answered_work env slug X h₀ fun ref _ =>
      (deleteLicence_outcome ref licence hc.1.sound).mono (fun _ h => h) (fun task s h => ?_)
        hstart
    obtain ⟨e, a, -, -, htask⟩ := h
    rw [e, htask]
    exact Triple.bind ((cascade_copiesApart env ref a (removeLicence_copiesApart _ _ _)).triple.mono
      hstart (fun _ _ h => h) fun _ h => h) fun _ => Triple.pure fun _ h => h
  case deleteInvoice slug X invoice =>
    refine answered_work env slug X h₀ fun ref _ =>
      (deleteInvoice_outcome ref invoice hc.1.sound).mono (fun _ h => h) (fun task s h => ?_)
        hstart
    obtain ⟨e, a, -, -, htask⟩ := h
    rw [e, htask]
    exact Triple.bind ((cascade_copiesApart env ref a (removeInvoice_copiesApart _ _ _)).triple.mono
      hstart (fun _ _ h => h) fun _ h => h) fun _ => Triple.pure fun _ h => h
  case rebill slug X invoice actor => exact rebill_run_copiesApart env hc h₀ slug X invoice actor
  case recover threshold batch =>
    exact Triple.bind ((CopiesApart.inPlace.rewrites.recover _ _ _).triple.mono hstart
      (fun _ _ h => h) fun _ h => h) fun _ => Triple.pure fun _ h => h

end Step

/-- In every reachable ledger a copied line sits on a copy invoice of its bill run. -/
theorem Reachable.copiesApart {ok : Env → Prop} {s : Store} (h : Reachable ok s) :
    s.CopiesApart := by
  induction h with
  | seeded t => exact copiesApart_seeded t
  | step env r _ hreach ih => exact ih.step env hreach.coherent r

end ChargeLedger
