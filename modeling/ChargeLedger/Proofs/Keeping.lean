import ChargeLedger.Proofs.Composite

/-!
# Operations that keep the ledger consistent

Most of the ledger's writes change a status, flags, a reference, a summary, a counter or the
count of identifiers, and never a tally or a key, so they keep `Store.Consistent` whether they
take or not. Reads, checks and faults change nothing. From these, the requests that only read,
check and write such fields keep the ledger consistent wherever they end: approving, sending and
transmitting a bill run, and recovering stuck generations. Creating a bill run adds an empty row
under a fresh identifier, and deleting one takes its invoices, licences and lines with it.
-/

set_option autoImplicit false

namespace ChargeLedger

open Op

namespace Store

variable {s : Store} {id : Uuid} {allowed : List Status} {f : BillRun → BillRun}

theorem guarded_issued : (s.guarded id allowed f).2.issued = s.issued := by
  cases h : (s.guarded id allowed f).1
  · rw [guarded_false h]
  · rw [(guarded_true h).1]
    rfl

theorem Consistent.guarded (h : s.Consistent) (hf : ∀ b, (f b).id = b.id ∧ (f b).tally = b.tally) :
    (s.guarded id allowed f).2.Consistent := by
  cases hg : (s.guarded id allowed f).1
  · rw [guarded_false hg]
    exact h
  · rw [(guarded_true hg).1]
    exact ⟨h.sound.mapBillRun (fun b => (hf b).1) id, h.exact.mapBillRun_keep id hf⟩

theorem confined_guarded (hf : ∀ b, (f b).id = b.id) : Confined id s (s.guarded id allowed f).2 := by
  cases hg : (s.guarded id allowed f).1
  · rw [guarded_false hg]
    exact Confined.refl id s
  · rw [(guarded_true hg).1]
    exact confined_mapBillRun hf id

theorem Consistent.mapInvoice (h : s.Consistent) (I : Uuid) {g : Invoice → Invoice}
    (hg : ∀ i, (g i).id = i.id ∧ (g i).billRunId = i.billRunId ∧ (g i).tally = i.tally) :
    (s.mapInvoice I g).Consistent :=
  ⟨h.sound.mapInvoice (fun i => ⟨(hg i).1, (hg i).2.1⟩) I,
    h.exact.mapInvoice_keep I fun i => ⟨(hg i).1, (hg i).2.2⟩⟩

theorem Consistent.counters (h : s.Consistent) (cs : List Counter) :
    Consistent { s with counters := cs } :=
  ⟨h.sound.of_keys rfl rfl rfl rfl (Nat.le_refl _), h.exact.of_rows rfl rfl rfl rfl⟩

theorem Consistent.deleteBillRun (h : s.Consistent) (X : Uuid) :
    Consistent { s with
      transactions := s.transactions.filter (·.billRunId != X)
      licences := s.licences.filter (·.billRunId != X)
      invoices := s.invoices.filter (·.billRunId != X)
      billRuns := s.billRuns.filter (·.id != X) } := by
  refine ⟨h.sound.deleteBillRun X, ?_⟩
  have removed : ∀ t ∈ s.transactions.filter (fun t => !(t.billRunId != X)),
      t ∈ s.transactions ∧ t.billRunId = X := by
    intro t ht
    simpa using ht
  refine (h.exact.delete (·.billRunId != X) (·.id != X) (·.billRunId != X) (·.billRunId != X)).congr
    (fun b hb => ?_) (fun i hi => ?_) (fun l hl => ?_) <;>
    simp only [Pi.add_apply, Pi.zero_apply, zero_add] <;>
    refine tallyBy_eq_zero fun t ht e => ?_ <;>
    obtain ⟨ht, htX⟩ := removed t ht
  · have := (List.mem_filter.1 hb).2
    simp [← e, htX] at this
  · obtain ⟨hi, hX⟩ := List.mem_filter.1 hi
    have := h.sound.invoice_billRun (e ▸ htX ▸ h.sound.transaction_invoice_key ht)
      (List.mem_map_of_mem hi)
    simp [this] at hX
  · obtain ⟨hl, hX⟩ := List.mem_filter.1 hl
    have := h.sound.licence_owner (e ▸ htX ▸ h.sound.transaction_key ht) (List.mem_map_of_mem hl)
    simp only [Prod.mk.injEq] at this
    simp [this.2] at hX

theorem Consistent.insertBillRun (h : s.Consistent) (b : BillRun)
    (hid : b.id = Uuid.ofSerial s.issued) (htally : b.tally = 0) :
    Consistent { s with issued := s.issued + 1, billRuns := s.billRuns ++ [b] } := by
  have fresh : ∀ c ∈ s.billRuns, c.id ≠ b.id := fun c hc =>
    hid ▸ (h.sound.billRuns_issued _ (List.mem_map_of_mem hc)).ne_ofSerial
  have lines : ∀ t ∈ s.transactions, t.billRunId ≠ b.id := fun t ht =>
    hid ▸ (h.sound.billRuns_issued _
      (h.sound.invoice_parent _ (h.sound.transaction_invoice_key ht))).ne_ofSerial
  refine ⟨(h.sound.issue 1).insertBillRun b ?_ ?_, ?_⟩
  · simpa [billRunIds] using fresh
  · simp [Issued, hid, Uuid.ofSerial]
  · have := h.exact.insertBillRun b fresh lines rfl
    rw [htally, Pi.single_zero, add_zero] at this
    exact this.of_rows rfl rfl rfl rfl

end Store

open Store

/-! ## Writes of fields that no tally or key depends on -/

theorem keeps_guarded {id : Uuid} {allowed : List Status} {f : BillRun → BillRun}
    (hf : ∀ b, (f b).id = b.id ∧ (f b).tally = b.tally) :
    Keeps Consistent (modifyGet fun s => s.guarded id allowed f : Op Bool) :=
  .modifyGet fun _ h => ⟨h.guarded hf, Nat.le_of_eq guarded_issued.symm⟩

theorem setStatus_keeps (id : Uuid) (allowed : List Status) (target : Status) (now : Instant) :
    Keeps Consistent (setStatus id allowed target now) :=
  keeps_guarded fun _ => ⟨rfl, rfl⟩

theorem setFlags_keeps (id : Uuid) (flags : InvoiceFlags) (now : Instant) :
    Keeps Consistent (setFlags id flags now) :=
  .modify fun _ h => ⟨h.mapInvoice id fun _ => ⟨rfl, rfl, rfl⟩, Nat.le_refl _⟩

theorem setReference_keeps (id : Uuid) (reference : String) (now : Instant) :
    Keeps Consistent (setReference id reference now) :=
  .modify fun _ h => ⟨h.mapInvoice id fun _ => ⟨rfl, rfl, rfl⟩, Nat.le_refl _⟩

theorem next_keeps_of {I : Store → Prop} (hI : ∀ s cs, I s → I { s with counters := cs })
    (q : Sequence) (regime : Uuid) (region : Region) (now : Instant) :
    Keeps I (next q regime region now) := by
  refine .bind .get fun s => ?_
  split
  · exact .pure _
  · split
    · exact .bind (.throw _) fun _ => .bind (.modify fun _ h => ⟨hI _ _ h, Nat.le_refl _⟩)
        fun _ => .pure _
    · exact .bind (.modify fun _ h => ⟨hI _ _ h, Nat.le_refl _⟩) fun _ => .pure _

/-! ## Status moves -/

theorem transition_status (now : Instant) (id : Uuid) (source target : Status) :
    Triple (fun _ => True) (BillRun.transition now id source target)
      (fun _ s => s.statusOf id = some target) (fun _ => True) := by
  refine Triple.of_eq fun s₀ _ => Triple.modifyGet_bind ?_
  generalize hg : s₀.guarded id [source] (fun b => { b with status := target, updatedAt := now }) = g
  obtain ⟨ok, s₁⟩ := g
  cases ok
  · exact (conflict_fails id source).mono (fun _ _ => trivial) (fun _ _ h => h.elim) fun _ h => h
  · refine Triple.pure fun s hs => ?_
    have h : (s₀.guarded id [source] fun b => { b with status := target, updatedAt := now }).2.statusOf
        id = some target := statusOf_guarded (by rw [hg]) (fun _ => rfl) fun _ => rfl
    rw [hg] at h
    exact hs ▸ h

/-! ## Frames: writes that change one bill run

`Store.Within X s₀` holds of a consistent store that differs from `s₀` only in bill run `X`'s
part. A block that keeps it for every `s₀` keeps the ledger consistent, so each operation on one
bill run is proved once, with its frame. Writes by identifier stay on `X` when the identifier
was read as one of `X`'s rows from a store pinned earlier in the block (`Confined.invoice_on`);
reading the store pins it afresh. -/

theorem Op.Keeps.of_within {α : Type} {X : Uuid} {x : Op α} (h : ∀ s₀, Keeps (Within X s₀) x) :
    Keeps Consistent x := fun n =>
  Triple.of_eq fun s₀ hs => (h s₀ n).mono (by rintro _ rfl; exact ⟨Within.refl hs.1 X, hs.2⟩)
    (fun _ _ h => ⟨h.1.1, h.2⟩) fun _ h => ⟨h.1.1, h.2⟩

theorem Op.Preserves.of_within {α : Type} {X : Uuid} {x : Op α}
    (h : ∀ s₀, Preserves (Within X s₀) x) : Preserves Consistent x := fun n =>
  Triple.of_eq fun s₀ hs => (h s₀ n).mono (by rintro _ rfl; exact ⟨Within.refl hs.1 X, hs.2⟩)
    (fun _ _ h => ⟨h.1.1, h.2⟩) fun _ h => h

variable {s₀ : Store} {X : Uuid}

theorem Op.Keeps.get_within {β : Type} {k : Store → Op β}
    (h : ∀ s₁, s₁.Consistent → Keeps (Within X s₁) (k s₁)) :
    Keeps (Within X s₀) (MonadState.get >>= k) := fun n =>
  Triple.of_eq fun s₁ hs => Triple.get_bind ((h s₁ hs.1.1 n).mono
    (by rintro _ rfl; exact ⟨Within.refl hs.1.1 X, hs.2⟩)
    (fun _ _ h => ⟨⟨h.1.1, hs.1.2.trans h.1.2⟩, h.2⟩) fun _ h => ⟨⟨h.1.1, hs.1.2.trans h.1.2⟩, h.2⟩)

theorem Op.Preserves.get_within {β : Type} {k : Store → Op β}
    (h : ∀ s₁, s₁.Consistent → Preserves (Within X s₁) (k s₁)) :
    Preserves (Within X s₀) (MonadState.get >>= k) := fun n =>
  Triple.of_eq fun s₁ hs => Triple.get_bind ((h s₁ hs.1.1 n).mono
    (by rintro _ rfl; exact ⟨Within.refl hs.1.1 X, hs.2⟩)
    (fun _ _ h => ⟨⟨h.1.1, hs.1.2.trans h.1.2⟩, h.2⟩) fun _ h => h)

theorem guarded_within {allowed : List Status} {f : BillRun → BillRun}
    (hf : ∀ b, (f b).id = b.id ∧ (f b).tally = b.tally) :
    Keeps (Within X s₀) (modifyGet fun s => s.guarded X allowed f : Op Bool) :=
  (keeps_guarded hf).and (.modifyGet fun _ h =>
    ⟨h.trans (confined_guarded fun b => (hf b).1), Nat.le_of_eq guarded_issued.symm⟩)

theorem setStatus_within (allowed : List Status) (target : Status) (now : Instant) :
    Keeps (Within X s₀) (setStatus X allowed target now) :=
  guarded_within fun _ => ⟨rfl, rfl⟩

theorem setSummary_within (summary : Summary) (source target : Status) (now : Instant) :
    Keeps (Within X s₀) (setSummary X summary source target now) :=
  guarded_within fun _ => ⟨rfl, rfl⟩

theorem assignFile_within (number : Int64) (reference : Option String) (madeAt : Option Instant)
    (source target : Status) (now : Instant) :
    Keeps (Within X s₀) (assignFile X number reference madeAt source target now) :=
  guarded_within fun _ => ⟨rfl, rfl⟩

theorem transition_within (now : Instant) (source target : Status) :
    Keeps (Within X s₀) (BillRun.transition now X source target) :=
  .transition (setStatus_within _ _ _)

theorem next_within (q : Sequence) (regime : Uuid) (region : Region) (now : Instant) :
    Keeps (Within X s₀) (next q regime region now) :=
  next_keeps_of (fun _ _ h => ⟨h.1.counters _, h.2⟩) q regime region now

theorem nextNumber_within (now : Instant) (ref : BillRunRef) (b : BillRun) (q : Sequence) :
    Keeps (Within X s₀) (BillRun.nextNumber now ref b q) :=
  .bind (next_within _ _ _ _) fun _ => .bind (.require _ _) fun _ => .pure _

section Pinned

variable {J : Uuid} (hs₀ : s₀.Sound) (hJ : (J, X) ∈ s₀.invoiceKeys)
include hs₀ hJ

theorem setReference_within (reference : String) (now : Instant) :
    Keeps (Within X s₀) (setReference J reference now) :=
  (setReference_keeps J reference now).and (.modify fun s h => ⟨h.trans
    (confined_mapInvoice (fun _ => by constructor <;> rfl) (h.invoice_on hs₀ hJ)), Nat.le_refl _⟩)

theorem setFlags_within (flags : InvoiceFlags) (now : Instant) :
    Keeps (Within X s₀) (setFlags J flags now) :=
  (setFlags_keeps J flags now).and (.modify fun s h => ⟨h.trans
    (confined_mapInvoice (fun _ => by constructor <;> rfl) (h.invoice_on hs₀ hJ)), Nat.le_refl _⟩)

end Pinned

/-! ## Requests that only read, check and write such fields -/

theorem approve_within (now : Instant) (ref : BillRunRef) :
    Keeps (Within ref.billRunId s₀) (BillRun.approve now ref) :=
  .approve fun _ _ => setStatus_within _ _ _

theorem approve_keeps (now : Instant) (ref : BillRunRef) : Keeps Consistent (BillRun.approve now ref) :=
  .of_within fun _ => approve_within now ref

/-- Numbering a bill run writes to its own invoices and row. -/
theorem assignReferences_within (now : Instant) (ref : BillRunRef) (b : BillRun) :
    Keeps (Within b.id s₀) (BillRun.assignReferences now ref b) := by
  refine Keeps.get_within fun s₁ hc => .bind (.forM fun inv hinv => ?_) fun _ =>
    .bind (nextNumber_within _ _ _ _) fun _ => ?_
  · -- a billable invoice of the bill run is one of its rows
    have hkey : (inv.id, b.id) ∈ s₁.invoiceKeys :=
      key_of_mem_invoicesOf (List.mem_filter.1 hinv).1
    exact .bind (nextNumber_within _ _ _ _) fun _ => setReference_within hc.sound hkey _ _
  extract_lets assign
  have hassign : ∀ file, Keeps (Within b.id s₁) (assign file) := by
    intro file
    refine .bind (assignFile_within _ _ _ _ _ _) fun ok => ?_
    cases ok
    · exact conflict_keeps _ _
    · exact .pure ()
  split
  · exact .bind (.pure _) hassign
  · exact .bind (next_within _ _ _ _) fun _ => .bind (.pure _) hassign

theorem send_within (now : Instant) (ref : BillRunRef) :
    Keeps (Within ref.billRunId s₀) (BillRun.send now ref) :=
  Keeps.billRunOf_bind fun b hb => .bind (.require _ _) fun _ =>
    .bind (hb ▸ (assignReferences_within now ref b).atomic fun _ _ h hm => h.issue hm) fun _ =>
      .pure _

theorem send_keeps (now : Instant) (ref : BillRunRef) : Keeps Consistent (BillRun.send now ref) :=
  .of_within fun _ => send_within now ref

theorem transmit_within (env : Env) (ref : BillRunRef) :
    Keeps (Within ref.billRunId s₀) (BillRun.transmit env ref) :=
  .transmit fun _ _ => setStatus_within _ _ _

theorem recover_keeps (now : Instant) (threshold batch : Int) :
    Keeps Consistent (Recovery.recover now threshold batch) :=
  .recover fun _ => setStatus_keeps _ _ _ _

theorem delete_within (now : Instant) (ref : BillRunRef) :
    Keeps (Within ref.billRunId s₀) (BillRun.delete now ref) :=
  .delete (fun _ _ => setStatus_within _ _ _)
    (.modify fun _ h => ⟨⟨h.1.deleteBillRun _, h.2.trans (confined_deleteBillRun _)⟩,
      Nat.le_refl _⟩)
    fun _ _ h hm => h.issue hm

theorem delete_keeps (now : Instant) (ref : BillRunRef) : Keeps Consistent (BillRun.delete now ref) :=
  .of_within fun _ => delete_within now ref

theorem create_keeps (now : Instant) (regimeId : Uuid) (slug actor region ruleset : String) :
    Keeps Consistent (BillRun.create now regimeId slug actor region ruleset) := by
  unfold BillRun.create
  extract_lets region ruleset issues
  clear_value region ruleset issues
  refine .bind (.require _ _) fun _ => ?_
  split
  · refine .bind .get fun _ => .bind (.readRow _ _) fun _ => .bind (.require _ _) fun _ =>
      .fresh_bind fun n s h hn => .modify_bind (.pure fun _ e => e ▸ ⟨?_, ?_⟩)
    · exact h.insertBillRun _ rfl rfl
    · exact Nat.le_succ_of_le hn
  · exact .throw _

end ChargeLedger
