import ChargeLedger.Proofs.Generating
import ChargeLedger.Ledger.Deletion

/-!
# Removing a licence or an invoice keeps the ledger consistent

A removal takes the tally of the lines it is about to delete off the bill run (and, for a
licence, off its invoice), then deletes them. Every line under a licence is on the licence's
invoice and bill run, and every line under an invoice on the invoice's bill run, so the deletion
gives each row that stays back exactly what it was moved by, and the rows that go take their
offsets with them (`Balanced.deleteLicence`, `Balanced.deleteInvoice`). An invoice left without
licences has no lines, so deleting it moves nothing. The cascade around a removal only sets
statuses, flags and the summary, so it keeps the ledger consistent whether the removal returns
or fails.
-/

set_option autoImplicit false

namespace ChargeLedger

open Op

namespace Store

variable {s s₀ s₁ : Store} {X I L : Uuid} {δ : Tally} {dB dI : Uuid → Tally}

theorem linesTally_sortBy (cmp : Transaction → Transaction → Ordering) (ts : List Transaction) :
    Deletion.linesTally (sortBy cmp ts) = (ts.map Transaction.tally).sum := by
  rw [Deletion.linesTally, Tally.sum_eq]
  exact ((sortBy_perm cmp ts).map _).sum_eq

theorem linesTally_transactionsOfLicence (L : Uuid) :
    Deletion.linesTally (s.transactionsOfLicence L) = tallyBy s.transactions (·.licenceId) L :=
  linesTally_sortBy _ _

theorem linesTally_transactionsOfInvoice (I : Uuid) :
    Deletion.linesTally (s.transactionsOfInvoice I) = tallyBy s.transactions (·.invoiceId) I :=
  linesTally_sortBy _ _

theorem removed_eq (ts : List Transaction) (key : Transaction → Uuid) (k : Uuid) :
    ts.filter (fun t => !(key t != k)) = ts.filter (key · == k) :=
  List.filter_congr fun t _ => by rw [bne, Bool.not_not]

/-- Deleting a licence with its lines: the licence's invoice and bill run take the tally of the
deleted lines as a further offset, and no row that stays moves otherwise. -/
theorem Balanced.deleteLicence (h : s.Balanced dB dI 0)
    (hunder : ∀ t ∈ s.transactions, t.licenceId = L → t.invoiceId = I ∧ t.billRunId = X) :
    Balanced { s with
      transactions := s.transactions.filter (·.licenceId != L)
      licences := s.licences.filter (·.id != L) }
      (dB + Pi.single X (tallyBy s.transactions (·.licenceId) L))
      (dI + Pi.single I (tallyBy s.transactions (·.licenceId) L)) 0 := by
  have under : ∀ t ∈ s.transactions.filter (·.licenceId == L),
      t.licenceId = L ∧ t.invoiceId = I ∧ t.billRunId = X := fun t ht => by
    obtain ⟨ht, hL⟩ := List.mem_filter.1 ht
    simp only [beq_iff_eq] at hL
    exact ⟨hL, hunder t ht hL⟩
  have hb := h.delete (·.licenceId != L) (fun _ => true) (fun _ => true) (·.id != L)
  rw [List.filter_true, List.filter_true, removed_eq,
    tallyBy_of_forall fun t ht => (under t ht).2.2, tallyBy_of_forall fun t ht => (under t ht).2.1,
    tallyBy_of_forall fun t ht => (under t ht).1] at hb
  refine hb.congr (fun _ _ => rfl) (fun _ _ => rfl) fun l hl => ?_
  have hl : l.id ≠ L := by simpa using (List.mem_filter.1 hl).2
  simp [hl]

/-- Deleting an invoice with its licences and lines: its bill run takes the tally of the deleted
lines as a further offset, and no row that stays moves otherwise. -/
theorem Balanced.deleteInvoice (h : s.Balanced dB 0 0) (hs : s.Sound)
    (hunder : ∀ t ∈ s.transactions, t.invoiceId = I → t.billRunId = X) :
    Balanced { s with
      transactions := s.transactions.filter (·.invoiceId != I)
      licences := s.licences.filter (·.invoiceId != I)
      invoices := s.invoices.filter (·.id != I) }
      (dB + Pi.single X (tallyBy s.transactions (·.invoiceId) I)) 0 0 := by
  have under : ∀ t ∈ s.transactions.filter (·.invoiceId == I),
      t ∈ s.transactions ∧ t.invoiceId = I := fun t ht => by simpa using ht
  have hb := h.delete (·.invoiceId != I) (fun _ => true) (·.id != I) (·.invoiceId != I)
  rw [List.filter_true, removed_eq, tallyBy_of_forall fun t ht =>
    hunder t (under t ht).1 (under t ht).2] at hb
  refine hb.congr (fun _ _ => rfl) (fun i hi => ?_) fun l hl => ?_
  · have hi : i.id ≠ I := by simpa using (List.mem_filter.1 hi).2
    rw [Pi.add_apply, tallyBy_of_forall fun t ht => (under t ht).2]
    simp [hi]
  · -- a deleted line under a licence that stays would put the licence on the deleted invoice
    obtain ⟨hl, hI⟩ := List.mem_filter.1 hl
    rw [Pi.add_apply, tallyBy_eq_zero fun t ht e => ?_]
    · simp
    obtain ⟨ht, htI⟩ := under t ht
    have := (hs.lines_of_licence hl t ht e).1
    simp [← this, htI] at hI

theorem Sound.no_lines (h : s.Sound) (hI : s.licenceCount I = 0) :
    ∀ t ∈ s.transactions, t.invoiceId ≠ I := by
  intro t ht e
  obtain ⟨l, hl, hk⟩ := List.mem_map.1 (h.transaction_key ht)
  simp only [Prod.mk.injEq] at hk
  have hnil : s.licences.filter (·.invoiceId == I) = [] := List.length_eq_zero_iff.1 hI
  have : l ∈ s.licences.filter (·.invoiceId == I) := List.mem_filter.2 ⟨hl, by simp [hk.2.1, e]⟩
  rw [hnil] at this
  cases this

theorem Consistent.deleteEmptyInvoice (h : s.Consistent) (hI : s.licenceCount I = 0) :
    Consistent { s with
      transactions := s.transactions.filter (·.invoiceId != I)
      licences := s.licences.filter (·.invoiceId != I)
      invoices := s.invoices.filter (·.id != I) } := by
  have none := h.sound.no_lines hI
  have hb := h.exact.deleteInvoice h.sound (X := I) fun t ht e => absurd e (none t ht)
  rw [tallyBy_eq_zero none, Pi.single_zero, add_zero] at hb
  exact ⟨h.sound.deleteInvoice I, hb⟩

/-- A licence removal, its bill run and invoice moved by the tally taken off, ends consistent. -/
theorem Underway.deleteLicence (h : Underway s₀ s₁ X δ (Pi.single I δ) 0 s)
    (hunder : ∀ t ∈ s₀.transactions, t.licenceId = L → t.invoiceId = I ∧ t.billRunId = X)
    (hδ : δ = -tallyBy s₀.transactions (·.licenceId) L) :
    Consistent { s with
      transactions := s.transactions.filter (·.licenceId != L)
      licences := s.licences.filter (·.id != L) } := by
  have hb := h.balanced.deleteLicence (h.transactions ▸ hunder)
  refine ⟨h.sound.deleteLicence L, ?_⟩
  rw [h.transactions] at hb ⊢
  simp only [hδ, ← Pi.single_add, neg_add_cancel, Pi.single_zero] at hb
  exact hb

/-- An invoice removal, its bill run moved by the tally taken off, ends consistent. -/
theorem Underway.deleteInvoice (h : Underway s₀ s₁ X δ 0 0 s)
    (hunder : ∀ t ∈ s₀.transactions, t.invoiceId = I → t.billRunId = X)
    (hδ : δ = -tallyBy s₀.transactions (·.invoiceId) I) :
    Consistent { s with
      transactions := s.transactions.filter (·.invoiceId != I)
      licences := s.licences.filter (·.invoiceId != I)
      invoices := s.invoices.filter (·.id != I) } := by
  have hb := h.balanced.deleteInvoice h.sound (h.transactions ▸ hunder)
  refine ⟨h.sound.deleteInvoice I, ?_⟩
  rw [h.transactions] at hb ⊢
  rwa [hδ, ← Pi.single_add, neg_add_cancel, Pi.single_zero] at hb

end Store

open Store

variable {s₀ : Store}

theorem subtract_spec (now : Instant) (X : Uuid) (δ : Tally) (hc : s₀.Consistent) :
    Triple (· = s₀) (Deletion.subtract now X δ)
      (fun _ s => Underway s₀ s X δ 0 0 s) (· = s₀) := by
  unfold Deletion.subtract
  rw [addBillRunTally_eq]
  refine Triple.modifyGet_bind ?_
  generalize hg : s₀.guarded X [.pending] (BillRun.posted now δ) = g
  obtain ⟨ok, s₁⟩ := g
  cases ok
  · have h : (s₀.guarded X [.pending] (BillRun.posted now δ)).2 = s₀ := guarded_false (by rw [hg])
    rw [hg] at h
    exact Triple.require fun s hs => ⟨nofun, fun _ => hs.trans h⟩
  · have h := Underway.start hc (fun _ => by exact ⟨rfl, rfl⟩)
      (show (s₀.guarded X [.pending] (BillRun.posted now δ)).1 = true by rw [hg])
    rw [hg] at h
    exact Triple.require fun s hs => ⟨fun _ => hs ▸ h, nofun⟩

/-- What a removal from bill run `X` does, started in a consistent store `s₀`: it returns into a
consistent ledger changed only in `X`, with the invoice it left behind, if any, one of `X`'s in
`s₀`; when it fails it has only drawn identifiers. -/
def Removal (X : Uuid) (remove : Op (Option Uuid)) : Prop :=
  ∀ s₀ : Store, s₀.Consistent → Triple (· = s₀) remove
    (fun left s => Within X s₀ s ∧ s₀.issued ≤ s.issued ∧
      ∀ I, left = some I → (I, X) ∈ s₀.invoiceKeys)
    (fun s => s₀.issued ≤ s.issued)

theorem removeLicence_removal (now : Instant) (X L : Uuid) :
    Removal X (Deletion.removeLicence now X L) := by
  intro s₀ hc₀
  refine Triple.get_bind ?_
  split
  · rename_i lic hlic
    obtain ⟨hmem, -, hX⟩ := mem_of_licenceOn? hlic
    have hunder := hc₀.sound.lines_of_licence hmem
    have hL : (lic.id, lic.invoiceId, X) ∈ s₀.licenceKeys := hX ▸ List.mem_map_of_mem hmem
    have hI : (lic.invoiceId, X) ∈ s₀.invoiceKeys := hX ▸ hc₀.sound.licence_key hmem
    refine Triple.bind ((subtract_spec now X _ hc₀).mono (fun _ h => h) (fun _ _ h => h)
      fun _ e => e ▸ Nat.le_refl _) fun _ => Triple.of_eq fun s hu => ?_
    have hu := hu.addInvoice (hu.confined.invoice_on hc₀.sound hI) now
    refine Triple.modifyGet_bind (Triple.modify_bind (Triple.get_bind ?_))
    have hc := hu.deleteLicence (hX ▸ hunder) (by rw [linesTally_transactionsOfLicence])
    have hconf := hu.confined.trans (confined_deleteLicence (hu.confined.licence_on hc₀.sound hL)
      (hu.confined.lines_on_licence hc₀.sound hL))
    split
    · exact Triple.pure fun _ e => e ▸ ⟨⟨hc, hconf⟩, hu.issued, fun _ e' => Option.some.inj e' ▸ hI⟩
    · rename_i hcount
      exact Triple.modify_bind (Triple.pure fun _ e => e ▸
        ⟨⟨hc.deleteEmptyInvoice (by simpa using hcount), hconf.trans (confined_deleteInvoice
          (hconf.invoice_on hc₀.sound hI) (hconf.licences_on_invoice hc₀.sound hI)
          (hconf.lines_on_invoice hc₀.sound hI))⟩, hu.issued, nofun⟩)
  · exact Triple.throw fun _ e => e ▸ Nat.le_refl _

theorem removeInvoice_removal (now : Instant) (X I : Uuid) :
    Removal X (Deletion.removeInvoice now X I) := by
  intro s₀ hc₀
  refine Triple.get_bind ?_
  split
  · rename_i inv hinv
    obtain ⟨hmem, -, hX⟩ := mem_of_invoiceOn? hinv
    have hunder := hc₀.sound.lines_of_invoice hmem
    have hI : (inv.id, X) ∈ s₀.invoiceKeys := hX ▸ List.mem_map_of_mem hmem
    refine Triple.bind ((subtract_spec now X _ hc₀).mono (fun _ h => h) (fun _ _ h => h)
      fun _ e => e ▸ Nat.le_refl _) fun _ => Triple.of_eq fun s hu => ?_
    refine Triple.modify_bind (Triple.pure fun _ e => e ▸ ⟨⟨hu.deleteInvoice (hX ▸ hunder)
      (by rw [linesTally_transactionsOfInvoice]), hu.confined.trans (confined_deleteInvoice
        (hu.confined.invoice_on hc₀.sound hI) (hu.confined.licences_on_invoice hc₀.sound hI)
        (hu.confined.lines_on_invoice hc₀.sound hI))⟩, hu.issued, nofun⟩)
  · exact Triple.throw fun _ e => e ▸ Nat.le_refl _

variable {X : Uuid}

theorem resummarise_within (env : Env) (slug : String) (left : Option Uuid) (hs₀ : s₀.Sound)
    (hleft : ∀ I, left = some I → (I, X) ∈ s₀.invoiceKeys) :
    Keeps (Within X s₀) (Deletion.resummarise env slug X left) := by
  unfold Deletion.resummarise
  extract_lets jp
  have hjp : ∀ r, Keeps (Within X s₀) (jp r) := fun _ =>
    .bind .get fun _ => .bind (setSummary_within _ _ _ _) fun _ => .pure ()
  cases left with
  | none => exact hjp ()
  | some I =>
    refine .bind .get fun s => ?_
    split
    · exact .bind (setFlags_within hs₀ (hleft I rfl) _ _) hjp
    · exact .bind (.throw _) hjp

/-- A removal run as a cascade on the bill run it removes from changes nothing else, whether it
returns or fails. -/
theorem cascade_within (env : Env) (ref : BillRunRef) (prior : Status) {remove : Op (Option Uuid)}
    (hr : Removal ref.billRunId remove) :
    Keeps (Within ref.billRunId s₀) (Deletion.cascade env ref prior remove) := by
  unfold Deletion.cascade
  refine .bind (setStatus_within _ _ _) fun _ => .bind (.require _ _) fun _ => ?_
  refine .bind (.tryCatch (.bind (.atomically ?_ fun _ _ h hm => h.issue hm) fun _ => .pure _)
    fun _ => .pure _) fun outcome => ?_
  · -- the block is pinned where the removal starts, which is where it reads what it removes
    intro n
    refine Triple.of_eq fun s₁ hs₁ => Triple.bind ((hr s₁ hs₁.1.1).mono (fun _ e => e)
      (fun _ _ h => h) fun _ h => Nat.le_trans hs₁.2 h) fun left => Triple.of_eq fun s h => ?_
    have hk : Keeps (Within ref.billRunId s₁) (if prior == .generated then
        Deletion.resummarise env ref.regimeSlug ref.billRunId left else pure ()) := by
      split
      · exact resummarise_within _ _ _ hs₁.1.1.sound h.2.2
      · exact .pure ()
    exact (hk n).mono (fun _ e => e ▸ ⟨h.1, Nat.le_trans hs₁.2 h.2.1⟩)
      (fun _ _ h' => ⟨hs₁.1.2.within h'.1, h'.2⟩) fun _ h' => h'.2
  · refine .bind .get fun _ => .bind (setStatus_within _ _ _) fun _ => ?_
    cases outcome with
    | none => exact .pure ()
    | some e => exact .throw e

end ChargeLedger
