import ChargeLedger.Proofs.CopiedLines
import ChargeLedger.Proofs.Raising
import ChargeLedger.Proofs.Rollup

/-!
# The block of a generation always returns

Generation tops a primary invoice up to the minimum charge by copying one of its lines subject to
the minimum charge that is no adjustment; when it finds none it fails, unexpectedly. It always
finds one. Once the adjustments an earlier generation raised are taken back, the tally of each
invoice is that of its lines, so an invoice that counts a line subject to the minimum charge has
one; on a primary invoice that line is no adjustment, since the only adjustments left on the bill
run are rebills' copies, and those sit on copies (`Store.CopiesApart`). Each top-up is posted onto
a generating bill run and an invoice that is there, so it returns too, and so does the block
(`summarise_returns`). Generating then fails only at its own checks (`generate_raises`).
-/

set_option autoImplicit false

namespace ChargeLedger

open Op Store

/-! ## Lines subject to the minimum charge -/

theorem Tally.subjectCount_sum_of_forall {l : List Tally} (h : ∀ a ∈ l, a.subjectCount = 0) :
    l.sum.subjectCount = 0 := by
  induction l with
  | nil => rfl
  | cons a l ih =>
    rw [List.sum_cons, Tally.add_fields]
    dsimp only
    rw [h a List.mem_cons_self, ih fun b hb => h b (List.mem_cons_of_mem a hb)]
    rfl

theorem Transaction.subjectCount_tally {t : Transaction} (h : t.subjectToMinimumCharge = false) :
    t.tally.subjectCount = 0 := by
  unfold Transaction.tally Tally.ofLine
  rw [h]
  simp only [Bool.false_eq_true, if_false]
  split
  · rfl
  · split <;> rfl

namespace Store

variable {s s' s₀ : Store} {X : Uuid} {inv : Invoice} {todo : List Invoice}

theorem Consistent.subject_line (hc : s.Consistent) (hi : inv ∈ s.invoices)
    (h : inv.tally.subjectCount ≠ 0) :
    ∃ u ∈ s.transactions, u.invoiceId = inv.id ∧ u.subjectToMinimumCharge = true := by
  refine Classical.byContradiction fun hno => h ?_
  rw [Exact.invoice_tally hc.exact hi, tallyBy]
  refine Tally.subjectCount_sum_of_forall fun a ha => ?_
  obtain ⟨u, hu, rfl⟩ := List.mem_map.1 ha
  obtain ⟨hu, hk⟩ := List.mem_filter.1 hu
  exact Transaction.subjectCount_tally (Bool.eq_false_iff.2 fun hs =>
    hno ⟨u, hu, by simpa using hk, hs⟩)

theorem guarded_takes {a : Status} {allowed : List Status} {f : BillRun → BillRun}
    (h : s.statusOf X = some a) (ha : a ∈ allowed) : (s.guarded X allowed f).1 = true := by
  obtain ⟨b, hb, rfl⟩ := Option.map_eq_some_iff.1 h
  rw [guarded_of_billRun? hb (by simpa using ha)]

theorem invoice?_isSome_of_key {I : Uuid} (h : (I, X) ∈ s.invoiceKeys) :
    (s.invoice? I).isSome = true := by
  obtain ⟨i, hi, e⟩ := List.mem_map.1 h
  simp only [Prod.mk.injEq] at e
  exact List.find?_isSome.2 ⟨i, hi, by simp [e.1]⟩

theorem CopiesApart.not_adjustment (hs : s.Sound) (hcp : s.CopiesApart)
    (hclear : ∀ t ∈ s.transactions, t.billRunId = X → t.raised = false)
    (hi : inv ∈ s.invoices) (hX : inv.billRunId = X) (hp : inv.kind = .primary)
    {u : Transaction} (hu : u ∈ s.transactions) (hui : u.invoiceId = inv.id) :
    u.minimumChargeAdjustment = false := by
  have huX : u.billRunId = X := hs.invoice_billRun (hui ▸ hs.transaction_invoice_key hu)
    (hX ▸ List.mem_map_of_mem (f := fun i : Invoice => (i.id, i.billRunId)) hi)
  cases hm : u.minimumChargeAdjustment
  · rfl
  · have hr := hclear u hu huX
    simp only [Transaction.raised, hm, Bool.true_and] at hr
    obtain ⟨i, hi', hid, -, hk⟩ := hcp u hu (by simpa using hr)
    rw [hs.invoice_eq hi' hi (hid.trans hui)] at hk
    exact absurd hp hk

/-- Topping up the invoices `todo` on generating bill run `X`: the ledger consistent, and each
invoice still to do on `X`, with a line subject to the minimum charge that is no adjustment when it
is primary and counts one. -/
structure Topping (X : Uuid) (todo : List Invoice) (s : Store) : Prop where
  consistent : s.Consistent
  generating : s.statusOf X = some .generating
  keys : ∀ inv ∈ todo, (inv.id, X) ∈ s.invoiceKeys
  templates : ∀ inv ∈ todo, inv.kind = .primary → inv.tally.subjectCount ≠ 0 →
    ∃ u ∈ s.transactions, u.invoiceId = inv.id ∧ u.subjectToMinimumCharge = true ∧
      u.minimumChargeAdjustment = false

theorem Topping.start (hc : s.Consistent) (hcp : s.CopiesApart)
    (hg : s.statusOf X = some .generating)
    (hclear : ∀ t ∈ s.transactions, t.billRunId = X → t.raised = false) :
    Topping X (s.invoicesOf X) s where
  consistent := hc
  generating := hg
  keys _ hinv := key_of_mem_invoicesOf hinv
  templates inv hinv hp hn := by
    obtain ⟨hi, hX⟩ := mem_invoicesOf.1 hinv
    obtain ⟨u, hu, hui, hus⟩ := hc.subject_line hi hn
    exact ⟨u, hu, hui, hus, hcp.not_adjustment hc.sound hclear hi hX hp hu hui⟩

theorem Topping.grow (h : Topping X todo s) (hc : s'.Consistent)
    (hg : s'.statusOf X = some .generating) (ht : ∀ u ∈ s.transactions, u ∈ s'.transactions)
    (hk : ∀ k ∈ s.invoiceKeys, k ∈ s'.invoiceKeys) : Topping X todo s' where
  consistent := hc
  generating := hg
  keys inv hinv := hk _ (h.keys inv hinv)
  templates inv hinv hp hn := (h.templates inv hinv hp hn).imp fun _ hu => ⟨ht _ hu.1, hu.2⟩

theorem Topping.tail (h : Topping X (inv :: todo) s) : Topping X todo s where
  consistent := h.consistent
  generating := h.generating
  keys i hi := h.keys i (List.mem_cons_of_mem inv hi)
  templates i hi := h.templates i (List.mem_cons_of_mem inv hi)

end Store

/-! ## Taking back the adjustments -/

variable {s₀ : Store} {X : Uuid}

theorem removeAdjustments_clears (now : Instant) (X : Uuid) :
    Triple (· = s₀) (BillRun.removeAdjustments now X)
      (fun _ s => ∀ t ∈ s.transactions, t.billRunId = X → t.raised = false) (fun _ => True) := by
  have hstale : ∀ t ∈ s₀.transactions, t.billRunId = X → t.raised = true →
      t ∈ s₀.raisedAdjustments X := fun t ht hX hr => by
    simp only [Transaction.raised, Bool.and_eq_true, Option.isNone_iff_eq_none] at hr
    exact mem_raisedAdjustments.2 ⟨ht, hX, hr.1, hr.2⟩
  unfold BillRun.removeAdjustments
  refine Triple.get_bind ?_
  dsimp only
  split
  · -- the tallies move in place; the lines change only when the adjustments are deleted
    have hJ := InPlace.lines s₀.transactions
    have hlic : ∀ L δ, Keeps (fun s => s.transactions = s₀.transactions)
        (addLicenceTally L δ now) := fun _ _ => .modifyGet fun _ h => ⟨h, Nat.le_refl _⟩
    refine Triple.bind (Q := fun _ s => s.transactions = s₀.transactions)
      ((hJ.rewrites.addBillRunTally _ _ _ _).triple.mono (fun s (e : s = s₀) => by rw [e])
        (fun _ _ h => h) fun _ _ => trivial) fun _ => ?_
    refine Triple.bind (Q := fun _ s => s.transactions = s₀.transactions)
      ((Keeps.forM fun _ _ => .bind (hJ.rewrites.addInvoiceTally _ _ _) fun _ =>
        .bind (hlic _ _) fun _ => .pure ()).triple.mono (fun _ h => h) (fun _ _ h => h)
        fun _ _ => trivial) fun _ => Triple.modify fun s hs t ht hX => ?_
    obtain ⟨ht', hkeep⟩ := List.mem_filter.1 ht
    rw [hs] at ht'
    cases hr : t.raised
    · rfl
    · exact absurd (List.mem_map_of_mem (f := (·.id)) (hstale t ht' hX hr)) (by simpa using hkeep)
  · rename_i hempty
    have hnil : s₀.raisedAdjustments X = [] := by simpa using hempty
    refine Triple.pure fun s e t ht hX => ?_
    subst e
    cases hr : t.raised
    · rfl
    · exact absurd (hnil ▸ hstale t ht hX hr) List.not_mem_nil

theorem removeAdjustments_generating (now : Instant) (Y : Uuid) :
    Keeps (fun s => s.statusOf X = some .generating) (BillRun.removeAdjustments now Y) := by
  refine .removeAdjustments (fun _ => ?_) (fun _ _ => .modifyGet fun _ h => ⟨h, Nat.le_refl _⟩)
    (fun _ _ => .modifyGet fun _ h => ⟨h, Nat.le_refl _⟩) fun _ => .modify fun _ h => ⟨h, Nat.le_refl _⟩
  -- the bill run's tally is the one write to a bill run, and it leaves a generating one generating
  rw [addBillRunTally_eq]
  refine keeps_status_guarded (P := (· = some .generating)) (fun _ => rfl) fun b _ hb _ => ?_
  simp only [Option.some.injEq] at hb
  simp [BillRun.posted, hb]

/-! ## Topping up -/

section TopUp

variable (now : Instant)

theorem post_adjustment_returns {s : Store} {template : Transaction} {K : Uuid} (credit : Bool)
    (value : Int64) (hc : s.Consistent) (hg : s.statusOf X = some .generating)
    (ht : template ∈ s.transactions) (hX : template.billRunId = X) (hK : template.invoiceId = K) :
    Triple (· = { s with issued := s.issued + 1 })
      (post now (BillRun.adjustment (Uuid.ofSerial s.issued) template credit value)
        { invoice := some K, allowed := [.generating] })
      (fun stored s' => s'.Consistent ∧ s'.statusOf X = some .generating ∧
        s'.transactions = s.transactions ++ [stored] ∧ ∀ k ∈ s.invoiceKeys, k ∈ s'.invoiceKeys)
      (fun _ => False) := by
  subst hX hK
  obtain ⟨b, hb, hst⟩ := Option.map_eq_some_iff.1 hg
  have hkey := hc.sound.transaction_invoice_key ht
  have hinv : ∀ I, some template.invoiceId = some I → ∀ i ∈ s.invoices, i.id = I →
      i.billRunId = template.billRunId := fun I e => by
    rw [← Option.some.inj e]
    exact hc.sound.invoice_on hkey
  have hspec := post_spec now (BillRun.adjustment (Uuid.ofSerial s.issued) template credit value)
    { invoice := some template.invoiceId, allowed := [.generating] } (hc.issue (Nat.le_succ _))
    hc.sound.fresh_transaction
    (by show Uuid.serialBase + s.issued < Uuid.serialBase + (s.issued + 1); omega) hinv
  refine (hspec.conj (post_returns (s := { s with issued := s.issued + 1 }) now _ _ hb (by simp [hst]) (fun I e => by
    rw [← Option.some.inj e]
    exact invoice?_isSome_of_key hkey) rfl)).mono (fun _ e => ⟨e, e⟩) (fun _ _ h => ?_) fun _ h => h.2
  obtain ⟨⟨-, hp⟩, -⟩ := h
  refine ⟨hp.consistent, ?_, hp.transactions, hp.keys⟩
  rw [statusOf_congr hp.billRuns]
  refine guarded_keeps_status (P := (· = some .generating)) (fun _ => rfl)
    (fun c _ hc' _ => ?_) hg
  simp only [Option.some.injEq] at hc'
  simp [BillRun.posted, hc']

theorem applyMinimumCharge_returns (inv : Invoice) (todo : List Invoice) (floor : Int64) :
    Triple (Topping X (inv :: todo)) (BillRun.applyMinimumCharge now inv floor)
      (fun _ => Topping X todo) (fun _ => False) := by
  unfold BillRun.applyMinimumCharge
  dsimp only
  split
  · exact Triple.pure fun _ h => h.tail
  rename_i hcond
  simp only [Bool.or_eq_true, beq_iff_eq, bne_iff_ne, ne_eq, not_or, not_not] at hcond
  refine Triple.of_eq fun s₀ h₀ => Triple.get_bind ?_
  obtain ⟨u, hu, hui, hus, hua⟩ := h₀.templates inv List.mem_cons_self hcond.1.2 hcond.1.1
  split
  · rename_i hnone
    exact absurd (List.find?_eq_none.1 hnone u (mem_transactionsOfInvoice.2 ⟨hu, hui⟩))
      (by simp [hus, hua])
  rename_i template htemplate
  obtain ⟨ht, hK⟩ := mem_transactionsOfInvoice.1 (List.mem_of_find?_eq_some htemplate)
  have hX : template.billRunId = X := h₀.consistent.sound.invoice_billRun
    (hK ▸ h₀.consistent.sound.transaction_invoice_key ht) (h₀.keys inv List.mem_cons_self)
  refine Triple.bind ((Triple.forM (fun _ s => Topping X (inv :: todo) s ∧
      template ∈ s.transactions) fun side _ => Triple.of_eq fun s h => Triple.fresh_bind ?_).mono
    (fun _ e => by rw [e]; exact ⟨h₀, ht⟩) (fun _ _ h => h) fun _ h => h)
    fun _ => Triple.pure fun _ h => h.1.tail
  refine Triple.bind ((post_adjustment_returns now side.1 _ h.1.consistent h.1.generating h.2 hX
    hK).mono (fun _ h => h) (fun _ s' h' => ?_) fun _ h => h) fun _ => Triple.pure fun _ h => h
  have hkept : ∀ u ∈ s.transactions, u ∈ s'.transactions := fun u hu => by
    rw [h'.2.2.1]
    exact List.mem_append_left _ hu
  exact ⟨h.1.grow h'.1 h'.2.1 hkept h'.2.2.2, hkept _ h.2⟩

theorem applyMinimumCharges_returns (floor : Int64) (invs : List Invoice) :
    Triple (Topping X invs) (BillRun.applyMinimumCharges now floor invs)
      (fun _ => Topping X []) (fun _ => False) := by
  induction invs with
  | nil => exact Triple.pure fun _ h => h
  | cons inv rest ih =>
    rw [BillRun.applyMinimumCharges]
    exact Triple.bind (applyMinimumCharge_returns now inv rest floor) fun _ =>
      Triple.bind ih fun _ => Triple.pure fun _ h => h

/-- The block of a generation, run on a generating bill run of a consistent ledger whose copied
lines sit on copies, returns. -/
theorem summarise_returns (b : BillRun) (th : Thresholds) (hc : s₀.Consistent)
    (hcp : s₀.CopiesApart) (hg : s₀.statusOf b.id = some .generating) :
    Triple (· = s₀) (BillRun.summarise now b th) (fun _ _ => True) (fun _ => False) := by
  have hremove : Triple (· = s₀) (BillRun.removeAdjustments now b.id)
      (fun _ s => (s.Consistent ∧ s.CopiesApart ∧ s.statusOf b.id = some .generating) ∧
        ∀ t ∈ s.transactions, t.billRunId = b.id → t.raised = false) (fun _ => False) :=
    (((removeAdjustments_spec now hc hg).conj ((removeAdjustments_copiesApart now b.id).and
      (removeAdjustments_generating now b.id)).triple).conj
      (removeAdjustments_clears now b.id)).mono (fun _ e => ⟨⟨e, by rw [e]; exact ⟨hcp, hg⟩⟩, e⟩)
      (fun _ _ h => ⟨⟨h.1.1.1, h.1.2⟩, h.2⟩) fun _ h => h.1.1
  unfold BillRun.summarise
  refine Triple.bind hremove fun _ => ?_
  extract_lets jp
  have hjp : ∀ charged, Triple (fun s => s.statusOf b.id = some .generating) (jp charged)
      (fun _ _ => True) (fun _ => False) := by
    intro charged
    dsimp only [jp]
    have hflags : ∀ flagged : List (Invoice × InvoiceFlags),
        Triple (fun s => s.statusOf b.id = some .generating)
          (flagged.forM fun p => setFlags p.1.id p.2 now)
          (fun _ s => s.statusOf b.id = some .generating) (fun _ => False) := fun _ =>
      Triple.forM (fun _ s => s.statusOf b.id = some .generating) fun _ _ =>
        Triple.modify fun _ h => h
    refine Triple.of_eq fun s₁ h₁ => Triple.get_bind ?_
    refine Triple.bind ((hflags _).mono (fun _ e => by rw [e]; exact h₁) (fun _ _ h => h)
      fun _ h => h) fun _ => ?_
    exact Triple.bind (Q := fun ok _ => ok = true) (Triple.modifyGet fun _ hs =>
      guarded_takes hs (List.mem_singleton_self _)) fun _ =>
      Triple.require fun _ h => ⟨fun _ => trivial, fun hf => Bool.false_ne_true (hf.symm.trans h)⟩
  split
  · exact Triple.of_eq fun s h => Triple.get_bind (Triple.bind
      ((applyMinimumCharges_returns now _ _).mono
        (fun _ e => by rw [e]; exact Topping.start h.1.1 h.1.2.1 h.1.2.2 h.2)
        (fun _ _ h => h.generating) fun _ h => h) hjp)
  · exact Triple.bind (Triple.pure (Q := fun _ s => s.statusOf b.id = some .generating)
      fun _ h => h.1.2.2) hjp

/-! ## The faults of generating -/

/-- Generating fails only at its own checks: the bill run missing or unreadable, already
generating or generated, not initialised, or without lines. The block in between returns, so its
handler never runs. -/
theorem generate_raises (env : Env) (ref : BillRunRef) (hc : s₀.Consistent)
    (hcp : s₀.CopiesApart) :
    Raises (· = s₀) (BillRun.generate env ref) (fun _ _ => True)
      (fun e => e = .billRunNotFound ref.billRunId ∨ e = .unreadableTime ∨
        e = .alreadyGenerating ref.billRunId ∨ e = .alreadyGenerated ref.billRunId ∨
        e = .statusConflict ref.billRunId .initialised ∨ e = .noTransactions ref.billRunId) := by
  have hread : ∀ P, Raises P (billRunOf ref) (fun _ _ => True)
      (fun e => e = .billRunNotFound ref.billRunId ∨ e = .unreadableTime ∨
        e = .alreadyGenerating ref.billRunId ∨ e = .alreadyGenerated ref.billRunId ∨
        e = .statusConflict ref.billRunId .initialised ∨ e = .noTransactions ref.billRunId) :=
    fun _ => Raises.of_eq fun _ _ => (billRunOf_raises ref).mono (fun _ h => h)
      (fun _ _ _ => trivial) fun _ h => h.imp_right Or.inl
  unfold BillRun.generate
  refine Raises.bind ((billRunOf_raises ref).mono (fun _ h => h) (fun _ _ h => h)
    fun _ h => h.imp_right Or.inl) fun b => Raises.of_eq fun s h => ?_
  obtain ⟨e, hb⟩ := h
  subst s
  obtain ⟨hid, -⟩ := id_of_billRunIn? hb
  rw [hid]
  refine Raises.require_bind (fun _ => by simp) fun _ => ?_
  refine Raises.require_bind (fun _ => by simp) fun _ => ?_
  refine Raises.require_bind (fun _ => by simp) fun _ => ?_
  refine Raises.get_bind (Raises.require_bind (fun _ => by simp) fun _ => ?_)
  have htrans : Triple (· = s₀)
      (BillRun.transition env.now ref.billRunId .initialised .generating)
      (fun _ s => (s.Consistent ∧ s.CopiesApart) ∧ s.statusOf ref.billRunId = some .generating)
      (fun _ => True) :=
    (((transition_within env.now .initialised .generating :
      Keeps (Within ref.billRunId s₀) _).triple.conj
      (CopiesApart.inPlace.rewrites.transition env.now ref.billRunId _ _).triple).conj
      (transition_status env.now ref.billRunId .initialised .generating)).mono
      (fun _ e => by rw [e]; exact ⟨⟨Within.refl hc _, hcp⟩, trivial⟩)
      (fun _ _ h => ⟨⟨h.1.1.1, h.1.2⟩, h.2⟩) fun _ _ => trivial
  refine Raises.bind ((((transition_raises (P := fun _ => True) env.now ref.billRunId .initialised
    .generating).mono (fun _ h => h) (fun _ _ h => h) fun _ h => ?_).and_triple htrans).mono
      (fun _ e => ⟨trivial, e⟩) (fun _ _ h => h) fun _ h => h) fun _ => ?_
  · rcases h with h | h | h
    · exact Or.inl h
    · exact Or.inr (Or.inr (Or.inr (Or.inr (Or.inl h))))
    · exact Or.inr (Or.inl h)
  -- the block returns, so its handler never runs
  refine Raises.bind (Raises.of_triple (Triple.tryCatch (Triple.atomically fun s h =>
    (summarise_returns env.now b _ h.2.1.1 h.2.1.2 (hid ▸ h.2.2)).mono (fun _ h => h)
      (fun _ _ _ => trivial) fun _ h => h) fun _ => Triple.absurd _)) fun _ => hread _

end TopUp

end ChargeLedger
