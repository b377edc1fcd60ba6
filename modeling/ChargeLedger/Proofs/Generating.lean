import Mathlib.Algebra.Group.Pi.Lemmas
import Mathlib.Data.List.Nodup
import ChargeLedger.Proofs.Keeping
import ChargeLedger.Ledger.Generation

/-!
# Generation keeps the ledger consistent

Generating a bill run runs one all-or-nothing block, `BillRun.summarise`: it takes back the
minimum charge adjustments of an earlier generation, raises new ones, and stores each invoice's
flags and the bill run's summary. Taking the adjustments back moves the bill run's tally once,
then each invoice's and licence's adjustment by adjustment, and deletes the lines last; in
between, the rows are balanced up to the tally of the adjustments not yet reached
(`Store.Reversing`). A new adjustment is an ordinary posting (`post_spec`) onto an invoice that
a line of the same bill run already names. So the block leaves the ledger consistent when it
returns, and when it fails the store goes back to where it was.
-/

set_option autoImplicit false

namespace ChargeLedger

open Op

namespace Store

variable {s₀ s : Store} {X : Uuid} {stale rest : List Transaction} {t : Transaction}

theorem mem_raisedAdjustments :
    t ∈ s.raisedAdjustments X ↔ t ∈ s.transactions ∧ t.billRunId = X ∧
      t.minimumChargeAdjustment = true ∧ t.rebilledTransactionId = none := by
  simp [raisedAdjustments, and_assoc]

theorem contains_named {ts : List Transaction} (hnodup : (ts.map (·.id)).Nodup)
    (p : Transaction → Bool) (ht : t ∈ ts) : ((ts.filter p).map (·.id)).contains t.id = p t := by
  refine Bool.eq_iff_iff.2 ?_
  simp only [List.contains_iff_mem, List.mem_map, List.mem_filter]
  constructor
  · rintro ⟨u, ⟨hu, hpu⟩, e⟩
    rwa [← List.inj_on_of_nodup_map hnodup hu ht e]
  · exact fun hpt => ⟨t, ⟨ht, hpt⟩, rfl⟩

theorem filter_named {ts : List Transaction} (hnodup : (ts.map (·.id)).Nodup)
    (p : Transaction → Bool) :
    ts.filter (fun t => ((ts.filter p).map (·.id)).contains t.id) = ts.filter p :=
  List.filter_congr fun _ ht => contains_named hnodup p ht

theorem sum_map_neg_tally (ts : List Transaction) :
    Tally.sum (ts.map fun t => -t.tally) = -(ts.map Transaction.tally).sum := by
  rw [Tally.sum_eq, List.sum_neg, List.map_map]
  rfl

/-- Adjustments `stale` of bill run `X` taken back as far as `rest`: the bill run has moved by
the whole reversal, each invoice and licence by the adjustments already passed. -/
structure Reversing (s₀ : Store) (X : Uuid) (stale rest : List Transaction) (s : Store) :
    Prop where
  sound : s.Sound
  balanced : s.Balanced (Pi.single X (Tally.sum (stale.map fun t => -t.tally)))
    (tallyBy rest (·.invoiceId) - tallyBy stale (·.invoiceId))
    (tallyBy rest (·.licenceId) - tallyBy stale (·.licenceId))
  confined : Confined X s₀ s
  transactions : s.transactions = s₀.transactions
  issued : s₀.issued ≤ s.issued

theorem Reversing.start (hc : s₀.Consistent) {allowed : List Status} {now : Instant}
    (h : (s₀.guarded X allowed
      (BillRun.posted now (Tally.sum (stale.map fun t => -t.tally)))).1 = true) :
    Reversing s₀ X stale stale (s₀.guarded X allowed
      (BillRun.posted now (Tally.sum (stale.map fun t => -t.tally)))).2 := by
  have hu := Underway.start hc (fun _ => by exact ⟨rfl, rfl⟩) h
  exact ⟨hu.sound, hu.balanced.congr (fun _ _ => rfl) (fun _ _ => by simp) (fun _ _ => by simp),
    hu.confined, hu.transactions, hu.issued⟩

theorem Reversing.step (h : Reversing s₀ X stale (t :: rest) s) (now : Instant)
    (hs₀ : s₀.Sound) (ht : t ∈ s₀.transactions) (hX : t.billRunId = X) :
    Reversing s₀ X stale rest
      ((s.mapInvoice t.invoiceId fun i => { i with tally := i.tally + -t.tally, updatedAt := now })
        |>.mapLicence t.licenceId fun l => { l with tally := l.tally + -t.tally, updatedAt := now })
    where
  sound := (h.sound.mapInvoice (fun _ => by exact ⟨rfl, rfl⟩) _).mapLicence
    (fun _ => by exact ⟨rfl, rfl, rfl⟩) _
  balanced := by
    have passed : ∀ key : Transaction → Uuid,
        tallyBy (t :: rest) key - tallyBy stale key + Pi.single (key t) (-t.tally) =
          tallyBy rest key - tallyBy stale key := fun key => by
      rw [tallyBy_cons, Pi.single_neg]
      abel
    have hb := (h.balanced.mapInvoice t.invoiceId (δ := -t.tally)
      (g := fun i => { i with tally := i.tally + -t.tally, updatedAt := now }) fun _ => ⟨rfl, rfl⟩)
      |>.mapLicence t.licenceId (δ := -t.tally)
        (k := fun l => { l with tally := l.tally + -t.tally, updatedAt := now }) fun _ => ⟨rfl, rfl⟩
    rwa [passed (·.invoiceId), passed (·.licenceId)] at hb
  confined := h.confined.trans ((confined_mapInvoice (fun _ => by exact ⟨rfl, rfl⟩)
      (h.confined.invoice_on hs₀ (hX ▸ hs₀.transaction_invoice_key ht))).trans
    (confined_mapLicence (fun _ => by exact ⟨rfl, rfl, rfl⟩)
      (h.confined.licence_on hs₀ (hX ▸ hs₀.transaction_key ht))))
  transactions := h.transactions
  issued := h.issued

theorem Reversing.removed (h : Reversing s₀ X stale rest s) {p : Transaction → Bool}
    (hstale : stale = s₀.transactions.filter p) :
    s.transactions.filter (fun t => (stale.map (·.id)).contains t.id) = stale := by
  have hnodup : (s.transactions.map (·.id)).Nodup := by
    simpa [transactionKeys, Function.comp_def] using h.sound.transactions_nodup
  rw [hstale, ← h.transactions]
  exact filter_named hnodup p

theorem Reversing.finish (h : Reversing s₀ X stale [] s) {p : Transaction → Bool}
    (hstale : stale = s₀.transactions.filter p) (hX : ∀ t ∈ stale, t.billRunId = X) :
    Consistent
      { s with transactions := s.transactions.filter fun t => !(stale.map (·.id)).contains t.id } := by
  refine ⟨h.sound.deleteTransactions _, ?_⟩
  have hb := h.balanced.filterTransactions fun t => !(stale.map (·.id)).contains t.id
  simp only [Bool.not_not] at hb
  rw [h.removed hstale, tallyBy_of_forall hX, sum_map_neg_tally, ← Pi.single_add, neg_add_cancel,
    Pi.single_zero] at hb
  exact hb.congr (fun _ _ => rfl) (fun _ _ => by simp) (fun _ _ => by simp)

theorem Reversing.confined_finish (h : Reversing s₀ X stale rest s) {p : Transaction → Bool}
    (hstale : stale = s₀.transactions.filter p) (hX : ∀ t ∈ stale, t.billRunId = X) :
    Confined X s₀
      { s with transactions := s.transactions.filter fun t => !(stale.map (·.id)).contains t.id } :=
  h.confined.trans (confined_deleteTransactions fun t ht e => hX t (by
    rw [← h.removed hstale]
    exact List.mem_filter.2 ⟨ht, by simpa using e⟩))

end Store

open Store

variable {s₀ : Store} {X : Uuid}

theorem removeAdjustments_spec (now : Instant) (hc : s₀.Consistent)
    (hg : s₀.statusOf X = some .generating) :
    Triple (· = s₀) (BillRun.removeAdjustments now X)
      (fun _ s => s.Consistent ∧ Confined X s₀ s ∧ s₀.issued ≤ s.issued) (fun _ => False) := by
  unfold BillRun.removeAdjustments
  refine Triple.get_bind ?_
  dsimp only
  have hX : ∀ t ∈ s₀.raisedAdjustments X, t.billRunId = X := fun t ht =>
    (mem_raisedAdjustments.1 ht).2.1
  split
  · rw [addBillRunTally_eq]
    refine Triple.modifyGet_bind ?_
    obtain ⟨b, hb, hst⟩ := Option.map_eq_some_iff.1 hg
    have htake := congrArg Prod.fst
      (guarded_of_billRun? (f := BillRun.posted now
        (Tally.sum ((s₀.raisedAdjustments X).map fun t => -t.tally))) hb
        (show [Status.generating].contains b.status = true by simp [hst]))
    -- the loop runs over the adjustments still to take back, each a line of `X` in `s₀`
    refine Triple.bind ((Triple.forM (fun rest s => (∀ t ∈ rest, t ∈ s₀.raisedAdjustments X) ∧
        Reversing s₀ X (s₀.raisedAdjustments X) rest s) fun t rest => ?_).mono
      (fun s e => e ▸ ⟨fun _ h => h, Reversing.start hc htake⟩) (fun _ _ h => h) (fun _ h => h))
      fun _ => ?_
    · refine Triple.of_eq fun s h => ?_
      obtain ⟨ht, hXt, -⟩ := mem_raisedAdjustments.1 (h.1 t List.mem_cons_self)
      exact Triple.modifyGet_bind (Triple.modifyGet_bind (Triple.pure fun _ e =>
        e ▸ ⟨fun u hu => h.1 u (List.mem_cons_of_mem t hu), h.2.step now hc.sound ht hXt⟩))
    · exact Triple.modify fun s h =>
        ⟨h.2.finish rfl hX, h.2.confined_finish rfl hX, h.2.issued⟩
  · exact Triple.pure fun s e => by
      subst e
      exact ⟨hc, Confined.refl X _, Nat.le_refl _⟩

theorem applyMinimumCharge_within (now : Instant) (inv : Invoice) (floor : Int64)
    (hs₀ : s₀.Sound) (hI : (inv.id, X) ∈ s₀.invoiceKeys) :
    Preserves (Within X s₀) (BillRun.applyMinimumCharge now inv floor) := by
  intro n
  refine Triple.of_eq fun s₁ hs₁ => ?_
  unfold BillRun.applyMinimumCharge
  dsimp only
  split
  · exact Triple.pure fun _ e => e ▸ hs₁
  · refine Triple.get_bind ?_
    split
    · exact Triple.throw fun _ e => e ▸ hs₁.2
    · rename_i template htemplate
      obtain ⟨hmem, hinv⟩ := mem_transactionsOfInvoice.1 (List.mem_of_find?_eq_some htemplate)
      have hX : template.billRunId = X := hs₁.1.2.lines_on_invoice hs₀ hI _ hmem hinv
      have hkey : (inv.id, X) ∈ s₁.invoiceKeys :=
        hinv ▸ hX ▸ hs₁.1.1.sound.transaction_invoice_key hmem
      exact Triple.bind ((Preserves.forM fun side _ => fresh_post_within now
          (fun id => BillRun.adjustment id template side.1 (floor - side.2))
          { invoice := some inv.id, allowed := [.generating] } [(inv.id, X)] (fun _ => rfl)
          (fun _ => hX) fun I e => by cases e; exact List.mem_singleton_self _) n |>.mono
        (fun s e => e ▸ ⟨⟨hs₁.1, fun k hk => List.mem_singleton.1 hk ▸ hkey⟩, hs₁.2⟩)
        (fun _ _ h => h) fun _ h => h) fun _ => Triple.pure fun _ h => ⟨h.1.1, h.2⟩

theorem applyMinimumCharges_within (now : Instant) (floor : Int64) (hs₀ : s₀.Sound)
    (invs : List Invoice) (hI : ∀ i ∈ invs, (i.id, X) ∈ s₀.invoiceKeys) :
    Preserves (Within X s₀) (BillRun.applyMinimumCharges now floor invs) := by
  induction invs with
  | nil => exact .of_keeps (.pure _)
  | cons inv rest ih =>
    rw [BillRun.applyMinimumCharges]
    exact .bind (applyMinimumCharge_within now inv floor hs₀ (hI inv List.mem_cons_self))
      fun _ => .bind (ih fun i hi => hI i (List.mem_cons_of_mem inv hi)) fun _ => .of_keeps (.pure _)

theorem summarise_within (now : Instant) (b : BillRun) (th : Thresholds) (n : Nat) :
    Triple (fun s => (Within b.id s₀ s ∧ s.statusOf b.id = some .generating) ∧ n ≤ s.issued)
      (BillRun.summarise now b th) (fun _ s => Within b.id s₀ s ∧ n ≤ s.issued)
      (fun s => n ≤ s.issued) := by
  have hremove : Triple (fun s => (Within b.id s₀ s ∧ s.statusOf b.id = some .generating) ∧
      n ≤ s.issued) (BillRun.removeAdjustments now b.id)
      (fun _ s => Within b.id s₀ s ∧ n ≤ s.issued) (fun s => n ≤ s.issued) :=
    Triple.of_eq fun _ h => (removeAdjustments_spec now h.1.1.1 h.1.2).mono (fun _ e => e)
      (fun _ _ h' => ⟨⟨h'.1, h.1.1.2.trans h'.2.1⟩, Nat.le_trans h.2 h'.2.2⟩) fun _ h' => h'.elim
  unfold BillRun.summarise
  refine Triple.bind hremove fun _ => ?_
  extract_lets jp
  have hjp : ∀ s₁ charged, Keeps (Within b.id s₁) (jp charged) := fun _ _ =>
    Keeps.get_within fun s₂ hc => .bind (.forM fun p hp => ?_) fun _ =>
      .bind (setSummary_within _ _ _ _) fun _ => .require _ _
  · split
    · exact Preserves.get_within (fun s₁ hc => .bind (applyMinimumCharges_within _ _ hc.sound _
        fun _ => key_of_mem_invoicesOf) fun c => .of_keeps (hjp s₁ c)) n
    · exact Preserves.bind (.of_keeps (.pure _)) (fun c => .of_keeps (hjp s₀ c)) n
  · obtain ⟨inv, hinv, rfl⟩ := List.mem_map.1 hp
    exact setFlags_within hc.sound (key_of_mem_invoicesOf hinv) _ _

/-- Generating a bill run changes nothing but it, whether it returns or fails. -/
theorem generate_within (env : Env) (ref : BillRunRef) :
    Keeps (Within ref.billRunId s₀) (BillRun.generate env ref) := by
  refine Keeps.billRunOf_bind fun b hb => ?_
  rw [← hb]
  refine .bind (.require _ _) fun _ => .bind (.require _ _) fun _ => .bind (.require _ _) fun _ =>
    .bind .get fun _ => .bind (.require _ _) fun _ => ?_
  intro n
  have hstart := ((transition_within env.now .initialised .generating :
    Keeps (Within b.id s₀) _) n).conj
    (transition_status env.now b.id .initialised .generating)
  refine Triple.bind (hstart.mono (fun _ h => ⟨h, trivial⟩) (fun _ _ h => h) fun _ h => h.1)
    fun _ => ?_
  -- the block runs all or nothing; when it fails the bill run is put back to initialised
  refine Triple.bind (Triple.tryCatch ((Triple.atomically_of
    (summarise_within env.now b (env.thresholds.lookup ref.regimeSlug)) (fun _ h => h.1)
    (fun _ _ h hm => h.issue hm) n).mono (fun _ h => ⟨⟨h.1.1, h.2⟩, h.1.2⟩) (fun _ _ h => h)
      fun _ h => h)
    fun e => (Keeps.bind (setStatus_within _ _ _) fun _ => .throw e) n)
    fun _ => billRunOf_keeps ref n

theorem generate_keeps (env : Env) (ref : BillRunRef) :
    Keeps Consistent (BillRun.generate env ref) :=
  .of_within fun _ => generate_within env ref

end ChargeLedger
