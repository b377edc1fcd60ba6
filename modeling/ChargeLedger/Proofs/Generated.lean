import ChargeLedger.Proofs.Grouping

/-!
# What a generation leaves

A generation that returns leaves its bill run generated, and from the lines generation did not
raise it computes everything else exactly. Each primary invoice of a presroc bill run gets one
top-up per side whose value subject to the minimum charge, over those lines, lies strictly
between zero and the floor, worth the shortfall and on the licence of the invoice's earliest
subject line that is no adjustment; no other line is raised (`TopUpDue`). Every invoice's flags
are derived from its final tally, whether it was topped up and the de minimis limit, and the bill
run's summary is that of its flagged invoices. The lines generation did not raise stay as they
were, and the tallies are exact (`Store.Generated`).

The proof follows the block: taking back the old adjustments leaves exactly the other lines
(`removeAdjustments_lines`), so each invoice's tally is that of its lines generation did not
raise (`baseTally_of_taken_back`); the top-ups append what `TopsUp` says
(`applyMinimumCharges_appends`), side by side what `TopUpDue` says (`TopsUp.side`); the flags go
to every invoice (`setFlags_derived`), and the summary is read off the invoices as they are at
the end (`invoicesOf_congr`).
-/

set_option autoImplicit false

namespace ChargeLedger

open Op Store

/-! ## The statement -/

namespace Store

def baseTally (s : Store) (I : Uuid) : Tally :=
  tallyBy (s.transactions.filter fun t => !t.raised) (·.invoiceId) I

def topUps (s : Store) (I : Uuid) (credit : Bool) : List Transaction :=
  s.transactions.filter fun t => t.invoiceId == I && t.raised && t.chargeCredit == credit

end Store

/-- Generation owes invoice `inv` a top-up on one side when the bill run is presroc, the invoice
is primary and counts lines subject to the minimum charge, and the value subject to it on that
side, over the lines `base` sums, lies strictly between zero and the floor. -/
def TopUpDue (ruleset : Ruleset) (inv : Invoice) (base : Tally) (floor : Int64) (credit : Bool) :
    Prop :=
  ruleset = .presroc ∧ inv.kind = .primary ∧ base.subjectCount ≠ 0 ∧
    0 < base.subjectValue credit ∧ base.subjectValue credit < floor

namespace Store

/-- What generating bill run `X` of ruleset `ruleset` with thresholds `th`, started from `s`,
leaves in `s'`. -/
structure Generated (s : Store) (X : Uuid) (ruleset : Ruleset) (th : Thresholds) (s' : Store) :
    Prop where
  /-- Tallies are exact at every level. -/
  consistent : s'.Consistent
  /-- The lines generation did not raise are as they were. -/
  lines : s'.transactions.filter (fun t => !t.raised) = s.transactions.filter fun t => !t.raised
  /-- The bill run has the invoices it had, in their order. -/
  invoices : (s'.invoicesOf X).map Invoice.lineage = (s.invoicesOf X).map Invoice.lineage
  /-- One top-up per side owed, worth the shortfall, on the licence of the earliest subject
  line; none on a side not owed. -/
  topUps : ∀ inv ∈ s'.invoicesOf X, ∀ credit,
    (TopUpDue ruleset inv (s.baseTally inv.id) th.minimumCharge credit →
      ∃ u, s.EarliestSubjectLine inv.id u ∧
        (s'.topUps inv.id credit).map (fun t => (t.chargeValue, t.licenceId)) =
          [(th.minimumCharge - (s.baseTally inv.id).subjectValue credit, u.licenceId)]) ∧
    (¬TopUpDue ruleset inv (s.baseTally inv.id) th.minimumCharge credit →
      s'.topUps inv.id credit = [])
  /-- Flags from the final tally, whether the invoice was topped up, and the de minimis limit. -/
  flags : ∀ inv ∈ s'.invoicesOf X, inv.flags = InvoiceFlags.derive inv.tally
    (!(s'.topUps inv.id false ++ s'.topUps inv.id true).isEmpty) th.deminimisLimit
  /-- The bill run generated, with the summary of its flagged invoices. -/
  summary : ∀ b ∈ s'.billRuns, b.id = X → b.status = .generated ∧
    b.summary = Summary.ofInvoices ((s'.invoicesOf X).map fun i => (i.flags.summarised, i.tally))

end Store

/-! ## Taking the old adjustments back -/

section Removal

variable {s₀ : Store}

/-- Taking back the adjustments generation raised on `X` deletes exactly them, and moves the
invoices only in place. -/
theorem removeAdjustments_lines (now : Instant) (X : Uuid) (hs : s₀.Sound) :
    Triple (· = s₀) (BillRun.removeAdjustments now X)
      (fun _ s => s.transactions = s₀.transactions.filter (fun t => !(t.billRunId == X && t.raised)) ∧
        SameInvoices s₀ s)
      (fun _ => True) := by
  have hnodup : (s₀.transactions.map (·.id)).Nodup := by
    simpa [transactionKeys, Function.comp_def] using hs.transactions_nodup
  have hstale : s₀.raisedAdjustments X = s₀.transactions.filter fun t => t.billRunId == X && t.raised := by
    simp only [raisedAdjustments, Transaction.raised, Bool.and_assoc]
  unfold BillRun.removeAdjustments
  refine Triple.get_bind ?_
  dsimp only
  split
  · -- the tallies move in place; the lines change only when the adjustments are deleted
    have hJ := (InPlace.lines s₀.transactions).and (SameInvoices.inPlace s₀)
    have hlic : ∀ L δ, Keeps (fun s => s.transactions = s₀.transactions ∧ SameInvoices s₀ s)
        (addLicenceTally L δ now) := fun _ _ => .modifyGet fun _ h => ⟨h, Nat.le_refl _⟩
    refine Triple.bind (Q := fun _ s => s.transactions = s₀.transactions ∧ SameInvoices s₀ s)
      ((hJ.rewrites.addBillRunTally _ _ _ _).triple.mono
        (fun s (e : s = s₀) => by rw [e]; exact ⟨rfl, SameInvoices.refl _⟩)
        (fun _ _ h => h) fun _ _ => trivial) fun _ => ?_
    refine Triple.bind (Q := fun _ s => s.transactions = s₀.transactions ∧ SameInvoices s₀ s)
      ((Keeps.forM fun _ _ => .bind (hJ.rewrites.addInvoiceTally _ _ _) fun _ =>
        .bind (hlic _ _) fun _ => .pure ()).triple.mono (fun _ h => h) (fun _ _ h => h)
        fun _ _ => trivial) fun _ => Triple.modify fun s hs' => ⟨?_, hs'.2⟩
    rw [hs'.1, hstale]
    exact List.filter_congr fun _ ht => by rw [contains_named hnodup _ ht]
  · rename_i hempty
    refine Triple.pure fun s e => ?_
    subst s
    refine ⟨(List.filter_eq_self.2 fun t ht => ?_).symm, SameInvoices.refl _⟩
    have hnil : s₀.raisedAdjustments X = [] := by simpa using hempty
    rw [hstale, List.filter_eq_nil_iff] at hnil
    simpa [imp_iff_not_or] using hnil t ht

/-- With the adjustments of `X` taken back, an invoice of `X` carries the tally of its lines that
generation did not raise. -/
theorem baseTally_of_taken_back {s₁ s₂ : Store} {X : Uuid} (hc : s₂.Consistent)
    (hlines : s₂.transactions = s₁.transactions.filter fun t => !(t.billRunId == X && t.raised))
    {inv : Invoice} (hinv : inv ∈ s₂.invoices) (hX : (inv.id, X) ∈ s₂.invoiceKeys) :
    inv.tally = s₁.baseTally inv.id := by
  rw [Exact.invoice_tally hc.exact hinv, hlines, baseTally, tallyBy, tallyBy, List.filter_filter,
    List.filter_filter]
  congr 2
  refine List.filter_congr fun t ht => ?_
  by_cases hI : t.invoiceId = inv.id
  · -- a line of the invoice lies on its bill run, once it is left
    by_cases htX : t.billRunId = X
    · simp [hI, htX]
    · have hleft : t ∈ s₂.transactions := by
        rw [hlines]
        exact List.mem_filter.2 ⟨ht, by simp [htX]⟩
      exact absurd (hc.sound.invoice_billRun (hI ▸ hc.sound.transaction_invoice_key hleft) hX) htX
  · have hne : (t.invoiceId == inv.id) = false := by simpa using hI
    simp [hne]

end Removal

/-! ## Side by side -/

/-- Side by side, topping an invoice up appends one line worth the shortfall on a side owed, on
the licence of the earliest subject line, and nothing on a side not owed. -/
theorem TopsUp.side {s : Store} {inv : Invoice} {floor : Int64} {news : List Transaction}
    (h : TopsUp s inv floor news) (credit : Bool) :
    (TopUpDue .presroc inv inv.tally floor credit → ∃ u, s.EarliestSubjectLine inv.id u ∧
      (news.filter (·.chargeCredit == credit)).map (fun t => (t.chargeValue, t.licenceId)) =
        [(floor - inv.tally.subjectValue credit, u.licenceId)]) ∧
    (¬TopUpDue .presroc inv inv.tally floor credit →
      news.filter (·.chargeCredit == credit) = []) := by
  unfold TopsUp at h
  split at h
  · rename_i hcond
    obtain ⟨u, hu, hmap⟩ := h
    have hside : (news.filter (·.chargeCredit == credit)).map (fun t => (t.chargeValue, t.licenceId)) =
        ((BillRun.sidesBelow inv floor).filter (·.1 == credit)).map
          fun side => (floor - side.2, u.licenceId) := by
      have hview := congrArg (List.filter fun v : Uuid × Uuid × Bool × Bool × Int64 => v.2.2.2.1 == credit) hmap
      rw [List.filter_map, List.filter_map] at hview
      have := congrArg (List.map fun v : Uuid × Uuid × Bool × Bool × Int64 => (v.2.2.2.2, v.2.1)) hview
      rw [List.map_map, List.map_map] at this
      exact this
    rw [sidesBelow_side] at hside
    refine ⟨fun hdue => ⟨u, hu, ?_⟩, fun hdue => ?_⟩
    · rw [hside, if_pos ⟨hdue.2.2.2.1, hdue.2.2.2.2⟩]
      rfl
    · have hbelow : ¬(0 < inv.tally.subjectValue credit ∧ inv.tally.subjectValue credit < floor) :=
        fun hv => hdue ⟨rfl, hcond.2.1, hcond.1, hv⟩
      rw [if_neg hbelow, List.map_nil, List.map_eq_nil_iff] at hside
      exact hside
  · rename_i hcond
    subst h
    refine ⟨fun hdue => absurd ⟨hdue.2.2.1, hdue.2.1, ?_⟩ hcond, fun _ => rfl⟩
    have hmem := sidesBelow_side inv floor credit
    rw [if_pos ⟨hdue.2.2.2.1, hdue.2.2.2.2⟩] at hmem
    exact fun hnil => by simp [hnil] at hmem

/-! ## The invoices of a bill run -/

/-- The invoices of a bill run, seen through what each is and anything else, depend only on the
ledger's invoices so seen. -/
theorem invoicesOf_congr {γ : Type} (e : Invoice → γ) {s s' : Store}
    (h : s'.invoices.map (fun i => (i.lineage, e i)) = s.invoices.map fun i => (i.lineage, e i))
    (X : Uuid) :
    (s'.invoicesOf X).map (fun i => (i.lineage, e i)) =
      (s.invoicesOf X).map fun i => (i.lineage, e i) := by
  -- sorting and filtering read only the lineage, so they commute with the view
  have hsort : ∀ l : List Invoice, (sortBy invoiceOrder (l.filter (·.billRunId == X))).map
      (fun i => (i.lineage, e i)) = ((l.map fun i => (i.lineage, e i)).filter
        (fun v => v.1.2.1 == X)).mergeSort fun v w =>
          ((compare v.1.2.2.1 w.1.2.2.1).then ((compare v.1.2.2.2.1 w.1.2.2.2.1).then
            (compare v.1.2.2.2.2.1.letter w.1.2.2.2.2.1.letter))) != .gt := fun l => by
    rw [sortBy, List.filter_map]
    exact List.map_mergeSort fun _ _ _ _ => rfl
  exact (hsort s'.invoices).trans (h ▸ (hsort s.invoices).symm)

/-! ## Flags -/

theorem tally_eq_of_views {s₀ s : Store} (hs : s₀.Sound)
    (h : s.invoices.map (fun i => (i.lineage, i.tally)) =
      s₀.invoices.map fun i => (i.lineage, i.tally))
    {i j : Invoice} (hi : i ∈ s.invoices) (hj : j ∈ s₀.invoices) (e : i.id = j.id) :
    i.tally = j.tally := by
  obtain ⟨j', hj', e'⟩ := List.mem_map.1 (h ▸ List.mem_map_of_mem hi)
  simp only [Prod.mk.injEq] at e'
  rw [← e'.2, hs.invoice_eq hj' hj ((congrArg Prod.fst e'.1).trans e)]

/-- Storing the flags of every invoice of `X`, each derived from its tally, whether it was topped
up and the de minimis limit, leaves every invoice of `X` so flagged and moves nothing else. -/
theorem setFlags_derived (now : Instant) (X : Uuid) (charged : List Uuid) (limit : Int64)
    {s₀ : Store} (hc : s₀.Consistent) :
    Triple (· = s₀)
      (((s₀.invoicesOf X).map fun inv =>
        (inv, InvoiceFlags.derive inv.tally (charged.contains inv.id) limit)).forM
          fun p => setFlags p.1.id p.2 now)
      (fun _ s => (s.Consistent ∧ s.billRuns = s₀.billRuns ∧ s.transactions = s₀.transactions ∧
        s.invoices.map (fun i => (i.lineage, i.tally)) =
          s₀.invoices.map fun i => (i.lineage, i.tally)) ∧
        ∀ i ∈ s.invoices, i.billRunId = X →
          i.flags = InvoiceFlags.derive i.tally (charged.contains i.id) limit)
      (fun _ => True) := by
  -- the invoices still to flag: invoices of the start, each with the flags it is to get
  refine (Triple.forM (E := fun _ => True) (fun rest s => (s.Consistent ∧ s.billRuns = s₀.billRuns ∧
      s.transactions = s₀.transactions ∧ s.invoices.map (fun i => (i.lineage, i.tally)) =
        s₀.invoices.map fun i => (i.lineage, i.tally)) ∧
      (∀ p ∈ rest, p.1 ∈ s₀.invoices ∧
        p.2 = InvoiceFlags.derive p.1.tally (charged.contains p.1.id) limit) ∧
      ∀ i ∈ s.invoices, i.billRunId = X → i.id ∉ rest.map (·.1.id) →
        i.flags = InvoiceFlags.derive i.tally (charged.contains i.id) limit)
    fun p rest => ?_).mono (fun s e => ?_) (fun _ _ h => ⟨h.1, fun i hi hX => h.2.2 i hi hX
      List.not_mem_nil⟩) fun _ _ => trivial
  · refine Triple.modify fun s h => ?_
    obtain ⟨⟨hcs, hb, ht, hv⟩, hrest, hflags⟩ := h
    obtain ⟨hp₀, hp⟩ := hrest p List.mem_cons_self
    refine ⟨⟨hcs.mapInvoice _ fun _ => ⟨rfl, rfl, rfl⟩, hb, ht, ?_⟩,
      fun q hq => hrest q (List.mem_cons_of_mem p hq), fun i' hi' hX hnot => ?_⟩
    · rw [← hv]
      unfold mapInvoice
      rw [List.map_map]
      refine List.map_congr_left fun i _ => ?_
      simp only [Function.comp_apply]
      split <;> rfl
    · obtain ⟨i, hi, rfl⟩ := List.mem_map.1 hi'
      by_cases hid : i.id = p.1.id
      · -- the invoice flagged now takes the flags derived from its tally
        simp only [hid, beq_self_eq_true, if_true] at hX ⊢
        rw [hp, tally_eq_of_views hc.sound hv hi hp₀ hid]
      · have hne : (i.id == p.1.id) = false := by simpa using hid
        simp only [hne, Bool.false_eq_true, if_false] at hX hnot ⊢
        refine hflags i hi hX fun hm => ?_
        rcases List.mem_cons.1 (List.map_cons ▸ hm) with e | hm
        · exact hid e
        · exact hnot hm
  · subst s
    refine ⟨⟨hc, rfl, rfl, rfl⟩, fun p hp => ?_, fun i hi hX hnot => ?_⟩
    · obtain ⟨inv, hinv, rfl⟩ := List.mem_map.1 hp
      exact ⟨(mem_invoicesOf.1 hinv).1, rfl⟩
    · refine absurd ?_ hnot
      rw [List.map_map]
      exact List.mem_map.2 ⟨i, mem_invoicesOf.2 ⟨hi, hX⟩, rfl⟩

theorem SameInvoices.invoicesOf {s₀ s : Store} (h : SameInvoices s₀ s) (X : Uuid) :
    (s.invoicesOf X).map Invoice.lineage = (s₀.invoicesOf X).map Invoice.lineage := by
  have hv : s.invoices.map (fun i => (i.lineage, ())) = s₀.invoices.map fun i => (i.lineage, ()) := by
    have := congrArg (List.map fun l => (l, ())) h
    rw [List.map_map, List.map_map] at this
    exact this
  have := congrArg (List.map Prod.fst) (invoicesOf_congr (fun _ => ()) hv X)
  rw [List.map_map, List.map_map] at this
  exact this

theorem SameInvoices.exists_lineage {s₀ s : Store} (h : SameInvoices s₀ s) {X : Uuid}
    {inv : Invoice} (hinv : inv ∈ s.invoicesOf X) : ∃ i ∈ s₀.invoicesOf X, i.lineage = inv.lineage :=
  List.mem_map.1 (SameInvoices.invoicesOf h X ▸ List.mem_map_of_mem hinv)

theorem isEmpty_sides (ts : List Transaction) :
    (ts.filter (·.chargeCredit == false) ++ ts.filter (·.chargeCredit == true)).isEmpty =
      ts.isEmpty := by
  cases ts with
  | nil => rfl
  | cons t ts => cases hc : t.chargeCredit <;> simp [hc]

theorem summary_of_flagged {s₀ s : Store} {X : Uuid} {charged : List Uuid} {limit : Int64}
    (hv : s.invoices.map (fun i => (i.lineage, i.tally)) =
      s₀.invoices.map fun i => (i.lineage, i.tally))
    (hflags : ∀ i ∈ s.invoicesOf X,
      i.flags = InvoiceFlags.derive i.tally (charged.contains i.id) limit) :
    ((s₀.invoicesOf X).map fun inv =>
        (inv, InvoiceFlags.derive inv.tally (charged.contains inv.id) limit)).map
          (fun p => (p.2.summarised, p.1.tally)) =
      (s.invoicesOf X).map fun i => (i.flags.summarised, i.tally) := by
  have hview := congrArg (List.map fun v =>
    ((InvoiceFlags.derive v.2 (charged.contains v.1.1) limit).summarised, v.2))
      (invoicesOf_congr Invoice.tally hv X)
  rw [List.map_map, List.map_map] at hview
  calc _ = (s₀.invoicesOf X).map fun i =>
        ((InvoiceFlags.derive i.tally (charged.contains i.id) limit).summarised, i.tally) := by
          rw [List.map_map]; rfl
    _ = (s.invoicesOf X).map fun i =>
        ((InvoiceFlags.derive i.tally (charged.contains i.id) limit).summarised, i.tally) :=
          hview.symm
    _ = _ := List.map_congr_left fun i hi => by rw [hflags i hi]

/-! ## The block -/

namespace Store

/-- The block of a generation up to the flags: from `s₁`, the adjustments of `X` taken back into
`s₂`, then the lines `added` appended into `s₃`, each invoice of `X` topped up side by side as
owed against `s₂`, and `charged` the invoices topped up. -/
structure ToppedUp (s₁ : Store) (X : Uuid) (ruleset : Ruleset) (floor : Int64) (s₂ s₃ : Store)
    (added : List Transaction) (charged : List Uuid) : Prop where
  taken : s₂.transactions = s₁.transactions.filter fun t => !(t.billRunId == X && t.raised)
  consistent : s₂.Consistent
  sameTaken : SameInvoices s₁ s₂
  topping : ToppingUp X s₃
  sameTopped : SameInvoices s₂ s₃
  appended : s₃.transactions = s₂.transactions ++ added
  raised : ∀ t ∈ added, t.raised = true
  charged : ∀ I, I ∈ charged ↔ ∃ t ∈ added, t.invoiceId = I
  owed : ∀ inv ∈ s₂.invoicesOf X, ∀ credit,
    (TopUpDue ruleset inv inv.tally floor credit → ∃ u, s₂.EarliestSubjectLine inv.id u ∧
      ((added.filter (·.invoiceId == inv.id)).filter (·.chargeCredit == credit)).map
        (fun t => (t.chargeValue, t.licenceId)) = [(floor - inv.tally.subjectValue credit, u.licenceId)]) ∧
    (¬TopUpDue ruleset inv inv.tally floor credit →
      (added.filter (·.invoiceId == inv.id)).filter (·.chargeCredit == credit) = [])

variable {s₁ s₂ s₃ s : Store} {X : Uuid} {ruleset : Ruleset} {floor : Int64}
  {added : List Transaction} {charged : List Uuid}

theorem ToppedUp.topUps_eq (h : ToppedUp s₁ X ruleset floor s₂ s₃ added charged)
    (hs : s.transactions = s₃.transactions) {I : Uuid} (hI : (I, X) ∈ s₂.invoiceKeys)
    (credit : Bool) :
    s.topUps I credit = (added.filter (·.invoiceId == I)).filter (·.chargeCredit == credit) := by
  rw [Store.topUps, hs, h.appended, List.filter_append, List.filter_filter]
  rw [List.filter_eq_nil_iff.2 fun t ht => ?_, List.nil_append]
  · refine List.filter_congr fun t ht => ?_
    simp [h.raised t ht, Bool.and_comm]
  · have hkept := ht
    rw [h.taken] at ht
    obtain ⟨-, hq⟩ := List.mem_filter.1 ht
    by_cases htI : t.invoiceId = I
    · have htX : t.billRunId = X :=
        h.consistent.sound.invoice_billRun (htI ▸ h.consistent.sound.transaction_invoice_key hkept) hI
      simp_all
    · simp [htI]

theorem ToppedUp.earliest (h : ToppedUp s₁ X ruleset floor s₂ s₃ added charged) {I : Uuid}
    {u : Transaction} (hu : s₂.EarliestSubjectLine I u) : s₁.EarliestSubjectLine I u :=
  hu.congr fun t ht => by
    rw [h.taken, List.mem_filter]
    simp [Transaction.raised, ht]

theorem ToppedUp.lines (h : ToppedUp s₁ X ruleset floor s₂ s₃ added charged)
    (hs : s.transactions = s₃.transactions) :
    s.transactions.filter (fun t => !t.raised) = s₁.transactions.filter fun t => !t.raised := by
  have hnone : added.filter (fun t => !t.raised) = [] :=
    List.filter_eq_nil_iff.2 fun t ht => by simp [h.raised t ht]
  rw [hs, h.appended, h.taken, List.filter_append, hnone, List.append_nil, List.filter_filter]
  refine List.filter_congr fun t _ => ?_
  cases t.raised <;> simp

theorem ToppedUp.sides (h : ToppedUp s₁ X ruleset floor s₂ s₃ added charged)
    (hs : s.transactions = s₃.transactions) (hsame : SameInvoices s₂ s) {inv : Invoice}
    (hinv : inv ∈ s.invoicesOf X) (credit : Bool) :
    (TopUpDue ruleset inv (s₁.baseTally inv.id) floor credit → ∃ u, s₁.EarliestSubjectLine inv.id u ∧
      (s.topUps inv.id credit).map (fun t => (t.chargeValue, t.licenceId)) =
        [(floor - (s₁.baseTally inv.id).subjectValue credit, u.licenceId)]) ∧
    (¬TopUpDue ruleset inv (s₁.baseTally inv.id) floor credit → s.topUps inv.id credit = []) := by
  obtain ⟨i, hi, e⟩ := SameInvoices.exists_lineage hsame hinv
  obtain ⟨hid, -, -, -, hkind, -⟩ := Invoice.lineage_eq e
  have hbase : i.tally = s₁.baseTally i.id :=
    baseTally_of_taken_back h.consistent h.taken (mem_invoicesOf.1 hi).1 (key_of_mem_invoicesOf hi)
  have hdue : TopUpDue ruleset inv i.tally floor credit ↔ TopUpDue ruleset i i.tally floor credit := by
    simp only [TopUpDue, hkind]
  rw [← hid, ← hbase, hdue, h.topUps_eq hs (key_of_mem_invoicesOf hi)]
  obtain ⟨howed, hnone⟩ := h.owed i hi credit
  exact ⟨fun hd => (howed hd).imp fun _ hu => ⟨h.earliest hu.1, hu.2⟩, hnone⟩

theorem ToppedUp.contains_charged (h : ToppedUp s₁ X ruleset floor s₂ s₃ added charged)
    (hs : s.transactions = s₃.transactions) (hsame : SameInvoices s₂ s) {inv : Invoice}
    (hinv : inv ∈ s.invoicesOf X) :
    charged.contains inv.id = !(s.topUps inv.id false ++ s.topUps inv.id true).isEmpty := by
  obtain ⟨i, hi, e⟩ := SameInvoices.exists_lineage hsame hinv
  have hkey : (inv.id, X) ∈ s₂.invoiceKeys := (Invoice.lineage_eq e).1 ▸ key_of_mem_invoicesOf hi
  rw [h.topUps_eq hs hkey, h.topUps_eq hs hkey, isEmpty_sides]
  refine Bool.eq_iff_iff.2 ?_
  simp [h.charged, List.filter_eq_nil_iff]

theorem ToppedUp.generated {th : Thresholds}
    (h : ToppedUp s₁ X ruleset th.minimumCharge s₂ s₃ added charged) (hc : s.Consistent)
    (hs : s.transactions = s₃.transactions) (hsame : SameInvoices s₃ s)
    (hflags : ∀ i ∈ s.invoicesOf X,
      i.flags = InvoiceFlags.derive i.tally (charged.contains i.id) th.deminimisLimit)
    (hsummary : ∀ b ∈ s.billRuns, b.id = X → b.status = .generated ∧
      b.summary = Summary.ofInvoices ((s.invoicesOf X).map fun i => (i.flags.summarised, i.tally))) :
    Generated s₁ X ruleset th s where
  consistent := hc
  lines := h.lines hs
  invoices := SameInvoices.invoicesOf (h.sameTaken.trans (h.sameTopped.trans hsame)) X
  topUps _ hinv credit := h.sides hs (h.sameTopped.trans hsame) hinv credit
  flags inv hinv := by rw [hflags inv hinv, h.contains_charged hs (h.sameTopped.trans hsame) hinv]
  summary := hsummary

end Store

theorem flagged_generated (now : Instant) (b : BillRun) (th : Thresholds) {s₁ s₂ s₃ : Store}
    {added : List Transaction} {charged : List Uuid}
    (h : ToppedUp s₁ b.id b.ruleset th.minimumCharge s₂ s₃ added charged) :
    Triple (· = s₃)
      (do
        let flagged := ((← get).invoicesOf b.id).map fun inv =>
          (inv, InvoiceFlags.derive inv.tally (charged.contains inv.id) th.deminimisLimit)
        flagged.forM fun p => Store.setFlags p.1.id p.2 now
        let summary := Summary.ofInvoices (flagged.map fun p => (p.2.summarised, p.1.tally))
        Op.require (← Store.setSummary b.id summary .generating .generated now)
          (.statusConflict b.id .generating))
      (fun _ s => Generated s₁ b.id b.ruleset th s) (fun _ => True) := by
  refine Triple.get_bind ?_
  refine Triple.bind (setFlags_derived now b.id charged th.deminimisLimit h.topping.consistent)
    fun _ => Triple.of_eq fun s₄ h₄ => ?_
  obtain ⟨⟨hc₄, -, ht₄, hv₄⟩, hflags₄⟩ := h₄
  have hsame₄ : SameInvoices s₃ s₄ := by
    have := congrArg (List.map Prod.fst) hv₄
    rw [List.map_map, List.map_map] at this
    exact this
  have hflagged : ∀ i ∈ s₄.invoicesOf b.id,
      i.flags = InvoiceFlags.derive i.tally (charged.contains i.id) th.deminimisLimit :=
    fun i hi => hflags₄ i (mem_invoicesOf.1 hi).1 (mem_invoicesOf.1 hi).2
  -- the summary is stored only while the bill run is generating; the refusal is a fault
  refine Triple.bind (Q := fun ok s => ok = true → Generated s₁ b.id b.ruleset th s)
    (Triple.modifyGet fun s e hok => ?_) fun ok =>
      Triple.require fun _ hok => ⟨hok, fun _ => trivial⟩
  subst s
  obtain ⟨e₅, -⟩ := guarded_true hok
  refine h.generated (hc₄.guarded fun _ => ⟨rfl, rfl⟩) ?_ ?_ ?_ ?_ <;> rw [e₅]
  · exact ht₄
  · exact hsame₄
  · exact hflagged
  · intro b' hb' hid
    obtain ⟨b₀, -, rfl⟩ := List.mem_map.1 hb'
    by_cases h₀ : b₀.id = b.id
    · simp only [h₀, beq_self_eq_true, if_true]
      exact ⟨trivial, congrArg Summary.ofInvoices (summary_of_flagged hv₄ hflagged)⟩
    · have hne : (b₀.id == b.id) = false := by simpa using h₀
      simp [hne, h₀] at hid


theorem Store.Sound.invoicesOf_nodup {s : Store} (hs : s.Sound) (X : Uuid) :
    ((s.invoicesOf X).map (·.id)).Nodup := by
  have h := hs.invoiceIds_nodup
  exact ((sortBy_perm _ _).map _).nodup_iff.2 (h.sublist (List.filter_sublist.map _))

theorem summarise_generated (now : Instant) (b : BillRun) (th : Thresholds) {s₁ : Store}
    (h₁ : ToppingUp b.id s₁) :
    Triple (· = s₁) (BillRun.summarise now b th)
      (fun _ s => Generated s₁ b.id b.ruleset th s) (fun _ => True) := by
  have hremove : Triple (· = s₁) (BillRun.removeAdjustments now b.id)
      (fun _ s₂ => ToppingUp b.id s₂ ∧
        s₂.transactions = s₁.transactions.filter (fun t => !(t.billRunId == b.id && t.raised)) ∧
        SameInvoices s₁ s₂)
      (fun _ => True) :=
    (((removeAdjustments_spec now h₁.consistent h₁.generating).conj
      ((removeAdjustments_coherent now b.id).and (removeAdjustments_generating now b.id)).triple).conj
        (removeAdjustments_lines now b.id h₁.consistent.sound)).mono
      (fun _ e => ⟨⟨e, e ▸ h₁.coherent, e ▸ h₁.generating⟩, e⟩)
      (fun _ _ h => ⟨⟨h.1.1.1, h.1.2.1, h.1.2.2⟩, h.2⟩) fun _ _ => trivial
  unfold BillRun.summarise
  extract_lets jp
  refine Triple.bind hremove fun _ => Triple.of_eq fun s₂ h => ?_
  obtain ⟨h₂, htaken, hsame₂⟩ := h
  split
  · -- presroc: every invoice of the bill run is topped up as owed
    rename_i hpresroc
    have hr : b.ruleset = .presroc := by simpa using hpresroc
    refine Triple.get_bind (Triple.bind (applyMinimumCharges_appends now th.minimumCharge _ h₂
      (fun _ hinv => key_of_mem_invoicesOf hinv) (h₂.consistent.sound.invoicesOf_nodup b.id))
        fun charged => Triple.of_eq fun s₃ h => ?_)
    obtain ⟨added, happ, htops, hadded, hcharged, h₃, hsame₃⟩ := h
    refine flagged_generated now b th ⟨htaken, h₂.consistent, hsame₂, h₃, hsame₃, happ,
      fun t ht => (hadded t ht).1, hcharged, fun inv hinv credit => ?_⟩
    rw [hr]
    exact (htops inv hinv).side credit
  · -- otherwise nothing is topped up
    rename_i hother
    refine Triple.bind (Triple.pure (Q := fun c s => c = [] ∧ s = s₂) fun _ e => ⟨rfl, e⟩)
      fun c => Triple.of_eq fun s h => ?_
    obtain ⟨rfl, rfl⟩ := h
    refine flagged_generated now b th ⟨htaken, h₂.consistent, hsame₂, h₂, SameInvoices.refl _,
      (List.append_nil _).symm, fun _ h => absurd h List.not_mem_nil, fun _ => by simp,
      fun _ _ _ => ⟨fun hdue => absurd (by rw [hdue.1]; rfl) hother, fun _ => rfl⟩⟩

theorem Store.Generated.of_rows {s₁ s s' : Store} {X : Uuid} {ruleset : Ruleset} {th : Thresholds}
    (h : Generated s₁ X ruleset th s') (ht : s₁.transactions = s.transactions)
    (hi : s₁.invoices = s.invoices) : Generated s X ruleset th s' := by
  have hbase : s₁.baseTally = s.baseTally := by
    funext I
    simp only [baseTally, ht]
  have hearliest : s₁.EarliestSubjectLine = s.EarliestSubjectLine := by
    funext I u
    simp only [EarliestSubjectLine, ht]
  have hinv : s₁.invoicesOf X = s.invoicesOf X := by simp only [invoicesOf, hi]
  obtain ⟨hc, hlines, hinvs, htops, hflags, hsummary⟩ := h
  refine ⟨hc, hlines.trans (by rw [ht]), hinvs.trans (by rw [hinv]), ?_, hflags, hsummary⟩
  rw [← hbase, ← hearliest]
  exact htops

theorem transition_rows (now : Instant) (X : Uuid) (source target : Status) {s₀ : Store} :
    Triple (· = s₀) (BillRun.transition now X source target)
      (fun _ s => s.transactions = s₀.transactions ∧ s.invoices = s₀.invoices) (fun _ => True) := by
  refine Triple.modifyGet_bind ?_
  cases hg : (s₀.guarded X [source] fun b => { b with status := target, updatedAt := now }).1
  · exact (conflict_fails X source).mono (fun _ h => h) (fun _ _ h => h.elim) fun _ _ => trivial
  · rw [(guarded_true hg).1]
    exact Triple.pure fun _ e => e ▸ ⟨rfl, rfl⟩

theorem generate_generated (env : Env) (ref : BillRunRef) {s₀ : Store} (hc : s₀.Consistent)
    (hco : s₀.Coherent) :
    Triple (· = s₀) (BillRun.generate env ref)
      (fun b' s => ∃ b, s₀.billRunIn? ref.regimeId ref.billRunId = some b ∧
        s.billRunIn? ref.regimeId ref.billRunId = some b' ∧
        Generated s₀ b.id b.ruleset (env.thresholds.lookup ref.regimeSlug) s)
      (fun _ => True) := by
  unfold BillRun.generate
  refine Triple.bind ((billRunOf_found ref).mono (fun _ h => h) (fun _ _ h => h) fun _ _ => trivial)
    fun b => Triple.of_eq fun s h => ?_
  obtain ⟨e, hb⟩ := h
  subst s
  repeat refine Triple.require_bind (fun _ _ _ => trivial) fun _ => ?_
  refine Triple.get_bind (Triple.require_bind (fun _ _ _ => trivial) fun _ => ?_)
  have htrans : Triple (· = s₀) (BillRun.transition env.now b.id .initialised .generating)
      (fun _ s₁ => ToppingUp b.id s₁ ∧ s₁.transactions = s₀.transactions ∧
        s₁.invoices = s₀.invoices)
      (fun _ => True) :=
    ((((transition_within env.now .initialised .generating : Keeps (Within b.id s₀) _).triple.conj
      (Coherent.inPlace.rewrites.transition env.now b.id _ _).triple).conj
      (transition_status env.now b.id .initialised .generating)).conj
      (transition_rows env.now b.id .initialised .generating)).mono
      (fun _ e => by rw [e]; exact ⟨⟨⟨Within.refl hc _, hco⟩, trivial⟩, rfl⟩)
      (fun _ _ h => ⟨⟨h.1.1.1.1, h.1.1.2, h.1.2⟩, h.2⟩) fun _ _ => trivial
  -- a failed block throws, whatever its handler writes
  refine Triple.bind htrans fun _ => Triple.bind (Triple.tryCatch
    (Triple.atomically (E := fun _ => True) fun _ h₁ =>
      (summarise_generated env.now b _ h₁.1).mono (fun _ h => h)
        (fun _ _ h => h.of_rows h₁.2.1 h₁.2.2) fun _ _ => trivial)
    fun _ => Triple.bind (Triple.always _) fun _ => Triple.throw fun _ _ => trivial) fun _ => ?_
  exact (billRunOf_found ref).mono (fun _ h => h) (fun _ _ h => ⟨b, hb, h.2, h.1⟩)
    fun _ _ => trivial

/-- On every reachable ledger, a generation that returns leaves the bill run it generated with
its lines that generation did not raise as they were and its tallies exact; a presroc primary
invoice gets one top-up per side whose value subject to the minimum charge lies strictly between
zero and the floor, worth the shortfall and on the licence of its earliest subject line, and no
other line is raised; every invoice is flagged from its final tally, whether it was topped up
and the de minimis limit; and the bill run carries the summary of its flagged invoices. -/
theorem Reachable.generate_tops_up_flags_summarises {ok : Env → Prop} {s : Store}
    (h : Reachable ok s) (env : Env) (ref : BillRunRef) :
    Triple (· = s) (BillRun.generate env ref)
      (fun b' s' => ∃ b, s.billRunIn? ref.regimeId ref.billRunId = some b ∧
        s'.billRunIn? ref.regimeId ref.billRunId = some b' ∧
        Generated s b.id b.ruleset (env.thresholds.lookup ref.regimeSlug) s')
      (fun _ => True) :=
  generate_generated env ref h.consistent h.coherent

def presrocLine : Payload :=
  { ruleset := "presroc", region := "A", customerReference := "CUST01", licenceNumber := "LIC/1",
    chargePeriod := "01-APR-2021 - 31-MAR-2022", areaCode := "ARCA", lineDescription := "d",
    periodStart := "01-APR-2021", periodEnd := "31-MAR-2022", billableDays := 214,
    authorisedDays := 214, volume := ⟨35865, -4⟩, loss := "Low", regionalChargingArea := "Anglian",
    source := "Supported", season := "All Year", subjectToMinimumCharge := true }

def presrocRun : Store :=
  Request.step tenPoundRules (.record "wrls" (Uuid.ofSerial 36) "system" presrocLine) <|
  Request.step tenPoundRules (.create "wrls" "system" "A" "presroc") (Store.seeded ⟨0⟩)

theorem presrocRun_generated :
    ∃ b' s', BillRun.generate tenPoundRules ⟨Uuid.ofSerial 27, "wrls", Uuid.ofSerial 36⟩
        presrocRun = .ok b' s' ∧ s'.transactions.length = presrocRun.transactions.length + 1 ∧
      ∃ b, presrocRun.billRunIn? (Uuid.ofSerial 27) (Uuid.ofSerial 36) = some b ∧
        s'.billRunIn? (Uuid.ofSerial 27) (Uuid.ofSerial 36) = some b' ∧
        Generated presrocRun b.id b.ruleset (tenPoundRules.thresholds.lookup "wrls") s' := by
  have hrel : tenPoundRules.Reliable := ⟨rfl, by decide⟩
  have hreach : Reachable Env.Reliable presrocRun :=
    .step _ _ hrel <| .step _ _ hrel <| .seeded ⟨0⟩
  obtain ⟨b', s', hr⟩ := Op.exists_ok (x := BillRun.generate tenPoundRules
    ⟨Uuid.ofSerial 27, "wrls", Uuid.ofSerial 36⟩) (s := presrocRun) (by decide +kernel)
  have hlen : ((BillRun.generate tenPoundRules ⟨Uuid.ofSerial 27, "wrls", Uuid.ofSerial 36⟩).leaves
      presrocRun).transactions.length = presrocRun.transactions.length + 1 := by
    decide +kernel
  rw [Op.leaves_of_ok hr] at hlen
  exact ⟨b', s', hr, hlen, (Reachable.generate_tops_up_flags_summarises hreach tenPoundRules
    ⟨Uuid.ofSerial 27, "wrls", Uuid.ofSerial 36⟩).of_ok rfl hr⟩

end ChargeLedger
