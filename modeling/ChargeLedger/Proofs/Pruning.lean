import ChargeLedger.Proofs.Filing
import ChargeLedger.Proofs.Legibility

/-!
# What a deletion removes

Deleting a licence or an invoice from a bill run that takes changes removes exactly what lies
under it. Asked in a consistent ledger, with the bill run reading back, the request and the
removal it leaves never fail, and they leave the ledger changed only thus: the licence or the
invoice is gone with its lines; the bill run, and for a licence the invoice left behind, carry
their tally less that of the lines removed; an invoice whose only licence went goes too; the
bill run is back in the status it had, or initialised when it has no invoice left; and a
generated bill run has its summary, and the invoice left behind its flags, derived again from
what remains (`Store.LicenceRemoved`, `Store.InvoiceRemoved`). Every other row, the counters,
the regimes and the count of identifiers stay as they were.

The removal is followed write by write from the store it starts in, each write taking as the
guard on the bill run finds it pending.
-/

set_option autoImplicit false

namespace ChargeLedger

open Op Store

namespace Store

variable {s s' : Store} {X : Uuid}

/-! ## Rows found by identifier -/

theorem billRun?_congr (h : s'.billRuns = s.billRuns) (X : Uuid) : s'.billRun? X = s.billRun? X := by
  simp only [billRun?, h]

theorem Sound.licenceOn?_of_mem (h : s.Sound) {l : Licence} (hl : l ∈ s.licences) :
    s.licenceOn? l.billRunId l.id = some l := by
  obtain ⟨m, hm⟩ : ∃ m, s.licenceOn? l.billRunId l.id = some m :=
    Option.isSome_iff_exists.1 (List.find?_isSome.2 ⟨l, hl, by simp⟩)
  obtain ⟨hm', hid, -⟩ := mem_of_licenceOn? hm
  rw [hm, h.licence_eq hm' hl hid]

theorem Sound.invoice?_of_mem (h : s.Sound) {i : Invoice} (hi : i ∈ s.invoices) :
    s.invoice? i.id = some i := by
  obtain ⟨m, hm⟩ : ∃ m, s.invoice? i.id = some m :=
    Option.isSome_iff_exists.1 (List.find?_isSome.2 ⟨i, hi, by simp⟩)
  have hid : m.id = i.id := by simpa using List.find?_some hm
  rw [hm, h.invoice_eq (List.mem_of_find?_eq_some hm) hi hid]

theorem licenceCount_pos_iff {L I : Uuid} :
    0 < ({ s with licences := s.licences.filter (·.id != L) } : Store).licenceCount I ↔
      ∃ l ∈ s.licences, l.invoiceId = I ∧ l.id ≠ L := by
  simp [licenceCount, List.length_pos_iff_exists_mem, and_comm]

theorem Sound.mapBillRun_congr (h : s.Sound) {b : BillRun} (hb : s.billRun? X = some b)
    {f g : BillRun → BillRun} (e : f b = g b) : s.mapBillRun X f = s.mapBillRun X g := by
  unfold Store.mapBillRun
  congr 1
  refine List.map_congr_left fun c hc => ?_
  by_cases hX : c.id = X
  · have : c = b := Option.some.inj ((h.billRun?_of_mem hc).symm.trans (hX ▸ hb))
    subst this
    simp [e]
  · simp [hX]

theorem Sound.mapInvoice_congr (h : s.Sound) {I : Uuid} {i : Invoice} (hi : s.invoice? I = some i)
    {f g : Invoice → Invoice} (e : f i = g i) : s.mapInvoice I f = s.mapInvoice I g := by
  unfold Store.mapInvoice
  congr 1
  refine List.map_congr_left fun j hj => ?_
  by_cases hI : j.id = I
  · have hid : i.id = I := by simpa using List.find?_some hi
    have : j = i := h.invoice_eq hj (List.mem_of_find?_eq_some hi) (hI.trans hid.symm)
    subst this
    simp [e]
  · simp [hI]

theorem filter_mapInvoice_ne {I : Uuid} {g : Invoice → Invoice} (hg : ∀ i, (g i).id = i.id) :
    (s.mapInvoice I g).invoices.filter (·.id != I) = s.invoices.filter (·.id != I) := by
  show (s.invoices.map _).filter _ = _
  generalize s.invoices = l
  induction l with
  | nil => rfl
  | cons i is ih =>
    simp only [beq_iff_eq] at ih
    by_cases h : i.id = I <;> simp [h, hg, ih]

theorem licences_of_only {lic : Licence}
    (hnone : ¬∃ l ∈ s.licences, l.invoiceId = lic.invoiceId ∧ l.id ≠ lic.id) :
    (s.licences.filter (·.id != lic.id)).filter (·.invoiceId != lic.invoiceId) =
      s.licences.filter (·.id != lic.id) :=
  List.filter_eq_self.2 fun l hl => by
    obtain ⟨hl, hid⟩ := List.mem_filter.1 hl
    simp only [bne_iff_ne, ne_eq] at hid ⊢
    exact fun e => hnone ⟨l, hl, e, hid⟩

theorem Sound.lines_of_only (h : s.Sound) {lic : Licence}
    (hnone : ¬∃ l ∈ s.licences, l.invoiceId = lic.invoiceId ∧ l.id ≠ lic.id) :
    (s.transactions.filter (·.licenceId != lic.id)).filter (·.invoiceId != lic.invoiceId) =
      s.transactions.filter (·.licenceId != lic.id) :=
  List.filter_eq_self.2 fun t ht => by
    obtain ⟨ht, hL⟩ := List.mem_filter.1 ht
    simp only [bne_iff_ne, ne_eq] at hL ⊢
    intro e
    obtain ⟨l, hl, hk⟩ := List.mem_map.1 (h.transaction_key ht)
    simp only [Prod.mk.injEq] at hk
    exact hnone ⟨l, hl, hk.2.1.trans e, fun e' => hL (hk.1.symm.trans e')⟩

theorem mapInvoice_mapInvoice {I : Uuid} {f g : Invoice → Invoice} (hf : ∀ i, (f i).id = i.id) :
    (s.mapInvoice I f).mapInvoice I g = s.mapInvoice I (g ∘ f) := by
  simp only [mapInvoice, List.map_map]
  congr 2
  funext i
  by_cases h : i.id = I <;> simp [h, hf]

theorem mapBillRun_billRuns (h : s'.billRuns = s.billRuns) (f : BillRun → BillRun) :
    (s'.mapBillRun X f).billRuns = (s.mapBillRun X f).billRuns := by
  simp only [mapBillRun, h]

theorem mapInvoice_invoices (h : s'.invoices = s.invoices) (I : Uuid) (g : Invoice → Invoice) :
    (s'.mapInvoice I g).invoices = (s.mapInvoice I g).invoices := by
  simp only [mapInvoice, h]

theorem Sound.invoice?_of_licence (h : s.Sound) {l : Licence} (hl : l ∈ s.licences) :
    ∃ i ∈ s.invoices, s.invoice? l.invoiceId = some i := by
  have hkey : (l.invoiceId, l.billRunId) ∈ s.invoiceKeys :=
    h.licence_parent _ (List.mem_map.2 ⟨l, hl, rfl⟩)
  obtain ⟨i, hi, e⟩ := List.mem_map.1 hkey
  simp only [Prod.mk.injEq] at e
  exact ⟨i, hi, e.1 ▸ h.invoice?_of_mem hi⟩

theorem invoice?_mapInvoice_self {I : Uuid} {i : Invoice} (hi : s.invoice? I = some i)
    {g : Invoice → Invoice} (hg : ∀ j, (g j).id = j.id) :
    (s.mapInvoice I g).invoice? I = some (g i) := by
  have hid : i.id = I := by simpa using List.find?_some hi
  have hfind : (s.mapInvoice I g).invoice? I =
      (s.invoice? I).map fun j => if j.id == I then g j else j := by
    unfold invoice? mapInvoice
    rw [List.find?_map]
    congr 2
    funext j
    by_cases h : j.id = I <;> simp [h, hg]
  rw [hfind, hi]
  simp [hid]

/-! ## What a removal leaves -/

def rederivedFlags (s : Store) (I : Uuid) (t : Tally) (limit : Int64) : InvoiceFlags :=
  InvoiceFlags.derive t ((s.transactionsOfInvoice I).any (·.minimumChargeAdjustment)) limit

/-- Bill run `X` of `s'` is that of `s` with `δ` taken off its tally, in status `status`, with
summary `summary` and stamped at `now`; the other bill runs, the regimes, the counters and the
count of identifiers are as in `s`. -/
structure Pruned (now : Instant) (X : Uuid) (δ : Tally) (status : Status)
    (summary : BillRun → Summary) (s s' : Store) : Prop where
  billRuns : s'.billRuns = (s.mapBillRun X fun c =>
    { c with tally := c.tally - δ, status, summary := summary c, updatedAt := now }).billRuns
  regimes : s'.regimes = s.regimes
  counters : s'.counters = s.counters
  issued : s'.issued = s.issued

/-- Licence `lic` is gone from `s'` with its lines. Its invoice is rewritten by `row` when it
has another licence, and gone when it has not; no other invoice, licence or line changed. -/
structure LicenceCut (row : Invoice → Invoice) (s : Store) (lic : Licence) (s' : Store) :
    Prop where
  lines : s'.transactions = s.transactions.filter (·.licenceId != lic.id)
  licences : s'.licences = s.licences.filter (·.id != lic.id)
  invoices : s'.invoices =
    if ∃ l ∈ s.licences, l.invoiceId = lic.invoiceId ∧ l.id ≠ lic.id then
      (s.mapInvoice lic.invoiceId row).invoices
    else s.invoices.filter (·.id != lic.invoiceId)

/-- Invoice `I` is gone from `s'` with its licences and lines; no other of them changed. -/
structure InvoiceCut (s : Store) (I : Uuid) (s' : Store) : Prop where
  lines : s'.transactions = s.transactions.filter (·.invoiceId != I)
  licences : s'.licences = s.licences.filter (·.invoiceId != I)
  invoices : s'.invoices = s.invoices.filter (·.id != I)

/-- What deleting licence `lic` from bill run `b` at `now`, under de minimis limit `limit`,
leaves in `s'` from `s`. With `δ` the tally of the licence's lines: the licence and its lines
are gone; the bill run and the invoice left behind carry their tally less `δ`, and the invoice
goes when the licence was its only one; the bill run is initialised when it has no invoice
left and in its status before otherwise; when it was generated, its summary and the flags of
the invoice left behind are derived again from what remains. -/
structure LicenceRemoved (now : Instant) (limit : Int64) (s : Store) (b : BillRun) (lic : Licence)
    (s' : Store) : Prop where
  bill : Pruned now b.id (tallyBy s.transactions (·.licenceId) lic.id)
    (if s'.invoiceCount b.id = 0 then .initialised else b.status)
    (fun c => if b.status = .generated then s'.summaryOf b.id else c.summary) s s'
  cut : LicenceCut (fun i => { i with
      tally := i.tally - tallyBy s.transactions (·.licenceId) lic.id
      flags := if b.status = .generated then
          s'.rederivedFlags lic.invoiceId (i.tally - tallyBy s.transactions (·.licenceId) lic.id)
            limit
        else i.flags
      updatedAt := now }) s lic s'

/-- What deleting invoice `I` from bill run `b` at `now` leaves in `s'` from `s`: the invoice is
gone with its licences and lines, the bill run carries its tally less theirs, is initialised when
it has no invoice left and in its status before otherwise, and has its summary derived again
from what remains when it was generated. -/
structure InvoiceRemoved (now : Instant) (s : Store) (b : BillRun) (I : Uuid) (s' : Store) :
    Prop where
  bill : Pruned now b.id (tallyBy s.transactions (·.invoiceId) I)
    (if s'.invoiceCount b.id = 0 then .initialised else b.status)
    (fun c => if b.status = .generated then s'.summaryOf b.id else c.summary) s s'
  cut : InvoiceCut s I s'

section Composing

variable {now : Instant} {δ : Tally} {st : Status} {sm : BillRun → Summary}

theorem Pruned.of_held {held : Status}
    (h : Pruned now X δ st (·.summary)
      (s.mapBillRun X fun c => { c with status := held, updatedAt := now }) s') :
    Pruned now X δ st (·.summary) s s' := by
  refine ⟨?_, h.regimes, h.counters, h.issued⟩
  rw [h.billRuns, mapBillRun_mapBillRun (f := fun c => { c with status := held, updatedAt := now })
    fun _ => rfl]
  rfl

theorem Pruned.then (h : Pruned now X δ st sm s s') {f : BillRun → BillRun} {st' : Status}
    {sm' : BillRun → Summary}
    (hf : ∀ c : BillRun,
      f { c with tally := c.tally - δ, status := st, summary := sm c, updatedAt := now } =
        { c with tally := c.tally - δ, status := st', summary := sm' c, updatedAt := now }) :
    Pruned now X δ st' sm' s (s'.mapBillRun X f) := by
  refine ⟨?_, h.regimes, h.counters, h.issued⟩
  rw [mapBillRun_billRuns h.billRuns, mapBillRun_mapBillRun (f := fun c =>
    { c with tally := c.tally - δ, status := st, summary := sm c, updatedAt := now }) fun _ => rfl]
  congr 2
  funext c
  exact hf c

theorem Pruned.billRun? (h : Pruned now X δ st sm s s') {b : BillRun}
    (hb : s.billRun? X = some b) :
    s'.billRun? X =
      some { b with tally := b.tally - δ, status := st, summary := sm b, updatedAt := now } := by
  rw [billRun?_congr h.billRuns]
  exact billRun?_mapBillRun_self (fun _ => rfl) hb

end Composing

end Store

open Store

/-! ## The writes of a removal, one by one -/

section Writes

variable {E : Store → Prop} {s : Store} {X : Uuid} {b : BillRun}

theorem setStatus_takes (hb : s.billRun? X = some b) {allowed : List Status}
    (ha : b.status ∈ allowed) (target : Status) (now : Instant) :
    Triple (· = s) (Store.setStatus X allowed target now)
      (fun ok s' => ok = true ∧
        s' = s.mapBillRun X fun c => { c with status := target, updatedAt := now }) E :=
  Triple.modifyGet fun _ e => by
    subst e
    rw [guarded_of_billRun? hb (by simpa using ha)]
    exact ⟨rfl, rfl⟩

theorem subtract_takes (hb : s.billRun? X = some b) (hp : b.status = .pending) (now : Instant)
    (δ : Tally) :
    Triple (· = s) (Deletion.subtract now X δ)
      (fun _ s' => s' = s.mapBillRun X (BillRun.posted now δ)) E := by
  unfold Deletion.subtract
  rw [addBillRunTally_eq]
  refine Triple.modifyGet_bind ?_
  rw [guarded_of_billRun? hb (by simp [hp])]
  exact Triple.require fun _ e => ⟨fun _ => e, fun h => absurd h Bool.noConfusion⟩

theorem pruned_posted (now : Instant) (δ : Tally) (hs : s.Sound) (hb : s.billRun? X = some b)
    (hp : b.status = .pending) :
    Pruned now X δ .pending (·.summary) s (s.mapBillRun X (BillRun.posted now (-δ))) := by
  refine ⟨?_, rfl, rfl, rfl⟩
  rw [hs.mapBillRun_congr hb (g := fun c =>
    { c with tally := c.tally - δ, status := .pending, summary := c.summary, updatedAt := now })
    (by simp [BillRun.posted, hp, sub_eq_add_neg])]

theorem removeLicence_takes (now : Instant) (hs : s.Sound) (hb : s.billRun? X = some b)
    (hp : b.status = .pending) {L : Uuid} {lic : Licence} (hlic : s.licenceOn? X L = some lic) :
    Triple (· = s) (Deletion.removeLicence now X L)
      (fun left s' =>
        Pruned now X (tallyBy s.transactions (·.licenceId) lic.id) .pending (·.summary) s s' ∧
        LicenceCut (fun i => { i with
          tally := i.tally - tallyBy s.transactions (·.licenceId) lic.id, updatedAt := now })
          s lic s' ∧
        left = if ∃ l ∈ s.licences, l.invoiceId = lic.invoiceId ∧ l.id ≠ lic.id then
          some lic.invoiceId else none) E := by
  refine Triple.get_bind ?_
  split
  · rename_i lic' hlic'
    have e : lic' = lic := Option.some.inj (hlic'.symm.trans hlic)
    subst lic'
    rw [linesTally_transactionsOfLicence]
    refine Triple.bind (subtract_takes hb hp now _) fun _ => Triple.of_eq fun _ e => ?_
    subst e
    refine Triple.modifyGet_bind ?_
    dsimp only
    refine Triple.modify_bind (Triple.get_bind ?_)
    have hbill := pruned_posted now (tallyBy s.transactions (·.licenceId) lic.id) hs hb hp
    split
    · rename_i hcount
      have hother : ∃ l ∈ s.licences, l.invoiceId = lic.invoiceId ∧ l.id ≠ lic.id :=
        licenceCount_pos_iff.1 hcount
      refine Triple.pure fun _ e => ?_
      subst e
      refine ⟨⟨hbill.billRuns, rfl, rfl, rfl⟩, ⟨rfl, rfl, ?_⟩, by rw [if_pos hother]⟩
      rw [if_pos hother]
      simp only [sub_eq_add_neg]
      rfl
    · rename_i hcount
      have hnone : ¬∃ l ∈ s.licences, l.invoiceId = lic.invoiceId ∧ l.id ≠ lic.id :=
        fun h => hcount (licenceCount_pos_iff.2 h)
      refine Triple.modify_bind (Triple.pure fun _ e => ?_)
      subst e
      refine ⟨⟨hbill.billRuns, rfl, rfl, rfl⟩, ⟨hs.lines_of_only hnone, licences_of_only hnone, ?_⟩,
        by rw [if_neg hnone]⟩
      rw [if_neg hnone]
      exact filter_mapInvoice_ne fun _ => rfl
  · rename_i hnone
    exact (hnone lic hlic).elim

theorem removeInvoice_takes (now : Instant) (hs : s.Sound) (hb : s.billRun? X = some b)
    (hp : b.status = .pending)
    {I : Uuid} {inv : Invoice} (hinv : s.invoiceOn? X I = some inv) :
    Triple (· = s) (Deletion.removeInvoice now X I)
      (fun left s' => Pruned now X (tallyBy s.transactions (·.invoiceId) I) .pending (·.summary) s s' ∧
        InvoiceCut s I s' ∧ left = none) E := by
  have hI : inv.id = I := (mem_of_invoiceOn? hinv).2.1
  refine Triple.get_bind ?_
  split
  · rename_i inv' hinv'
    have e : inv' = inv := Option.some.inj (hinv'.symm.trans hinv)
    subst inv' hI
    rw [linesTally_transactionsOfInvoice]
    refine Triple.bind (subtract_takes hb hp now _) fun _ => Triple.of_eq fun _ e => ?_
    subst e
    refine Triple.modify_bind (Triple.pure fun _ e => ?_)
    subst e
    have hbill := pruned_posted now (tallyBy s.transactions (·.invoiceId) inv.id) hs hb hp
    exact ⟨⟨hbill.billRuns, rfl, rfl, rfl⟩, ⟨rfl, rfl, rfl⟩, rfl⟩
  · rename_i hnone
    exact (hnone inv hinv).elim

theorem summary_takes (hb : s.billRun? X = some b) (hp : b.status = .pending) (now : Instant) :
    Triple (· = s) (do
        let invoices := (← get).invoicesOf X
        let _ ← Store.setSummary X
          (Summary.ofInvoices (invoices.map fun i => (i.flags.summarised, i.tally))) .pending .pending now
        pure () : Op Unit)
      (fun _ s' => s' = s.mapBillRun X fun c =>
        { c with summary := s.summaryOf X, status := .pending, updatedAt := now }) E := by
  refine Triple.get_bind (Triple.modifyGet_bind ?_)
  rw [guarded_of_billRun? hb (by simp [hp])]
  exact Triple.pure fun _ e => e

theorem resummarise_none_takes (env : Env) (slug : String) (hb : s.billRun? X = some b)
    (hp : b.status = .pending) :
    Triple (· = s) (Deletion.resummarise env slug X none)
      (fun _ s' => s' = s.mapBillRun X fun c =>
        { c with summary := s.summaryOf X, status := .pending, updatedAt := env.now }) E := by
  unfold Deletion.resummarise
  extract_lets jp
  exact summary_takes hb hp env.now

theorem resummarise_some_takes (env : Env) (slug : String) (hb : s.billRun? X = some b)
    (hp : b.status = .pending) {I : Uuid} {i : Invoice} (hi : s.invoice? I = some i) :
    Triple (· = s) (Deletion.resummarise env slug X (some I))
      (fun _ s' => ∃ s₁, s₁ = s.mapInvoice I (fun j => { j with
          flags := s.rederivedFlags I i.tally (env.thresholds.lookup slug).deminimisLimit,
          updatedAt := env.now }) ∧
        s' = s₁.mapBillRun X fun c =>
          { c with summary := s₁.summaryOf X, status := .pending, updatedAt := env.now }) E := by
  unfold Deletion.resummarise
  extract_lets jp
  refine Triple.get_bind ?_
  split
  · rename_i i' hi'
    have e : i' = i := Option.some.inj (hi'.symm.trans hi)
    subst i'
    refine Triple.modify_bind ((summary_takes (by rw [billRun?_congr rfl X]; exact hb) hp
      env.now).mono (fun _ h => h) (fun _ _ h => ⟨_, rfl, h⟩) fun _ h => h)
  · rename_i hnone
    exact (hnone i hi).elim

theorem cascade_takes (env : Env) (ref : BillRunRef) {prior : Status} {remove : Op (Option Uuid)}
    {s₀ : Store} {b : BillRun} (hb : s₀.billRun? ref.billRunId = some b) (hp : b.status = prior)
    {Q : Store → Prop}
    (hblock : Triple (· = s₀.mapBillRun ref.billRunId fun c =>
        { c with status := .pending, updatedAt := env.now })
      (do
        let left ← remove
        if prior == .generated then Deletion.resummarise env ref.regimeSlug ref.billRunId left :
        Op Unit)
      (fun _ s => Q s ∧ ∃ c, s.billRun? ref.billRunId = some c ∧ c.status = .pending)
      (fun _ => False)) :
    Triple (· = s₀) (Deletion.cascade env ref prior remove)
      (fun _ s => ∃ s₃, Q s₃ ∧ s = s₃.mapBillRun ref.billRunId fun c =>
        { c with status := if s₃.invoiceCount ref.billRunId = 0 then .initialised else prior,
                 updatedAt := env.now })
      (fun _ => False) := by
  unfold Deletion.cascade
  refine Triple.bind (setStatus_takes hb (by simp [hp]) .pending env.now) fun ok =>
    Triple.of_eq fun _ h => ?_
  obtain ⟨rfl, rfl⟩ := h
  refine Triple.require_bind (fun h => absurd h Bool.noConfusion) fun _ => ?_
  -- the block returns, so no fault is caught
  refine Triple.bind (Q := fun outcome s => outcome = none ∧ Q s ∧
      ∃ c, s.billRun? ref.billRunId = some c ∧ c.status = .pending)
    (Triple.tryCatch
      (show Triple _ _ _ fun _ => False from
        Triple.bind (Triple.atomically fun _ e => e ▸ hblock.mono (fun _ h => h) (fun _ _ h => h)
          fun _ h => h) fun _ => Triple.pure fun _ h => ⟨rfl, h⟩)
      fun _ => Triple.absurd _) fun outcome => Triple.of_eq fun s₃ h => ?_
  obtain ⟨rfl, hQ, c, hc, hcp⟩ := h
  refine Triple.get_bind (Triple.bind (setStatus_takes hc (by simp [hcp]) _ env.now) fun _ =>
    Triple.of_eq fun _ h => Triple.pure fun _ e => ⟨s₃, hQ, ?_⟩)
  rw [e, h.2]
  simp only [beq_iff_eq]

theorem licenceBlock_takes (env : Env) (ref : BillRunRef) {s₀ : Store} {b : BillRun}
    (hs : s₀.Sound) (hb : s₀.billRun? ref.billRunId = some b) {L : Uuid} {lic : Licence}
    (hlic : s₀.licenceOn? ref.billRunId L = some lic) :
    Triple (· = s₀.mapBillRun ref.billRunId fun c =>
        { c with status := .pending, updatedAt := env.now })
      (do
        let left ← Deletion.removeLicence env.now ref.billRunId L
        if b.status == .generated then
          Deletion.resummarise env ref.regimeSlug ref.billRunId left :
        Op Unit)
      (fun _ s₃ =>
        (Pruned env.now ref.billRunId (tallyBy s₀.transactions (·.licenceId) lic.id) .pending
          (fun c => if b.status = .generated then s₃.summaryOf ref.billRunId else c.summary)
          s₀ s₃ ∧
        LicenceCut (fun i => { i with
            tally := i.tally - tallyBy s₀.transactions (·.licenceId) lic.id
            flags := if b.status = .generated then
                s₃.rederivedFlags lic.invoiceId
                  (i.tally - tallyBy s₀.transactions (·.licenceId) lic.id)
                  (env.thresholds.lookup ref.regimeSlug).deminimisLimit
              else i.flags
            updatedAt := env.now }) s₀ lic s₃) ∧
        ∃ c, s₃.billRun? ref.billRunId = some c ∧ c.status = .pending)
      (fun _ => False) := by
  have hs₁ := hs.mapBillRun (f := fun c => { c with status := .pending, updatedAt := env.now })
    (fun _ => rfl) ref.billRunId
  refine Triple.bind (removeLicence_takes env.now hs₁ (billRun?_mapBillRun_self (fun _ => rfl) hb)
    rfl hlic) fun left => Triple.of_eq fun s₂ h => ?_
  have hbill₀ : Pruned env.now ref.billRunId (tallyBy s₀.transactions (·.licenceId) lic.id)
      .pending (·.summary) s₀ s₂ := h.1.of_held
  have hcut : LicenceCut (fun i => { i with
      tally := i.tally - tallyBy s₀.transactions (·.licenceId) lic.id, updatedAt := env.now })
      s₀ lic s₂ := ⟨h.2.1.lines, h.2.1.licences, h.2.1.invoices⟩
  have hleft : left = if ∃ l ∈ s₀.licences, l.invoiceId = lic.invoiceId ∧ l.id ≠ lic.id then
      some lic.invoiceId else none := h.2.2
  have hb₂ := hbill₀.billRun? hb
  by_cases hgen : b.status = .generated
  · simp only [hgen, beq_self_eq_true, ↓reduceIte]
    by_cases hkeep : ∃ l ∈ s₀.licences, l.invoiceId = lic.invoiceId ∧ l.id ≠ lic.id
    · -- the invoice stays: its flags are derived again from what is left on it
      rw [if_pos hkeep] at hleft
      subst hleft
      obtain ⟨i₀, -, hi₀⟩ := hs.invoice?_of_licence (mem_of_licenceOn? hlic).1
      have hinv₂ : s₂.invoices = (s₀.mapInvoice lic.invoiceId fun i => { i with
          tally := i.tally - tallyBy s₀.transactions (·.licenceId) lic.id,
          updatedAt := env.now }).invoices := by
        rw [hcut.invoices, if_pos hkeep]
      have hi₂ : s₂.invoice? lic.invoiceId = some { i₀ with
          tally := i₀.tally - tallyBy s₀.transactions (·.licenceId) lic.id,
          updatedAt := env.now } := by
        unfold invoice?
        rw [hinv₂]
        exact invoice?_mapInvoice_self hi₀ fun _ => rfl
      refine (resummarise_some_takes env ref.regimeSlug hb₂ rfl hi₂).mono (fun _ h => h)
        (fun _ s₃ h => ?_) fun _ h => h
      obtain ⟨s₂', hs₂', rfl⟩ := h
      have hbill₂ : Pruned env.now ref.billRunId (tallyBy s₀.transactions (·.licenceId) lic.id)
          .pending (·.summary) s₀ s₂' := by
        subst hs₂'
        exact ⟨hbill₀.billRuns, hbill₀.regimes, hbill₀.counters, hbill₀.issued⟩
      subst hs₂'
      refine ⟨⟨hbill₂.then fun _ => rfl, hcut.lines, hcut.licences, ?_⟩, _,
        billRun?_mapBillRun_self (fun _ => rfl) hb₂, rfl⟩
      rw [if_pos hkeep]
      show (s₂.mapInvoice _ _).invoices = _
      rw [mapInvoice_invoices hinv₂, mapInvoice_mapInvoice]
      · exact congrArg Store.invoices (hs.mapInvoice_congr hi₀ rfl)
      · exact fun _ => rfl
    · -- the invoice went with its only licence
      rw [if_neg hkeep] at hleft
      subst hleft
      refine (resummarise_none_takes env ref.regimeSlug hb₂ rfl).mono (fun _ h => h)
        (fun _ s₃ e => ?_) fun _ h => h
      subst e
      refine ⟨⟨hbill₀.then fun _ => rfl, hcut.lines, hcut.licences, ?_⟩, _,
        billRun?_mapBillRun_self (fun _ => rfl) hb₂, rfl⟩
      show s₂.invoices = _
      rw [hcut.invoices, if_neg hkeep, if_neg hkeep]
  · -- nothing is derived again
    have hne : (b.status == .generated) = false := by simpa using hgen
    simp only [hne, hgen, Bool.false_eq_true, ↓reduceIte]
    exact Triple.pure fun _ e => by
      subst e
      exact ⟨⟨hbill₀, hcut⟩, _, hb₂, rfl⟩

theorem invoiceBlock_takes (env : Env) (ref : BillRunRef) {s₀ : Store} {b : BillRun}
    (hs : s₀.Sound) (hb : s₀.billRun? ref.billRunId = some b) {I : Uuid} {inv : Invoice}
    (hinv : s₀.invoiceOn? ref.billRunId I = some inv) :
    Triple (· = s₀.mapBillRun ref.billRunId fun c =>
        { c with status := .pending, updatedAt := env.now })
      (do
        let left ← Deletion.removeInvoice env.now ref.billRunId I
        if b.status == .generated then
          Deletion.resummarise env ref.regimeSlug ref.billRunId left :
        Op Unit)
      (fun _ s₃ =>
        (Pruned env.now ref.billRunId (tallyBy s₀.transactions (·.invoiceId) I) .pending
          (fun c => if b.status = .generated then s₃.summaryOf ref.billRunId else c.summary)
          s₀ s₃ ∧ InvoiceCut s₀ I s₃) ∧
        ∃ c, s₃.billRun? ref.billRunId = some c ∧ c.status = .pending)
      (fun _ => False) := by
  have hs₁ := hs.mapBillRun (f := fun c => { c with status := .pending, updatedAt := env.now })
    (fun _ => rfl) ref.billRunId
  refine Triple.bind (removeInvoice_takes env.now hs₁ (billRun?_mapBillRun_self (fun _ => rfl) hb)
    rfl hinv) fun left => Triple.of_eq fun s₂ h => ?_
  have hbill₀ : Pruned env.now ref.billRunId (tallyBy s₀.transactions (·.invoiceId) I)
      .pending (·.summary) s₀ s₂ := h.1.of_held
  have hcut : InvoiceCut s₀ I s₂ := ⟨h.2.1.lines, h.2.1.licences, h.2.1.invoices⟩
  have hleft : left = none := h.2.2
  subst hleft
  have hb₂ := hbill₀.billRun? hb
  by_cases hgen : b.status = .generated
  · simp only [hgen, beq_self_eq_true, ↓reduceIte]
    refine (resummarise_none_takes env ref.regimeSlug hb₂ rfl).mono (fun _ h => h)
      (fun _ s₃ e => ?_) fun _ h => h
    subst e
    exact ⟨⟨hbill₀.then fun _ => rfl, hcut.lines, hcut.licences, hcut.invoices⟩, _,
      billRun?_mapBillRun_self (fun _ => rfl) hb₂, rfl⟩
  · have hne : (b.status == .generated) = false := by simpa using hgen
    simp only [hne, hgen, Bool.false_eq_true, ↓reduceIte]
    exact Triple.pure fun _ e => by
      subst e
      exact ⟨⟨hbill₀, hcut⟩, _, hb₂, rfl⟩

theorem removeLicence_cascade (env : Env) (ref : BillRunRef) {s₀ : Store} {b : BillRun}
    (hs : s₀.Sound) (hb : s₀.billRun? ref.billRunId = some b) {L : Uuid} {lic : Licence}
    (hlic : s₀.licenceOn? ref.billRunId L = some lic) :
    Triple (· = s₀)
      (Deletion.cascade env ref b.status (Deletion.removeLicence env.now ref.billRunId L))
      (fun _ s => LicenceRemoved env.now (env.thresholds.lookup ref.regimeSlug).deminimisLimit
        s₀ b lic s) (fun _ => False) := by
  refine (cascade_takes env ref hb rfl (licenceBlock_takes env ref hs hb hlic)).mono
    (fun _ h => h) (fun _ s h => ?_) fun _ h => h
  obtain ⟨s₃, ⟨hbill, hcut⟩, rfl⟩ := h
  have hX : b.id = ref.billRunId := id_of_billRun? hb
  refine ⟨?_, hcut.lines, hcut.licences, hcut.invoices⟩
  rw [hX]
  exact hbill.then fun _ => rfl

theorem removeInvoice_cascade (env : Env) (ref : BillRunRef) {s₀ : Store} {b : BillRun}
    (hs : s₀.Sound) (hb : s₀.billRun? ref.billRunId = some b) {I : Uuid} {inv : Invoice}
    (hinv : s₀.invoiceOn? ref.billRunId I = some inv) :
    Triple (· = s₀)
      (Deletion.cascade env ref b.status (Deletion.removeInvoice env.now ref.billRunId I))
      (fun _ s => InvoiceRemoved env.now s₀ b I s) (fun _ => False) := by
  refine (cascade_takes env ref hb rfl (invoiceBlock_takes env ref hs hb hinv)).mono
    (fun _ h => h) (fun _ s h => ?_) fun _ h => h
  obtain ⟨s₃, ⟨hbill, hcut⟩, rfl⟩ := h
  have hX : b.id = ref.billRunId := id_of_billRun? hb
  refine ⟨?_, hcut.lines, hcut.licences, hcut.invoices⟩
  rw [hX]
  exact hbill.then fun _ => rfl

end Writes

/-! ## The requests -/

namespace Store

/-- The regime, the bill run taking changes and the licence a request to delete licence `L` from
bill run `X` of the regime named `slug` finds. -/
def LicenceFound (slug : String) (X L : Uuid) (s : Store) (r : Regime) (b : BillRun)
    (lic : Licence) : Prop :=
  s.regimeBySlug slug = some r ∧ s.billRunIn? r.id X = some b ∧ b.status.editable = true ∧
    s.licenceOn? X L = some lic

/-- The same for a request to delete invoice `I`. -/
def InvoiceFound (slug : String) (X I : Uuid) (s : Store) (r : Regime) (b : BillRun)
    (inv : Invoice) : Prop :=
  s.regimeBySlug slug = some r ∧ s.billRunIn? r.id X = some b ∧ b.status.editable = true ∧
    s.invoiceOn? X I = some inv

/-- What a request to delete licence `L` from bill run `X` of the regime named `slug` leaves in
`s'` from `s`: where it finds them, the licence removed from the bill run as `LicenceRemoved`
says, under the de minimis limit of the regime; where it does not, `s` as it was. -/
def LicenceDeletion (env : Env) (slug : String) (X L : Uuid) (s s' : Store) : Prop :=
  (∀ r b lic, s.LicenceFound slug X L r b lic →
    LicenceRemoved env.now (env.thresholds.lookup slug).deminimisLimit s b lic s') ∧
  ((∀ r b lic, ¬s.LicenceFound slug X L r b lic) → s' = s)

/-- The same for a request to delete invoice `I`, which leaves what `InvoiceRemoved` says. -/
def InvoiceDeletion (env : Env) (slug : String) (X I : Uuid) (s s' : Store) : Prop :=
  (∀ r b inv, s.InvoiceFound slug X I r b inv → InvoiceRemoved env.now s b I s') ∧
  ((∀ r b inv, ¬s.InvoiceFound slug X I r b inv) → s' = s)

variable {s : Store} {slug : String} {X L I : Uuid} {env : Env}

theorem LicenceDeletion.of_refused (h : ∀ r b lic, ¬s.LicenceFound slug X L r b lic) :
    s.LicenceDeletion env slug X L s :=
  ⟨fun r b lic hf => (h r b lic hf).elim, fun _ => rfl⟩

theorem InvoiceDeletion.of_refused (h : ∀ r b inv, ¬s.InvoiceFound slug X I r b inv) :
    s.InvoiceDeletion env slug X I s :=
  ⟨fun r b inv hf => (h r b inv hf).elim, fun _ => rfl⟩

end Store

section Requests

variable {s : Store}

theorem refIn_found (slug : String) (X : Uuid) :
    Triple (· = s) (Request.refIn slug X)
      (fun ref s' => s' = s ∧ ∃ r, s.regimeBySlug slug = some r ∧ ref = ⟨r.id, r.slug, X⟩)
      (fun s' => s' = s ∧ s.regimeBySlug slug = none) := by
  unfold Request.refIn Request.regimeNamed
  refine Triple.bind (Q := fun r s' => s' = s ∧ s.regimeBySlug slug = some r) (Triple.get_bind ?_)
    fun r => Triple.pure fun _ h => ⟨h.1, r, h.2, rfl⟩
  split
  · rename_i r hr
    exact Triple.pure fun _ e => ⟨e, hr⟩
  · rename_i hr
    exact Triple.throw fun _ e => ⟨e, hr⟩

theorem editableBillRun_read (hl : s.Legible) (ref : BillRunRef) :
    Triple (· = s) (Deletion.editableBillRun ref)
      (fun b s' => s' = s ∧ s.billRunIn? ref.regimeId ref.billRunId = some b ∧
        b.status.editable = true)
      (fun s' => s' = s ∧ ∀ b, s.billRunIn? ref.regimeId ref.billRunId = some b →
        b.status.editable = false) := by
  unfold Deletion.editableBillRun
  cases hb : s.billRunIn? ref.regimeId ref.billRunId with
  | none =>
    refine Triple.bind (show Triple _ _ (fun _ _ => False) _ from
      (billRunOf_read ref).mono (fun _ h => h) (fun b _ h => ?_)
        fun _ e => ⟨e, fun b h => absurd h.symm (Option.some_ne_none b)⟩)
      fun _ => Triple.absurd _
    obtain ⟨rfl, h, -⟩ := h
    rw [hb] at h
    exact absurd h.symm (Option.some_ne_none b)
  | some b =>
    refine Triple.bind ((billRunOf_some hb (hl.readable_of_billRunIn? hb)).mono (fun _ h => h)
      (fun _ _ h => h) fun _ h => h.elim) fun b' => Triple.of_eq fun _ h => ?_
    obtain ⟨e, rfl⟩ := h
    subst b'
    refine Triple.require_bind (fun hed _ e => ⟨e, fun c hc => ?_⟩) fun hed =>
      Triple.pure fun _ e => ⟨e, rfl, hed⟩
    rw [← Option.some.inj hc]
    exact hed

theorem deleteLicence_read (hl : s.Legible) (ref : BillRunRef) (L : Uuid) :
    Triple (· = s) (Deletion.deleteLicence ref L)
      (fun task s' => s' = s ∧ ∃ b lic, s.billRunIn? ref.regimeId ref.billRunId = some b ∧
        b.status.editable = true ∧ s.licenceOn? ref.billRunId L = some lic ∧
        task = .removeLicence ref b.status L)
      (fun s' => s' = s ∧ ∀ b, s.billRunIn? ref.regimeId ref.billRunId = some b →
        b.status.editable = true → s.licenceOn? ref.billRunId L = none) := by
  refine Triple.bind ((editableBillRun_read hl ref).mono (fun _ h => h) (fun _ _ h => h)
    fun _ h => ⟨h.1, fun b hb hed => absurd hed (by rw [h.2 b hb]; exact Bool.false_ne_true)⟩)
    fun b => Triple.of_eq fun _ h => ?_
  obtain ⟨rfl, hb, hed⟩ := h
  have hX : b.id = ref.billRunId := (id_of_billRunIn? hb).1
  refine Triple.get_bind (Triple.require_bind (fun hnone _ e => ⟨e, fun c hc _ => ?_⟩)
    fun hsome => Triple.pure fun _ e => ?_)
  · rw [← hX]
    simpa using hnone
  · obtain ⟨lic, hlic⟩ := Option.isSome_iff_exists.1 hsome
    exact ⟨e, b, lic, hb, hed, hX ▸ hlic, rfl⟩

theorem deleteInvoice_read (hl : s.Legible) (ref : BillRunRef) (I : Uuid) :
    Triple (· = s) (Deletion.deleteInvoice ref I)
      (fun task s' => s' = s ∧ ∃ b inv, s.billRunIn? ref.regimeId ref.billRunId = some b ∧
        b.status.editable = true ∧ s.invoiceOn? ref.billRunId I = some inv ∧
        task = .removeInvoice ref b.status I)
      (fun s' => s' = s ∧ ∀ b, s.billRunIn? ref.regimeId ref.billRunId = some b →
        b.status.editable = true → s.invoiceOn? ref.billRunId I = none) := by
  refine Triple.bind ((editableBillRun_read hl ref).mono (fun _ h => h) (fun _ _ h => h)
    fun _ h => ⟨h.1, fun b hb hed => absurd hed (by rw [h.2 b hb]; exact Bool.false_ne_true)⟩)
    fun b => Triple.of_eq fun _ h => ?_
  obtain ⟨rfl, hb, hed⟩ := h
  have hX : b.id = ref.billRunId := (id_of_billRunIn? hb).1
  refine Triple.get_bind (Triple.require_bind (fun hnone _ e => ⟨e, fun c hc _ => ?_⟩)
    fun hsome => Triple.pure fun _ e => ?_)
  · rw [← hX]
    simpa using hnone
  · obtain ⟨inv, hinv⟩ := Option.isSome_iff_exists.1 hsome
    exact ⟨e, b, inv, hb, hed, hX ▸ hinv, rfl⟩

theorem deleteLicence_step (env : Env) (hs : s.Sound) (hl : s.Legible) (slug : String)
    (X L : Uuid) : s.LicenceDeletion env slug X L (Request.step env (.deleteLicence slug X L) s) := by
  refine Request.step_of env _ ?_
  simp only [Request.run]
  refine Triple.bind ((refIn_found slug X).mono (fun _ h => h) (fun _ _ h => h) fun _ h => ?_)
    fun ref => Triple.of_eq fun _ h => ?_
  · -- no regime under the slug
    obtain ⟨rfl, hr⟩ := h
    exact LicenceDeletion.of_refused fun r _ _ hf =>
      absurd (hr.symm.trans hf.1).symm (Option.some_ne_none r)
  obtain ⟨rfl, r, hr, rfl⟩ := h
  have hslug : r.slug = slug := by simpa using List.find?_some hr
  refine Triple.bind ((deleteLicence_read hl _ L).mono (fun _ h => h) (fun _ _ h => h)
    fun _ h => ?_) fun task => Triple.of_eq fun _ h => ?_
  · -- the bill run is not there, takes no changes, or has no such licence
    obtain ⟨rfl, hnone⟩ := h
    refine LicenceDeletion.of_refused fun r' b lic hf => ?_
    obtain ⟨hr', hb, hed, hlic⟩ := hf
    have e : r' = r := Option.some.inj (hr'.symm.trans hr)
    subst r'
    rw [hnone b hb hed] at hlic
    exact absurd hlic.symm (Option.some_ne_none lic)
  obtain ⟨rfl, b, lic, hb, hed, hlic, rfl⟩ := h
  refine Triple.pure fun _ e => ?_
  subst e
  refine Triple.bind ((removeLicence_cascade env _ hs (hs.billRun?_of_billRunIn? hb) hlic).mono
    (fun _ h => h) (fun _ s' h => ?_) fun _ h => h.elim) fun _ => Triple.pure fun _ h => h
  refine ⟨fun r' b' lic' hf => ?_, fun hnot => absurd ⟨hr, hb, hed, hlic⟩ (hnot r b lic)⟩
  obtain ⟨hr', hb', -, hlic'⟩ := hf
  have e : r' = r := Option.some.inj (hr'.symm.trans hr)
  subst r'
  have eb : b' = b := Option.some.inj (hb'.symm.trans hb)
  have el : lic' = lic := Option.some.inj (hlic'.symm.trans hlic)
  subst b' lic'
  rw [← hslug]
  exact h

/-- The same for a request to delete an invoice, which leaves what `InvoiceDeletion` says. -/
theorem deleteInvoice_step (env : Env) (hs : s.Sound) (hl : s.Legible) (slug : String)
    (X I : Uuid) : s.InvoiceDeletion env slug X I (Request.step env (.deleteInvoice slug X I) s) := by
  refine Request.step_of env _ ?_
  simp only [Request.run]
  refine Triple.bind ((refIn_found slug X).mono (fun _ h => h) (fun _ _ h => h) fun _ h => ?_)
    fun ref => Triple.of_eq fun _ h => ?_
  · obtain ⟨rfl, hr⟩ := h
    exact InvoiceDeletion.of_refused fun r _ _ hf =>
      absurd (hr.symm.trans hf.1).symm (Option.some_ne_none r)
  obtain ⟨rfl, r, hr, rfl⟩ := h
  refine Triple.bind ((deleteInvoice_read hl _ I).mono (fun _ h => h) (fun _ _ h => h)
    fun _ h => ?_) fun task => Triple.of_eq fun _ h => ?_
  · obtain ⟨rfl, hnone⟩ := h
    refine InvoiceDeletion.of_refused fun r' b inv hf => ?_
    obtain ⟨hr', hb, hed, hinv⟩ := hf
    have e : r' = r := Option.some.inj (hr'.symm.trans hr)
    subst r'
    rw [hnone b hb hed] at hinv
    exact absurd hinv.symm (Option.some_ne_none inv)
  obtain ⟨rfl, b, inv, hb, hed, hinv, rfl⟩ := h
  refine Triple.pure fun _ e => ?_
  subst e
  refine Triple.bind ((removeInvoice_cascade env _ hs (hs.billRun?_of_billRunIn? hb) hinv).mono
    (fun _ h => h) (fun _ s' h => ?_) fun _ h => h.elim) fun _ => Triple.pure fun _ h => h
  refine ⟨fun r' b' inv' hf => ?_, fun hnot => absurd ⟨hr, hb, hed, hinv⟩ (hnot r b inv)⟩
  obtain ⟨hr', hb', -, -⟩ := hf
  have e : r' = r := Option.some.inj (hr'.symm.trans hr)
  subst r'
  have eb : b' = b := Option.some.inj (hb'.symm.trans hb)
  subst b'
  exact h

end Requests

end ChargeLedger
