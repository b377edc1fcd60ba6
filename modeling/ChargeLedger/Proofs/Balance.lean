import Mathlib.Algebra.Group.Pi.Basic
import Mathlib.Tactic.Abel
import ChargeLedger.Proofs.TallyGroup
import ChargeLedger.Proofs.Integrity

/-!
# Rows that carry the tally of their lines

A bill run, an invoice and a licence each keep a tally that writes move by deltas, apart from
the lines they add up. `Store.Balanced s dB dI dL` says how far each row is from the tally of
its lines: by `dB b` for bill run `b`, by `dI i` for invoice `i` and by `dL l` for licence `l`.
A posting moves the rows first and adds the line last, so in between the store is balanced only
up to the posting's delta at the rows it moved; when the line lands, every offset is back to
zero. A removal runs the other way round. `Store.Exact` is the balance with no offset.
-/

set_option autoImplicit false

namespace ChargeLedger

def tallyBy (ts : List Transaction) (key : Transaction → Uuid) (k : Uuid) : Tally :=
  ((ts.filter (key · == k)).map Transaction.tally).sum

@[simp] theorem tallyBy_nil (key : Transaction → Uuid) (k : Uuid) : tallyBy [] key k = 0 := rfl

theorem tallyBy_append (ts us : List Transaction) (key : Transaction → Uuid) (k : Uuid) :
    tallyBy (ts ++ us) key k = tallyBy ts key k + tallyBy us key k := by
  simp [tallyBy, List.filter_append]

theorem tallyBy_single (t : Transaction) (key : Transaction → Uuid) :
    tallyBy [t] key = Pi.single (key t) t.tally := by
  funext k
  by_cases h : key t = k
  · subst h
    simp [tallyBy]
  · simp [tallyBy, h, Ne.symm h]

theorem tallyBy_cons (t : Transaction) (ts : List Transaction) (key : Transaction → Uuid) :
    tallyBy (t :: ts) key = Pi.single (key t) t.tally + tallyBy ts key := by
  funext k
  rw [show t :: ts = [t] ++ ts from rfl, tallyBy_append, tallyBy_single]
  rfl

theorem tallyBy_eq_zero {ts : List Transaction} {key : Transaction → Uuid} {k : Uuid}
    (h : ∀ t ∈ ts, key t ≠ k) : tallyBy ts key k = 0 := by
  have : ts.filter (key · == k) = [] := List.filter_eq_nil_iff.2 fun t ht => by simpa using h t ht
  simp [tallyBy, this]

theorem tallyBy_of_forall {ts : List Transaction} {key : Transaction → Uuid} {k : Uuid}
    (h : ∀ t ∈ ts, key t = k) : tallyBy ts key = Pi.single k (ts.map Transaction.tally).sum := by
  induction ts with
  | nil => funext j; simp
  | cons t ts ih =>
    rw [tallyBy_cons, ih fun u hu => h u (List.mem_cons_of_mem t hu), h t List.mem_cons_self]
    funext j
    rcases eq_or_ne j k with rfl | hj <;> simp [*]

theorem tallyBy_filter (ts : List Transaction) (q : Transaction → Bool)
    (key : Transaction → Uuid) (k : Uuid) :
    tallyBy ts key k = tallyBy (ts.filter q) key k + tallyBy (ts.filter (!q ·)) key k := by
  induction ts with
  | nil => simp
  | cons t ts ih =>
    rw [show t :: ts = [t] ++ ts from rfl, tallyBy_append, ih, List.filter_append,
      List.filter_append, tallyBy_append, tallyBy_append]
    cases hq : q t <;> simp [hq, tallyBy_single] <;> abel

namespace Store

variable {s : Store} {dB dI dL : Uuid → Tally} {δ : Tally}

/-- Each row carries the tally of its lines, up to offsets: `dB`, `dI` and `dL` at each bill
run, invoice and licence. -/
structure Balanced (s : Store) (dB dI dL : Uuid → Tally) : Prop where
  billRun : ∀ b ∈ s.billRuns, b.tally = tallyBy s.transactions (·.billRunId) b.id + dB b.id
  invoice : ∀ i ∈ s.invoices, i.tally = tallyBy s.transactions (·.invoiceId) i.id + dI i.id
  licence : ∀ l ∈ s.licences, l.tally = tallyBy s.transactions (·.licenceId) l.id + dL l.id

/-- Every row carries exactly the tally of its lines. -/
def Exact (s : Store) : Prop := s.Balanced 0 0 0

/-! ## Moving rows by a delta -/

theorem shift_row {α : Type} (d : Uuid → Tally) (id : α → Uuid) (tally : α → Tally) (r : α)
    (Y : Uuid) (g : α → α) (hg : ∀ a, id (g a) = id a ∧ tally (g a) = tally a + δ)
    (lines : Uuid → Tally) (hr : tally r = lines (id r) + d (id r)) :
    tally (if id r == Y then g r else r) =
      lines (id (if id r == Y then g r else r)) +
        (d + Pi.single Y δ : Uuid → Tally) (id (if id r == Y then g r else r)) := by
  by_cases e : id r = Y
  · subst e
    simp [(hg r).1, (hg r).2, hr, add_assoc]
  · simp [e, hr]

theorem Balanced.mapBillRun (h : s.Balanced dB dI dL) (X : Uuid) {f : BillRun → BillRun}
    (hf : ∀ b, (f b).id = b.id ∧ (f b).tally = b.tally + δ) :
    (s.mapBillRun X f).Balanced (dB + Pi.single X δ) dI dL := by
  refine ⟨?_, h.invoice, h.licence⟩
  intro b hb
  obtain ⟨b₀, hb₀, rfl⟩ := List.mem_map.1 hb
  exact shift_row dB BillRun.id BillRun.tally b₀ X f hf _ (h.billRun b₀ hb₀)

theorem Balanced.mapInvoice (h : s.Balanced dB dI dL) (I : Uuid) {g : Invoice → Invoice}
    (hg : ∀ i, (g i).id = i.id ∧ (g i).tally = i.tally + δ) :
    (s.mapInvoice I g).Balanced dB (dI + Pi.single I δ) dL := by
  refine ⟨h.billRun, ?_, h.licence⟩
  intro i hi
  obtain ⟨i₀, hi₀, rfl⟩ := List.mem_map.1 hi
  exact shift_row dI Invoice.id Invoice.tally i₀ I g hg _ (h.invoice i₀ hi₀)

theorem Balanced.mapLicence (h : s.Balanced dB dI dL) (L : Uuid) {k : Licence → Licence}
    (hk : ∀ l, (k l).id = l.id ∧ (k l).tally = l.tally + δ) :
    (s.mapLicence L k).Balanced dB dI (dL + Pi.single L δ) := by
  refine ⟨h.billRun, h.invoice, ?_⟩
  intro l hl
  obtain ⟨l₀, hl₀, rfl⟩ := List.mem_map.1 hl
  exact shift_row dL Licence.id Licence.tally l₀ L k hk _ (h.licence l₀ hl₀)

/-! ## Rows and lines added and removed -/

theorem offset_new_row {α : Type} (d : Uuid → Tally) (id : α → Uuid) (tally : α → Tally)
    (rows : List α) (r : α) (lines : Uuid → Tally)
    (h : ∀ a ∈ rows, tally a = lines (id a) + d (id a))
    (hnew : ∀ a ∈ rows, id a ≠ id r) (hlines : lines (id r) = 0) (hoff : d (id r) = 0) :
    ∀ a ∈ rows ++ [r], tally a = lines (id a) + (d + Pi.single (id r) (tally r) : Uuid → Tally) (id a) := by
  intro a ha
  rcases List.mem_append.1 ha with ha | ha
  · simp [h a ha, hnew a ha]
  · rw [List.mem_singleton.1 ha]
    simp [hlines, hoff]

theorem Balanced.insertBillRun (h : s.Balanced dB dI dL) (b : BillRun)
    (hnew : ∀ c ∈ s.billRuns, c.id ≠ b.id) (hlines : ∀ t ∈ s.transactions, t.billRunId ≠ b.id)
    (hoff : dB b.id = 0) :
    Balanced { s with billRuns := s.billRuns ++ [b] } (dB + Pi.single b.id b.tally) dI dL :=
  ⟨offset_new_row dB BillRun.id BillRun.tally _ b _ h.billRun hnew (tallyBy_eq_zero hlines) hoff,
    h.invoice, h.licence⟩

theorem Balanced.insertInvoice (h : s.Balanced dB dI dL) (i : Invoice)
    (hnew : ∀ j ∈ s.invoices, j.id ≠ i.id) (hlines : ∀ t ∈ s.transactions, t.invoiceId ≠ i.id)
    (hoff : dI i.id = 0) :
    Balanced { s with invoices := s.invoices ++ [i] } dB (dI + Pi.single i.id i.tally) dL :=
  ⟨h.billRun,
    offset_new_row dI Invoice.id Invoice.tally _ i _ h.invoice hnew (tallyBy_eq_zero hlines) hoff,
    h.licence⟩

theorem Balanced.insertLicence (h : s.Balanced dB dI dL) (l : Licence)
    (hnew : ∀ j ∈ s.licences, j.id ≠ l.id) (hlines : ∀ t ∈ s.transactions, t.licenceId ≠ l.id)
    (hoff : dL l.id = 0) :
    Balanced { s with licences := s.licences ++ [l] } dB dI (dL + Pi.single l.id l.tally) :=
  ⟨h.billRun, h.invoice,
    offset_new_row dL Licence.id Licence.tally _ l _ h.licence hnew (tallyBy_eq_zero hlines) hoff⟩

theorem Balanced.insertTransaction (h : s.Balanced dB dI dL) (t : Transaction) :
    Balanced { s with transactions := s.transactions ++ [t] }
      (dB - Pi.single t.billRunId t.tally) (dI - Pi.single t.invoiceId t.tally)
      (dL - Pi.single t.licenceId t.tally) := by
  refine ⟨fun b hb => ?_, fun i hi => ?_, fun l hl => ?_⟩ <;>
    simp only [tallyBy_append, tallyBy_single, Pi.sub_apply]
  · rw [h.billRun b hb]
    abel
  · rw [h.invoice i hi]
    abel
  · rw [h.licence l hl]
    abel

theorem Balanced.filterTransactions (h : s.Balanced dB dI dL) (q : Transaction → Bool) :
    Balanced { s with transactions := s.transactions.filter q }
      (dB + tallyBy (s.transactions.filter (!q ·)) (·.billRunId))
      (dI + tallyBy (s.transactions.filter (!q ·)) (·.invoiceId))
      (dL + tallyBy (s.transactions.filter (!q ·)) (·.licenceId)) := by
  refine ⟨fun b hb => ?_, fun i hi => ?_, fun l hl => ?_⟩ <;> simp only [Pi.add_apply]
  · rw [h.billRun b hb, tallyBy_filter _ q]
    abel
  · rw [h.invoice i hi, tallyBy_filter _ q]
    abel
  · rw [h.licence l hl, tallyBy_filter _ q]
    abel

theorem Balanced.filterRows (h : s.Balanced dB dI dL) (fb : BillRun → Bool)
    (fi : Invoice → Bool) (fl : Licence → Bool) :
    Balanced { s with
      billRuns := s.billRuns.filter fb
      invoices := s.invoices.filter fi
      licences := s.licences.filter fl } dB dI dL :=
  ⟨fun b hb => h.billRun b (List.mem_of_mem_filter hb),
    fun i hi => h.invoice i (List.mem_of_mem_filter hi),
    fun l hl => h.licence l (List.mem_of_mem_filter hl)⟩

theorem Balanced.delete (h : s.Balanced dB dI dL) (q : Transaction → Bool)
    (fb : BillRun → Bool) (fi : Invoice → Bool) (fl : Licence → Bool) :
    Balanced { s with
      transactions := s.transactions.filter q
      billRuns := s.billRuns.filter fb
      invoices := s.invoices.filter fi
      licences := s.licences.filter fl }
      (dB + tallyBy (s.transactions.filter (!q ·)) (·.billRunId))
      (dI + tallyBy (s.transactions.filter (!q ·)) (·.invoiceId))
      (dL + tallyBy (s.transactions.filter (!q ·)) (·.licenceId)) :=
  let h' := (h.filterTransactions q).filterRows fb fi fl
  ⟨h'.billRun, h'.invoice, h'.licence⟩

theorem Balanced.of_rows {s' : Store} (h : s.Balanced dB dI dL) (hb : s'.billRuns = s.billRuns)
    (hi : s'.invoices = s.invoices) (hl : s'.licences = s.licences)
    (ht : s'.transactions = s.transactions) : s'.Balanced dB dI dL :=
  ⟨by rw [hb, ht]; exact h.billRun, by rw [hi, ht]; exact h.invoice,
    by rw [hl, ht]; exact h.licence⟩

theorem Balanced.congr (h : s.Balanced dB dI dL) {dB' dI' dL' : Uuid → Tally}
    (hB : ∀ b ∈ s.billRuns, dB b.id = dB' b.id) (hI : ∀ i ∈ s.invoices, dI i.id = dI' i.id)
    (hL : ∀ l ∈ s.licences, dL l.id = dL' l.id) : s.Balanced dB' dI' dL' :=
  ⟨fun b hb => hB b hb ▸ h.billRun b hb, fun i hi => hI i hi ▸ h.invoice i hi,
    fun l hl => hL l hl ▸ h.licence l hl⟩

/-- A write that keeps every row's identifier and tally keeps the balance. -/
theorem Balanced.mapBillRun_keep (h : s.Balanced dB dI dL) (X : Uuid) {f : BillRun → BillRun}
    (hf : ∀ b, (f b).id = b.id ∧ (f b).tally = b.tally) : (s.mapBillRun X f).Balanced dB dI dL := by
  simpa using h.mapBillRun X (δ := 0) (by simpa using hf)

theorem Balanced.mapInvoice_keep (h : s.Balanced dB dI dL) (I : Uuid) {g : Invoice → Invoice}
    (hg : ∀ i, (g i).id = i.id ∧ (g i).tally = i.tally) : (s.mapInvoice I g).Balanced dB dI dL := by
  simpa using h.mapInvoice I (δ := 0) (by simpa using hg)

end Store

end ChargeLedger
