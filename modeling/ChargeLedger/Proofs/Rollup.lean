import Mathlib.Algebra.BigOperators.Group.List.Basic
import ChargeLedger.Proofs.Requests

/-!
# Tallies roll up from lines to bill runs

A licence, an invoice and a bill run each keep a tally that writes move by deltas and never
recount. In a consistent store the tallies still add up: each row's tally is the tally of the
lines beneath it, so a bill run's tally is the sum of its invoices' and an invoice's the sum
of its licences', and every net total is the sum of the signed values of the lines beneath
it. The counters wrap, and the sums are taken in the same wrapping arithmetic, so no bound on
them is needed. `Reachable.tallies_roll_up` says all of it of every store that requests lead
to from a seeded store, whatever they returned.
-/

set_option autoImplicit false

namespace ChargeLedger

/-! ## Sums over distinct keys -/

theorem sum_map_single {ks : List Uuid} (hks : ks.Nodup) (j : Uuid) (x : Tally) :
    (ks.map fun k => Pi.single j x k).sum = if j ∈ ks then x else 0 := by
  induction ks with
  | nil => simp
  | cons k ks ih =>
    rw [List.nodup_cons] at hks
    rw [List.map_cons, List.sum_cons, ih hks.2]
    rcases eq_or_ne k j with rfl | hkj
    · simp [hks.1]
    · simp [hkj, hkj.symm]

theorem sum_tallyBy {ks : List Uuid} (hks : ks.Nodup) (ts : List Transaction)
    (key : Transaction → Uuid) :
    (ks.map (tallyBy ts key)).sum = ((ts.filter (key · ∈ ks)).map Transaction.tally).sum := by
  induction ts with
  | nil => simp [show tallyBy [] key = fun _ => 0 from funext (tallyBy_nil key)]
  | cons t ts ih =>
    have split : ks.map (tallyBy (t :: ts) key) =
        ks.map fun k => (Pi.single (key t) t.tally : Uuid → Tally) k + tallyBy ts key k := by
      rw [tallyBy_cons]
      rfl
    rw [split, List.sum_map_add, sum_map_single hks, ih, List.filter_cons]
    by_cases hk : key t ∈ ks <;> simp [hk]

theorem tally_filter_eq_tallyBy {ts : List Transaction} {p : Transaction → Bool}
    {key : Transaction → Uuid} {k : Uuid} (h : ∀ t ∈ ts, p t = true ↔ key t = k) :
    ((ts.filter p).map Transaction.tally).sum = tallyBy ts key k := by
  unfold tallyBy
  rw [List.filter_congr fun t ht => Bool.eq_iff_iff.2 ((h t ht).trans beq_iff_eq.symm)]

theorem sum_rows {α : Type} {rows : List α} (id : α → Uuid) (tally : α → Tally)
    {ts : List Transaction} {child parent : Transaction → Uuid} {k : Uuid}
    (hrows : ∀ r ∈ rows, tally r = tallyBy ts child (id r)) (hnodup : (rows.map id).Nodup)
    (hlines : ∀ t ∈ ts, child t ∈ rows.map id ↔ parent t = k) :
    (rows.map tally).sum = tallyBy ts parent k :=
  calc (rows.map tally).sum
      = ((rows.map id).map (tallyBy ts child)).sum := by
        rw [List.map_map]
        exact congrArg List.sum (List.map_congr_left hrows)
    _ = ((ts.filter (child · ∈ rows.map id)).map Transaction.tally).sum :=
        sum_tallyBy hnodup ts child
    _ = tallyBy ts parent k := tally_filter_eq_tallyBy fun t ht => by simpa using hlines t ht

namespace Store

variable {s : Store}

/-! ## Rows and the lines beneath them -/

theorem Exact.billRun_tally (h : s.Exact) {b : BillRun} (hb : b ∈ s.billRuns) :
    b.tally = tallyBy s.transactions (·.billRunId) b.id := by
  simpa using Balanced.billRun h b hb

theorem Exact.invoice_tally (h : s.Exact) {i : Invoice} (hi : i ∈ s.invoices) :
    i.tally = tallyBy s.transactions (·.invoiceId) i.id := by
  simpa using Balanced.invoice h i hi

theorem Exact.licence_tally (h : s.Exact) {l : Licence} (hl : l ∈ s.licences) :
    l.tally = tallyBy s.transactions (·.licenceId) l.id := by
  simpa using Balanced.licence h l hl

theorem Sound.invoiceId_mem_iff (h : s.Sound) {t : Transaction} (ht : t ∈ s.transactions)
    (B : Uuid) :
    t.invoiceId ∈ (s.invoices.filter (·.billRunId == B)).map (·.id) ↔ t.billRunId = B := by
  constructor
  · intro hm
    obtain ⟨i, hi, e⟩ := List.mem_map.1 hm
    rw [List.mem_filter, beq_iff_eq] at hi
    rw [h.lines_of_invoice hi.1 t ht e.symm, hi.2]
  · rintro rfl
    obtain ⟨i, hi, e⟩ := List.mem_map.1 (h.transaction_invoice_key ht)
    simp only [Prod.mk.injEq] at e
    exact List.mem_map.2 ⟨i, List.mem_filter.2 ⟨hi, by simp [e.2]⟩, e.1⟩

theorem Sound.licenceId_mem_iff (h : s.Sound) {t : Transaction} (ht : t ∈ s.transactions)
    (I : Uuid) :
    t.licenceId ∈ (s.licences.filter (·.invoiceId == I)).map (·.id) ↔ t.invoiceId = I := by
  constructor
  · intro hm
    obtain ⟨l, hl, e⟩ := List.mem_map.1 hm
    rw [List.mem_filter, beq_iff_eq] at hl
    rw [(h.lines_of_licence hl.1 t ht e.symm).1, hl.2]
  · rintro rfl
    obtain ⟨l, hl, e⟩ := List.mem_map.1 (h.transaction_key ht)
    simp only [Prod.mk.injEq] at e
    exact List.mem_map.2 ⟨l, List.mem_filter.2 ⟨hl, by simp [e.2.1]⟩, e.1⟩

theorem Sound.invoices_of_nodup (h : s.Sound) (B : Uuid) :
    ((s.invoices.filter (·.billRunId == B)).map (·.id)).Nodup := by
  have hall := h.invoiceIds_nodup
  exact hall.sublist (List.filter_sublist.map _)

theorem Sound.licences_of_nodup (h : s.Sound) (I : Uuid) :
    ((s.licences.filter (·.invoiceId == I)).map (·.id)).Nodup := by
  have hall : (s.licences.map (·.id)).Nodup := by
    simpa [licenceKeys, Function.comp_def] using h.licences_nodup
  exact hall.sublist (List.filter_sublist.map _)

/-! ## One level and the next -/

theorem Consistent.billRun_tally_invoices (h : s.Consistent) {b : BillRun}
    (hb : b ∈ s.billRuns) : b.tally = Tally.sum ((s.invoicesOf b.id).map (·.tally)) := by
  have hrows : ((s.invoices.filter (·.billRunId == b.id)).map (·.tally)).sum = b.tally := by
    rw [h.exact.billRun_tally hb]
    exact sum_rows (·.id) (·.tally)
      (fun i hi => h.exact.invoice_tally (List.mem_of_mem_filter hi))
      (h.sound.invoices_of_nodup b.id) fun t ht => h.sound.invoiceId_mem_iff ht b.id
  rw [Tally.sum_eq, invoicesOf, ((sortBy_perm _ _).map _).sum_eq, hrows]

theorem Consistent.invoice_tally_licences (h : s.Consistent) {i : Invoice}
    (hi : i ∈ s.invoices) : i.tally = Tally.sum ((s.licencesOf i.id).map (·.tally)) := by
  have hrows : ((s.licences.filter (·.invoiceId == i.id)).map (·.tally)).sum = i.tally := by
    rw [h.exact.invoice_tally hi]
    exact sum_rows (·.id) (·.tally)
      (fun l hl => h.exact.licence_tally (List.mem_of_mem_filter hl))
      (h.sound.licences_of_nodup i.id) fun t ht => h.sound.licenceId_mem_iff ht i.id
  rw [Tally.sum_eq, licencesOf, ((sortBy_perm _ _).map _).sum_eq, hrows]

/-! ## Every level of a consistent store -/

theorem tallyBy_eq_sum (ts : List Transaction) (key : Transaction → Uuid) (k : Uuid) :
    tallyBy ts key k = Tally.sum ((ts.filter (key · == k)).map Transaction.tally) := by
  rw [tallyBy, Tally.sum_eq]

theorem net_tallyBy (ts : List Transaction) (key : Transaction → Uuid) (k : Uuid) :
    (tallyBy ts key k).net = ((ts.filter (key · == k)).map Transaction.signedValue).sum :=
  net_sum_tally _

/-- Each row carries the tally of the lines beneath it, each level adds up to the one above,
and every net total is the sum of the signed values of the lines beneath it. -/
structure RolledUp (s : Store) : Prop where
  licence : ∀ l ∈ s.licences,
    l.tally = Tally.sum ((s.transactions.filter (·.licenceId == l.id)).map Transaction.tally)
  invoice : ∀ i ∈ s.invoices,
    i.tally = Tally.sum ((s.transactions.filter (·.invoiceId == i.id)).map Transaction.tally)
  billRun : ∀ b ∈ s.billRuns,
    b.tally = Tally.sum ((s.transactions.filter (·.billRunId == b.id)).map Transaction.tally)
  invoice_licences : ∀ i ∈ s.invoices, i.tally = Tally.sum ((s.licencesOf i.id).map (·.tally))
  billRun_invoices : ∀ b ∈ s.billRuns, b.tally = Tally.sum ((s.invoicesOf b.id).map (·.tally))
  licence_net : ∀ l ∈ s.licences,
    l.tally.net = ((s.transactions.filter (·.licenceId == l.id)).map (·.signedValue)).sum
  invoice_net : ∀ i ∈ s.invoices,
    i.tally.net = ((s.transactions.filter (·.invoiceId == i.id)).map (·.signedValue)).sum
  billRun_net : ∀ b ∈ s.billRuns,
    b.tally.net = ((s.transactions.filter (·.billRunId == b.id)).map (·.signedValue)).sum

theorem Consistent.rolledUp (h : s.Consistent) : s.RolledUp where
  licence _ hl := (h.exact.licence_tally hl).trans (tallyBy_eq_sum _ _ _)
  invoice _ hi := (h.exact.invoice_tally hi).trans (tallyBy_eq_sum _ _ _)
  billRun _ hb := (h.exact.billRun_tally hb).trans (tallyBy_eq_sum _ _ _)
  invoice_licences _ hi := h.invoice_tally_licences hi
  billRun_invoices _ hb := h.billRun_tally_invoices hb
  licence_net _ hl := (congrArg Tally.net (h.exact.licence_tally hl)).trans (net_tallyBy _ _ _)
  invoice_net _ hi := (congrArg Tally.net (h.exact.invoice_tally hi)).trans (net_tallyBy _ _ _)
  billRun_net _ hb := (congrArg Tally.net (h.exact.billRun_tally hb)).trans (net_tallyBy _ _ _)

end Store

open Store

/-- In every store that requests lead to from a seeded store, whether they returned or failed,
the tallies of licences, invoices and bill runs are the tallies of the lines beneath them,
each level adds up to the one above, and every net total is the sum of signed values. -/
theorem Reachable.tallies_roll_up {ok : Env → Prop} {s : Store} (h : Reachable ok s) :
    s.RolledUp :=
  h.consistent.rolledUp

/-- After a bill run is created on a seeded ledger, its tallies add up. -/
theorem tallies_roll_up_after_create :
    Reachable (fun _ => True)
        (Request.step { now := ⟨0⟩ } (.create "wrls" "system" "A" "sroc") (Store.seeded ⟨0⟩)) ∧
      (Request.step { now := ⟨0⟩ } (.create "wrls" "system" "A" "sroc")
        (Store.seeded ⟨0⟩)).RolledUp :=
  have h := Reachable.step { now := ⟨0⟩ } (.create "wrls" "system" "A" "sroc") trivial
    (Reachable.seeded ⟨0⟩)
  ⟨h, Reachable.tallies_roll_up h⟩

end ChargeLedger
