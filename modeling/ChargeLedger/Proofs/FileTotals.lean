import Mathlib
import ChargeLedger.Proofs.FilingSteps
import ChargeLedger.Proofs.FileLayout

/-!
# The transaction file against the ledger

The body records of a bill run's file are its `rows`: the lines on it with a charge whose invoice
carries a transaction reference, each with that reference and the invoice's net. The tail shows
the summary written when the bill run was generated, and the references were stamped when it was
sent. These are separate views of the same invoices, and once the bill run is sent they agree
(`Reachable.file_agrees_with_ledger`):

* the rows are one per line with a charge on a billable invoice, and every billable invoice of
  the bill run has one;
* the body values add up to the tail's invoice value plus its credit note value, in the wrapping
  arithmetic the ledger keeps them in;
* the body shows one reference for each invoice and credit note the tail counts;
* the type column of each row is the letter its reference carries.

All of it rests on what a sent bill run files (`Reachable.filing`), on tallies rolling up from
the lines (`Store.RolledUp`) and on references being handed out once
(`Store.Handed.reference_unique`).
-/

set_option autoImplicit false

namespace ChargeLedger

open Store TransactionFile

/-! ## Sums over filtered lists -/

instance int64AddCommMonoid : AddCommMonoid Int64 where
  add_assoc := Int64.add_assoc
  zero_add := Int64.zero_add
  add_zero := Int64.add_zero
  add_comm := Int64.add_comm
  nsmul := nsmulRec

section Sums

variable {α M : Type} [AddCommMonoid M]

theorem sum_filter_ite (L : List α) (p : α → Bool) (f : α → M) :
    ((L.filter p).map f).sum = (L.map fun a => if p a then f a else 0).sum := by
  induction L with
  | nil => rfl
  | cons a L ih => by_cases hp : p a <;> simp [hp, ih]

theorem sum_filter_of_zero {L : List α} {p : α → Bool} {f : α → M}
    (h : ∀ a ∈ L, p a = false → f a = 0) : ((L.filter p).map f).sum = (L.map f).sum := by
  rw [sum_filter_ite]
  refine congrArg List.sum (List.map_congr_left fun a ha => ?_)
  cases hp : p a
  · exact (h a ha hp).symm
  · rfl

theorem sum_fibres {ks : List Uuid} (hks : ks.Nodup) (key : α → Uuid) (f : α → M) (L : List α) :
    (ks.map fun k => ((L.filter (key · == k)).map f).sum).sum =
      ((L.filter (key · ∈ ks)).map f).sum := by
  induction ks with
  | nil => simp
  | cons k ks ih =>
    rw [List.nodup_cons] at hks
    rw [List.map_cons, List.sum_cons, ih hks.2, sum_filter_ite, sum_filter_ite, sum_filter_ite,
      ← List.sum_map_add]
    refine congrArg List.sum (List.map_congr_left fun a _ => ?_)
    by_cases hk : key a = k
    · simp [hk, hks.1]
    · simp [hk]

end Sums

theorem map_filterMap_of_back {α β : Type} {g : α → Option β} {back : β → α}
    (h : ∀ a b, g a = some b → back b = a) (L : List α) :
    (L.filterMap g).map back = L.filter fun a => (g a).isSome := by
  induction L with
  | nil => rfl
  | cons a L ih =>
    cases hg : g a with
    | none => simp [hg, ih]
    | some b => simp [hg, ih, h a b hg]

theorem Transaction.signedValue_of_charge_zero {t : Transaction} (h : t.chargeValue = 0) :
    t.signedValue = 0 := by
  simp [Transaction.signedValue, h]

/-! ## The rows of a file -/

namespace TransactionFile

variable {s : Store} {X : Uuid} {r : Row} {t : Transaction}

def rowOf (s : Store) (X : Uuid) (t : Transaction) : Option Row :=
  if t.billRunId != X || t.chargeValue == 0 then none
  else
    match s.invoice? t.invoiceId with
    | some inv => inv.transactionReference.map fun r => ⟨t, r, inv.tally.net⟩
    | none => none

theorem rows_eq (s : Store) (X : Uuid) :
    rows s X = Store.sortBy rowOrder (s.transactions.filterMap (rowOf s X)) := rfl

theorem rowOf_eq_some :
    rowOf s X t = some r ↔ r.line = t ∧ t.billRunId = X ∧ t.chargeValue ≠ 0 ∧
      ∃ inv, s.invoice? t.invoiceId = some inv ∧ inv.transactionReference = some r.reference ∧
        r.invoiceNet = inv.tally.net := by
  unfold rowOf
  by_cases hX : t.billRunId = X
  · by_cases hc : t.chargeValue = 0
    · simp [hc]
    · have hcond : (t.billRunId != X || t.chargeValue == 0) = false := by simp [hX, hc]
      cases hinv : s.invoice? t.invoiceId with
      | none => simp [hcond]
      | some inv =>
        simp only [hcond, Bool.false_eq_true, ↓reduceIte, Option.map_eq_some_iff]
        constructor
        · rintro ⟨x, hx, rfl⟩
          exact ⟨rfl, hX, hc, inv, rfl, hx, rfl⟩
        · rintro ⟨rfl, -, -, w, hw, hx, hnet⟩
          obtain rfl : inv = w := Option.some.inj hw
          exact ⟨r.reference, hx, by rw [← hnet]⟩
  · simp [hX]

theorem rowOf_isSome :
    (rowOf s X t).isSome = (t.billRunId == X && t.chargeValue != 0 &&
      (s.invoice? t.invoiceId).any (·.transactionReference.isSome)) := by
  unfold rowOf
  by_cases hX : t.billRunId = X
  · by_cases hc : t.chargeValue = 0
    · simp [hc]
    · cases s.invoice? t.invoiceId <;> simp [hX, hc]
  · simp [hX]

theorem mem_rows :
    r ∈ rows s X ↔ r.line ∈ s.transactions ∧ r.line.billRunId = X ∧ r.line.chargeValue ≠ 0 ∧
      ∃ inv, s.invoice? r.line.invoiceId = some inv ∧
        inv.transactionReference = some r.reference ∧ r.invoiceNet = inv.tally.net := by
  rw [rows_eq, mem_sortBy, List.mem_filterMap]
  constructor
  · rintro ⟨t, ht, hr⟩
    obtain ⟨rfl, hr⟩ := rowOf_eq_some.1 hr
    exact ⟨ht, hr⟩
  · rintro ⟨ht, hr⟩
    exact ⟨r.line, ht, rowOf_eq_some.2 ⟨rfl, hr⟩⟩

theorem rows_lines_perm (s : Store) (X : Uuid) :
    ((rows s X).map (·.line)).Perm (s.transactions.filter fun t =>
      t.billRunId == X && t.chargeValue != 0 &&
        (s.invoice? t.invoiceId).any (·.transactionReference.isSome)) := by
  rw [rows_eq]
  refine ((sortBy_perm _ _).map _).trans ?_
  rw [map_filterMap_of_back fun _ _ h => (rowOf_eq_some.1 h).1]
  exact List.Perm.of_eq (List.filter_congr fun _ _ => rowOf_isSome)

end TransactionFile

/-! ## Billable invoices and their lines -/

namespace Store

variable {s : Store} {X : Uuid}

def billedLines (s : Store) (X : Uuid) : List Transaction :=
  s.transactions.filter fun t =>
    t.billRunId == X && t.chargeValue != 0 && (s.invoice? t.invoiceId).any (·.isBillable)

theorem mem_billableInvoices {i : Invoice} :
    i ∈ s.billableInvoices X ↔ i ∈ s.invoices ∧ i.billRunId = X ∧ i.isBillable = true := by
  rw [billableInvoices, List.mem_filter, mem_invoicesOf, and_assoc]

theorem Sound.invoice?_of_line (hs : s.Sound) {t : Transaction} (ht : t ∈ s.transactions) :
    ∃ inv ∈ s.invoices, s.invoice? t.invoiceId = some inv ∧ inv.id = t.invoiceId ∧
      inv.billRunId = t.billRunId := by
  obtain ⟨inv, hinv, e⟩ := List.mem_map.1 (hs.transaction_invoice_key ht)
  simp only [Prod.mk.injEq] at e
  exact ⟨inv, hinv, e.1 ▸ hs.invoice?_of_mem hinv, e.1, e.2⟩

theorem Sound.mem_billableIds (hs : s.Sound) {t : Transaction} (ht : t ∈ s.transactions) :
    t.invoiceId ∈ (s.billableInvoices X).map (·.id) ↔
      t.billRunId = X ∧ (s.invoice? t.invoiceId).any (·.isBillable) = true := by
  obtain ⟨inv, hinv, hfind, hid, hbr⟩ := hs.invoice?_of_line ht
  rw [hfind, Option.any_some]
  constructor
  · intro hm
    obtain ⟨-, hiX, hib⟩ := mem_billableInvoices.1 (hs.mem_billable_of_id hinv (hid ▸ hm))
    exact ⟨hbr.symm.trans hiX, hib⟩
  · rintro ⟨rfl, hib⟩
    exact List.mem_map.2 ⟨inv, mem_billableInvoices.2 ⟨hinv, hbr, hib⟩, hid⟩

theorem summaryOf_value (s : Store) (X : Uuid) :
    (s.summaryOf X).invoiceValue + -(s.summaryOf X).creditNoteValue =
      ((s.billableInvoices X).map (·.tally.net)).sum := by
  rw [summaryOf, Summary.ofInvoices_value, List.filter_map, List.map_map]
  rfl

theorem summaryOf_count (s : Store) (X : Uuid) :
    (s.summaryOf X).invoiceCount + (s.summaryOf X).creditNoteCount =
      Int64.ofNat (s.billableInvoices X).length := by
  rw [summaryOf, Summary.ofInvoices_count, List.filter_map, List.length_map]
  rfl

theorem RolledUp.billable_value (hr : s.RolledUp) (hs : s.Sound) (X : Uuid) :
    ((s.billableInvoices X).map (·.tally.net)).sum =
      ((s.transactions.filter fun t => t.invoiceId ∈ (s.billableInvoices X).map (·.id)).map
        (·.signedValue)).sum := by
  refine Eq.trans ?_ (sum_fibres (billable_ids_nodup hs.invoiceIds_nodup X) Transaction.invoiceId
    Transaction.signedValue s.transactions)
  rw [List.map_map]
  exact congrArg List.sum (List.map_congr_left fun i hi =>
    hr.invoice_net i (mem_billableInvoices.1 hi).1)

theorem RolledUp.charged_line (hr : s.RolledUp) {i : Invoice} (hi : i ∈ s.invoices)
    (hb : i.isBillable = true) :
    ∃ t ∈ s.transactions, t.invoiceId = i.id ∧ t.chargeValue ≠ 0 := by
  have hnet : i.tally.net ≠ 0 := by
    simp only [Invoice.isBillable, billable, Bool.and_eq_true, bne_iff_ne] at hb
    exact hb.2
  rw [hr.invoice_net i hi] at hnet
  obtain ⟨v, hv, hv0⟩ := List.exists_mem_ne_zero_of_sum_ne_zero (M := Int64) hnet
  obtain ⟨t, ht, rfl⟩ := List.mem_map.1 hv
  obtain ⟨ht, hid⟩ := List.mem_filter.1 ht
  exact ⟨t, ht, by simpa using hid, fun hc => hv0 (Transaction.signedValue_of_charge_zero hc)⟩

end Store

/-! ## What a sent bill run's file shows -/

namespace TransactionFile

variable {s : Store} {b : BillRun}

theorem row_invoice (hs : s.Sound) {X : Uuid} {r : Row} (hr : r ∈ rows s X) :
    ∃ inv ∈ s.invoicesOf X, inv.id = r.line.invoiceId ∧
      s.invoice? r.line.invoiceId = some inv ∧
      inv.transactionReference = some r.reference ∧ r.invoiceNet = inv.tally.net := by
  obtain ⟨ht, hX, -, inv, hfind, href, hnet⟩ := mem_rows.1 hr
  obtain ⟨inv', hinv', hfind', hid, hbr⟩ := hs.invoice?_of_line ht
  obtain rfl : inv' = inv := Option.some.inj (hfind'.symm.trans hfind)
  exact ⟨inv', mem_invoicesOf.2 ⟨hinv', hbr.trans hX⟩, hid, hfind, href, hnet⟩

section Sent

variable (hs : s.Sound) (hf : s.Filed b) (hsent : b.status.sent = true)
include hs hf hsent

omit hs in
theorem referenced_of_billable {i : Invoice} (hi : i ∈ s.billableInvoices b.id) :
    ∃ x, i.transactionReference = some x := by
  obtain ⟨hinv, hX, hib⟩ := mem_billableInvoices.1 hi
  refine Option.isSome_iff_exists.1 ?_
  rw [hf.referenced hsent _ (mem_invoicesOf.2 ⟨hinv, hX⟩), hib]

theorem billable_of_row {r : Row} (hr : r ∈ rows s b.id) :
    ∃ inv ∈ s.billableInvoices b.id, inv.id = r.line.invoiceId ∧
      inv.transactionReference = some r.reference ∧ r.invoiceNet = inv.tally.net := by
  obtain ⟨inv, hinv, hid, -, href, hnet⟩ := row_invoice hs hr
  have hib : inv.isBillable = true := by
    rw [← hf.referenced hsent _ hinv, href]
    rfl
  exact ⟨inv, List.mem_filter.2 ⟨hinv, hib⟩, hid, href, hnet⟩

theorem rows_lines : ((rows s b.id).map (·.line)).Perm (s.billedLines b.id) := by
  refine (rows_lines_perm s b.id).trans (List.Perm.of_eq (List.filter_congr fun t ht => ?_))
  by_cases hX : t.billRunId = b.id
  · obtain ⟨inv, hinv, hfind, -, hbr⟩ := hs.invoice?_of_line ht
    rw [hfind, Option.any_some, Option.any_some,
      hf.referenced hsent _ (mem_invoicesOf.2 ⟨hinv, hbr.trans hX⟩)]
  · have hne : (t.billRunId == b.id) = false := by simpa using hX
    simp only [hne, Bool.false_and]

theorem exists_row_of_billable (hr : s.RolledUp) {i : Invoice} (hi : i ∈ s.billableInvoices b.id) :
    ∃ r ∈ rows s b.id, r.line.invoiceId = i.id ∧ i.transactionReference = some r.reference := by
  obtain ⟨hinv, hX, hib⟩ := mem_billableInvoices.1 hi
  obtain ⟨t, ht, hid, hc⟩ := hr.charged_line hinv hib
  obtain ⟨x, hx⟩ := referenced_of_billable hf hsent hi
  have hrow : (⟨t, x, i.tally.net⟩ : Row) ∈ rows s b.id :=
    mem_rows.2 ⟨ht, (hs.lines_of_invoice hinv t ht hid).trans hX, hc, i,
      hid ▸ hs.invoice?_of_mem hinv, hx, rfl⟩
  exact ⟨_, hrow, hid, hx⟩

theorem shows_iff_billable (hr : s.RolledUp) {i : Invoice} (hi : i ∈ s.invoicesOf b.id) :
    (∃ r ∈ rows s b.id, r.line.invoiceId = i.id) ↔ i.isBillable = true := by
  constructor
  · rintro ⟨r, hrow, hid⟩
    obtain ⟨inv, hinv, hinvid, -⟩ := billable_of_row hs hf hsent hrow
    obtain ⟨hinv', -, hib⟩ := mem_billableInvoices.1 hinv
    rwa [hs.invoice_eq hinv' (mem_invoicesOf.1 hi).1 (hinvid.trans hid)] at hib
  · intro hib
    obtain ⟨r, hrow, hid, -⟩ :=
      exists_row_of_billable hs hf hsent hr (List.mem_filter.2 ⟨hi, hib⟩)
    exact ⟨r, hrow, hid⟩

theorem rows_value (hr : s.RolledUp) :
    ((rows s b.id).map (·.line.signedValue)).sum =
      b.summary.invoiceValue + -b.summary.creditNoteValue := by
  have hkeys : ∀ t ∈ s.transactions, (t.billRunId == b.id && t.chargeValue != 0 &&
      (s.invoice? t.invoiceId).any (·.isBillable)) =
      (t.chargeValue != 0 && decide (t.invoiceId ∈ (s.billableInvoices b.id).map (·.id))) := by
    intro t ht
    rw [Bool.eq_iff_iff]
    simp only [Bool.and_eq_true, beq_iff_eq, decide_eq_true_eq, hs.mem_billableIds ht]
    tauto
  calc ((rows s b.id).map (·.line.signedValue)).sum
      = ((s.billedLines b.id).map (·.signedValue)).sum := by
        have := ((rows_lines hs hf hsent).map Transaction.signedValue).sum_eq
        rwa [List.map_map] at this
    _ = (((s.transactions.filter fun t => t.invoiceId ∈ (s.billableInvoices b.id).map (·.id)).filter
          (·.chargeValue != 0)).map (·.signedValue)).sum := by
        rw [billedLines, List.filter_filter, List.filter_congr hkeys]
    _ = ((s.billableInvoices b.id).map (·.tally.net)).sum := by
        rw [sum_filter_of_zero fun t _ hc => Transaction.signedValue_of_charge_zero (by simpa using hc),
          hr.billable_value hs]
    _ = b.summary.invoiceValue + -b.summary.creditNoteValue := by
        rw [← summaryOf_value, hf.summary (Status.summarised_of_sent hsent)]

theorem rows_references (hh : s.Handed) (hb : b ∈ s.billRuns) (hr : s.RolledUp) :
    Int64.ofNat ((rows s b.id).map (·.reference)).dedup.length =
      b.summary.invoiceCount + b.summary.creditNoteCount := by
  let refOf : Invoice → String := fun i => i.transactionReference.getD ""
  have hrefOf : ∀ i ∈ s.billableInvoices b.id, i.transactionReference = some (refOf i) := by
    intro i hi
    obtain ⟨x, hx⟩ := referenced_of_billable hf hsent hi
    simp [refOf, hx]
  -- references are handed out once, so the billable invoices show distinct ones
  have hnodup : ((s.billableInvoices b.id).map refOf).Nodup := by
    refine ((billable_ids_nodup hs.invoiceIds_nodup b.id).of_map _).map_on fun i hi j hj e => ?_
    obtain ⟨hi', hiX, -⟩ := mem_billableInvoices.1 hi
    obtain ⟨hj', hjX, -⟩ := mem_billableInvoices.1 hj
    exact hh.reference_unique hi' hj' hb hb hiX.symm hjX.symm rfl (hrefOf i hi)
      (e ▸ hrefOf j hj)
  have hmem : ∀ x, x ∈ ((rows s b.id).map (·.reference)).dedup ↔
      x ∈ (s.billableInvoices b.id).map refOf := by
    intro x
    rw [List.mem_dedup, List.mem_map, List.mem_map]
    constructor
    · rintro ⟨r, hrow, rfl⟩
      obtain ⟨inv, hinv, -, href, -⟩ := billable_of_row hs hf hsent hrow
      exact ⟨inv, hinv, by simp [refOf, href]⟩
    · rintro ⟨i, hi, rfl⟩
      obtain ⟨r, hrow, -, href⟩ := exists_row_of_billable hs hf hsent hr hi
      exact ⟨r, hrow, by simp [refOf, href]⟩
  have hlen := ((List.perm_ext_iff_of_nodup (List.nodup_dedup _) hnodup).2 hmem).length_eq
  rw [hlen, List.length_map, hf.summary (Status.summarised_of_sent hsent), summaryOf_count]

theorem rows_letters {r : Row} (hr : r ∈ rows s b.id) :
    ∃ n : Int64, r.reference = b.region.name ++ (if r.invoiceNet < 0 then "C" else "I") ++
      padded 7 n.toInt ++ "T" := by
  obtain ⟨inv, hinv, -, -, href, hnet⟩ := row_invoice hs hr
  obtain ⟨n, hn⟩ := hf.letters hsent inv hinv _ href
  exact ⟨n, by rw [hn, hnet]; rfl⟩

end Sent

end TransactionFile

/-- The transaction file of a sent bill run, billed ones among them, agrees with the ledger in
every reachable store:
* the lines its body records carry are the bill run's lines with a charge on a billable invoice,
  each once, and the invoices that show are exactly its billable invoices;
* the body values add up to the tail's invoice value plus its credit note value;
* the distinct references in the body count the invoices and credit notes of the tail;
* the type column of every body record is the letter its reference carries. -/
theorem Reachable.file_agrees_with_ledger {ok : Env → Prop} {s : Store} (h : Reachable ok s)
    {b : BillRun} (hb : b ∈ s.billRuns) (hsent : b.status.sent = true) :
    ((rows s b.id).map (·.line)).Perm (s.billedLines b.id) ∧
      (∀ i ∈ s.invoicesOf b.id, (∃ r ∈ rows s b.id, r.line.invoiceId = i.id) ↔
        i.isBillable = true) ∧
      ((rows s b.id).map (·.line.signedValue)).sum =
        b.summary.invoiceValue + -b.summary.creditNoteValue ∧
      Int64.ofNat ((rows s b.id).map (·.reference)).dedup.length =
        b.summary.invoiceCount + b.summary.creditNoteCount ∧
      ∀ r ∈ rows s b.id, ∃ n : Int64, r.reference = b.region.name ++
        (if r.invoiceNet < 0 then "C" else "I") ++ padded 7 n.toInt ++ "T" := by
  have hs := h.consistent.sound
  have hr := h.tallies_roll_up
  have hf : s.Filed b := h.filing b.id b (hs.billRun?_of_mem hb)
  exact ⟨rows_lines hs hf hsent, fun i hi => shows_iff_billable hs hf hsent hr hi,
    rows_value hs hf hsent hr, rows_references hs hf hsent h.handed.1 hb hr,
    fun r hrow => rows_letters hs hf hsent hrow⟩

/-- The bill run sent in `sentRun` is billed, its file bills its one line, and the file agrees
with the ledger. -/
theorem sentRun_file_agrees :
    ∃ b ∈ sentRun.billRuns, b.status = .billed ∧ (rows sentRun b.id).length = 1 ∧
      ((rows sentRun b.id).map (·.line)).Perm (sentRun.billedLines b.id) ∧
      (∀ i ∈ sentRun.invoicesOf b.id, (∃ r ∈ rows sentRun b.id, r.line.invoiceId = i.id) ↔
        i.isBillable = true) ∧
      ((rows sentRun b.id).map (·.line.signedValue)).sum =
        b.summary.invoiceValue + -b.summary.creditNoteValue ∧
      Int64.ofNat ((rows sentRun b.id).map (·.reference)).dedup.length =
        b.summary.invoiceCount + b.summary.creditNoteCount ∧
      ∀ r ∈ rows sentRun b.id, ∃ n : Int64, r.reference = b.region.name ++
        (if r.invoiceNet < 0 then "C" else "I") ++ padded 7 n.toInt ++ "T" := by
  have hreach : Reachable (fun _ => True) sentRun :=
    .step _ _ trivial <| .step _ _ trivial <| .step _ _ trivial <| .step _ _ trivial <|
      .step _ _ trivial <| .seeded ⟨0⟩
  obtain ⟨b, hb⟩ := Option.isSome_iff_exists.1 (by decide +kernel :
    (sentRun.billRun? (Uuid.ofSerial 36)).isSome = true)
  have hst : (sentRun.billRun? (Uuid.ofSerial 36)).map (·.status) = some .billed := by
    decide +kernel
  have hrows : (rows sentRun (Uuid.ofSerial 36)).length = 1 := by decide +kernel
  rw [hb, Option.map_some, Option.some.injEq] at hst
  rw [← Store.id_of_billRun? hb] at hrows
  have hmem := List.mem_of_find?_eq_some hb
  exact ⟨b, hmem, hst, hrows,
    Reachable.file_agrees_with_ledger hreach hmem (by rw [hst]; rfl)⟩

end ChargeLedger
