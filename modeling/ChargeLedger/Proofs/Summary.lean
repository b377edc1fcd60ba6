import ChargeLedger.Proofs.Generated

/-!
# What a summary counts

A bill run's summary folds its invoices one at a time, each given as whether it is summarised
and its tally; a summarised invoice and one whose net is zero leave it as it was. What comes out
does not hang on the order: two invoices folded in either order give one summary
(`Summary.step_right_comm`), so invoices in any order give the same (`Summary.ofInvoices_perm`).
Each step moves the invoice value less the credit note value by the net of a billed invoice,
and the two counts together by one (`Summary.step_value`, `Summary.step_count`); over a list,
the difference is the sum of the nets of the billed invoices and the counts add up to their
number (`Summary.ofInvoices_value`, `Summary.ofInvoices_count`).

On a ledger, `Store.summaryOf` is the summary of a bill run's invoices as they stand. It reads
each invoice only through what it is, whether it is summarised and its tally
(`summaryOf_congr`), and an invoice added with a net of zero leaves it as it was
(`summaryOf_append_blank`).
-/

set_option autoImplicit false

namespace ChargeLedger

namespace Summary

attribute [ext] Summary

/-- Folding two invoices in either order gives one summary. -/
theorem step_right_comm (z : Summary) (x y : Bool × Tally) :
    step (step z x) y = step (step z y) x := by
  simp only [step]
  split_ifs <;> ext <;> simp only <;> grind

/-- Invoices in any order give one summary. -/
theorem ofInvoices_perm {l l' : List (Bool × Tally)} (h : l.Perm l') :
    ofInvoices l = ofInvoices l' :=
  h.foldl_eq' (fun x _ y _ z => step_right_comm z x y) _

theorem ofInvoices_cons_of_net {v : Bool × Tally} (h : v.2.net = 0) (l : List (Bool × Tally)) :
    ofInvoices (v :: l) = ofInvoices l := by
  have hstep : step {} v = {} := by simp [step, h]
  rw [ofInvoices, List.foldl_cons, hstep]
  rfl

/-- One invoice moves the invoice value less the credit note value by its net when it is
billed. -/
theorem step_value (z : Summary) (v : Bool × Tally) :
    (step z v).invoiceValue + -(step z v).creditNoteValue =
      z.invoiceValue + -z.creditNoteValue + if billable v.1 v.2 then v.2.net else 0 := by
  obtain ⟨summarised, t⟩ := v
  cases summarised
  · -- an invoice not summarised counts on the side its net falls, or not at all
    simp only [step, billable, Bool.not_false, Bool.true_and, Bool.false_eq_true, if_false]
    split_ifs <;> simp_all <;> grind
  · simp [step, billable]

/-- One invoice moves the two counts together by one when it is billed. -/
theorem step_count (z : Summary) (v : Bool × Tally) :
    (step z v).invoiceCount + (step z v).creditNoteCount =
      z.invoiceCount + z.creditNoteCount + if billable v.1 v.2 then 1 else 0 := by
  obtain ⟨summarised, t⟩ := v
  cases summarised
  · simp only [step, billable, Bool.not_false, Bool.true_and, Bool.false_eq_true, if_false]
    split_ifs <;> simp_all <;> grind
  · simp [step, billable]

theorem foldl_value (l : List (Bool × Tally)) (z : Summary) :
    (l.foldl step z).invoiceValue + -(l.foldl step z).creditNoteValue =
      z.invoiceValue + -z.creditNoteValue +
        ((l.filter fun v => billable v.1 v.2).map (·.2.net)).sum := by
  induction l generalizing z with
  | nil => simp
  | cons v l ih =>
    rw [List.foldl_cons, ih, step_value, List.filter_cons]
    by_cases hb : billable v.1 v.2 = true
    · rw [if_pos hb, if_pos hb, List.map_cons, List.sum_cons]
      grind
    · rw [if_neg hb, if_neg hb]
      grind

theorem foldl_count (l : List (Bool × Tally)) (z : Summary) :
    (l.foldl step z).invoiceCount + (l.foldl step z).creditNoteCount =
      z.invoiceCount + z.creditNoteCount +
        Int64.ofNat (l.filter fun v => billable v.1 v.2).length := by
  induction l generalizing z with
  | nil => simp
  | cons v l ih =>
    rw [List.foldl_cons, ih, step_count, List.filter_cons]
    by_cases hb : billable v.1 v.2 = true
    · rw [if_pos hb, if_pos hb, List.length_cons, Int64.ofNat_add]
      grind
    · rw [if_neg hb, if_neg hb]
      grind

/-- The invoice value less the credit note value is the sum of the nets of the billed
invoices. -/
theorem ofInvoices_value (l : List (Bool × Tally)) :
    (ofInvoices l).invoiceValue + -(ofInvoices l).creditNoteValue =
      ((l.filter fun v => billable v.1 v.2).map (·.2.net)).sum := by
  rw [ofInvoices, foldl_value]
  grind

/-- The invoices and credit notes counted are the billed invoices. -/
theorem ofInvoices_count (l : List (Bool × Tally)) :
    (ofInvoices l).invoiceCount + (ofInvoices l).creditNoteCount =
      Int64.ofNat (l.filter fun v => billable v.1 v.2).length := by
  rw [ofInvoices, foldl_count]
  grind

end Summary

namespace Store

/-- The summary of the invoices of bill run `X` as they stand, each counted as its flags say. -/
def summaryOf (s : Store) (X : Uuid) : Summary :=
  Summary.ofInvoices ((s.invoicesOf X).map fun i => (i.flags.summarised, i.tally))

/-- The summary of a bill run's invoices reads each invoice only through what it is, whether it
is summarised and its tally. -/
theorem summaryOf_congr {s s' : Store}
    (h : s'.invoices.map (fun i => (i.lineage, i.flags.summarised, i.tally)) =
      s.invoices.map fun i => (i.lineage, i.flags.summarised, i.tally)) (X : Uuid) :
    s'.summaryOf X = s.summaryOf X := by
  have hview := congrArg (List.map Prod.snd)
    (invoicesOf_congr (fun i => (i.flags.summarised, i.tally)) h X)
  rw [List.map_map, List.map_map] at hview
  exact congrArg Summary.ofInvoices hview

/-- An invoice added with a net of zero leaves every bill run's summary as it was. -/
theorem summaryOf_append_blank (s : Store) {c : Invoice} (hc : c.tally.net = 0) (X : Uuid) :
    ({ s with invoices := s.invoices ++ [c] } : Store).summaryOf X = s.summaryOf X := by
  let view : Invoice → Bool × Tally := fun i => (i.flags.summarised, i.tally)
  -- the invoices of a bill run are its invoices in the ledger's order, whose order is not counted
  have hnew : Summary.ofInvoices
      ((({ s with invoices := s.invoices ++ [c] } : Store).invoicesOf X).map view) =
      Summary.ofInvoices (((s.invoices ++ [c]).filter (·.billRunId == X)).map view) :=
    Summary.ofInvoices_perm ((sortBy_perm _ _).map _)
  have hold : Summary.ofInvoices ((s.invoicesOf X).map view) =
      Summary.ofInvoices ((s.invoices.filter (·.billRunId == X)).map view) :=
    Summary.ofInvoices_perm ((sortBy_perm _ _).map _)
  unfold summaryOf
  rw [hnew, hold, List.filter_append]
  by_cases hX : c.billRunId = X
  · have hc' : (c.billRunId == X) = true := by simpa using hX
    rw [List.filter_singleton, hc', cond_true, List.map_append,
      Summary.ofInvoices_perm List.perm_append_comm, List.map_singleton, List.singleton_append]
    exact Summary.ofInvoices_cons_of_net hc _
  · have hc' : (c.billRunId == X) = false := by simpa using hX
    rw [List.filter_singleton, hc', cond_false, List.append_nil]

end Store

end ChargeLedger
