import Mathlib.Algebra.BigOperators.Group.List.Basic
import ChargeLedger.Ledger.Records

/-!
# Tallies form a group

A tally is eight 64-bit counters added counter by counter, so tallies inherit the laws of
wrapping addition: they form a commutative group with the zero tally as identity and the
counter-by-counter negation as inverse. `Tally.sum` is then the library's `List.sum`. The net of
a tally (debit less credit value) and its line count (credit, debit and zero-value lines) are
additive, and every line falls in exactly one of the three kinds, so the tally of some lines has
as net the sum of their signed values and as line count their number, both taken modulo 2^64
(`Tally.group_laws_and_line_totals`).
-/

set_option autoImplicit false

namespace ChargeLedger

namespace Tally

attribute [ext] Tally

instance : Zero Tally := ⟨zero⟩

theorem add_fields (a b : Tally) : a + b =
    ⟨a.creditLineCount + b.creditLineCount, a.creditLineValue + b.creditLineValue,
      a.debitLineCount + b.debitLineCount, a.debitLineValue + b.debitLineValue,
      a.zeroLineCount + b.zeroLineCount, a.subjectCount + b.subjectCount,
      a.subjectCreditValue + b.subjectCreditValue, a.subjectDebitValue + b.subjectDebitValue⟩ :=
  rfl

theorem neg_fields (a : Tally) : -a =
    ⟨-a.creditLineCount, -a.creditLineValue, -a.debitLineCount, -a.debitLineValue,
      -a.zeroLineCount, -a.subjectCount, -a.subjectCreditValue, -a.subjectDebitValue⟩ := rfl

theorem zero_fields : (0 : Tally) = ⟨0, 0, 0, 0, 0, 0, 0, 0⟩ := rfl

instance : AddCommGroup Tally where
  add_assoc a b c := by simp only [add_fields, Int64.add_assoc]
  zero_add a := by simp only [add_fields, zero_fields, Int64.zero_add]
  add_zero a := by simp only [add_fields, zero_fields, Int64.add_zero]
  add_comm a b := by simp only [add_fields, Int64.add_comm]
  neg_add_cancel a := by simp only [add_fields, neg_fields, zero_fields, Int64.add_left_neg]
  nsmul := nsmulRec
  zsmul := zsmulRec

theorem sum_eq (ts : List Tally) : Tally.sum ts = ts.sum := by
  rw [Tally.sum, List.sum_eq_foldl]
  rfl

@[simp] theorem net_add (a b : Tally) : (a + b).net = a.net + b.net := by
  simp only [net, add_fields]
  grind

@[simp] theorem net_neg (a : Tally) : (-a).net = -a.net := by
  simp only [net, neg_fields]
  grind

@[simp] theorem net_zero : (0 : Tally).net = 0 := rfl

@[simp] theorem lineCount_add (a b : Tally) : (a + b).lineCount = a.lineCount + b.lineCount := by
  simp only [lineCount, add_fields]
  grind

/-- A line counts once, whichever of credit, zero-value or debit line it is; the subject
counters it also sets leave the line counts alone. -/
@[simp] theorem lineCount_ofLine (credit : Bool) (value : Int64) (subject : Bool) :
    (ofLine credit value subject).lineCount = 1 := by
  cases credit <;> by_cases h : value = 0 <;> cases subject <;> simp [ofLine, lineCount, h]

end Tally

namespace Transaction

/-- The net of a line's tally is its signed value. -/
@[simp] theorem net_tally (t : Transaction) : t.tally.net = t.signedValue := by
  unfold tally Tally.ofLine signedValue Tally.net
  cases t.chargeCredit <;> cases t.subjectToMinimumCharge <;>
    by_cases h : t.chargeValue = 0 <;> simp [h]

@[simp] theorem lineCount_tally (t : Transaction) : t.tally.lineCount = 1 :=
  Tally.lineCount_ofLine _ _ _

end Transaction

theorem net_sum_tally (ts : List Transaction) :
    (ts.map Transaction.tally).sum.net = (ts.map Transaction.signedValue).sum := by
  induction ts with
  | nil => rfl
  | cons t ts ih => simp [ih]

theorem lineCount_sum_tally (ts : List Transaction) :
    (ts.map Transaction.tally).sum.lineCount = Int64.ofNat ts.length := by
  induction ts with
  | nil => rfl
  | cons t ts ih =>
    rw [List.map_cons, List.sum_cons, Tally.lineCount_add, Transaction.lineCount_tally, ih,
      List.length_cons, Int64.ofNat_add, Int64.add_comm]
    rfl

namespace Tally

/-- Tallies under wrapping addition: addition is associative and commutative with the zero tally
as identity and the negation as inverse, the net and the line count are additive, and summing
the tallies of any lines gives as net the sum of their signed values and as line count their
number. -/
theorem group_laws_and_line_totals :
    (∀ a b c : Tally, a + b + c = a + (b + c)) ∧
    (∀ a b : Tally, a + b = b + a) ∧
    (∀ a : Tally, zero + a = a ∧ a + zero = a) ∧
    (∀ a : Tally, a + -a = zero) ∧
    (∀ a b : Tally, (a + b).net = a.net + b.net ∧ (a + b).lineCount = a.lineCount + b.lineCount) ∧
    (∀ ts : List Transaction,
      (sum (ts.map Transaction.tally)).net = (ts.map Transaction.signedValue).sum ∧
      (sum (ts.map Transaction.tally)).lineCount = Int64.ofNat ts.length) := by
  refine ⟨add_assoc, add_comm, fun a => ⟨zero_add a, add_zero a⟩, add_neg_cancel,
    fun a b => ⟨net_add a b, lineCount_add a b⟩, fun ts => ?_⟩
  rw [sum_eq]
  exact ⟨net_sum_tally ts, lineCount_sum_tally ts⟩

end Tally

end ChargeLedger
