import ChargeLedger.Proofs.Balance
import ChargeLedger.Ledger.Rebilling

/-!
# Copies of lines and the mirror of a tally

A rebill copies each line of an invoice twice: onto the rebill copy as it is, and onto the
cancel copy with its side turned over. A copy keeps the line's value and whether it is subject
to the minimum charge, so the copy onto the rebill copy has the line's tally and the copy onto
the cancel copy has its mirror (`Tally.Mirrors`): credit and debit values trade places, so do
the subject credit and subject debit values, and the subject count and the line count stay. The
mirror asks for a value that is not negative, since a subject debit value counts only values
above zero.

`Copies` relates the lines copied, in the order they were copied, to the lines the copying
added. Over any set of lines that copying keeps together, the copies on the rebill copy then
carry the tally of the lines copied, and the copies on the cancel copy its mirror.
-/

set_option autoImplicit false

namespace ChargeLedger

namespace Tally

/-- `b` mirrors `a`: credit and debit line values trade places, so do the subject credit and
subject debit values, and the subject count and the line count stay. -/
structure Mirrors (a b : Tally) : Prop where
  creditLineValue : b.creditLineValue = a.debitLineValue
  debitLineValue : b.debitLineValue = a.creditLineValue
  subjectCreditValue : b.subjectCreditValue = a.subjectDebitValue
  subjectDebitValue : b.subjectDebitValue = a.subjectCreditValue
  subjectCount : b.subjectCount = a.subjectCount
  lineCount : b.lineCount = a.lineCount

theorem Mirrors.zero : Mirrors 0 0 := ⟨rfl, rfl, rfl, rfl, rfl, rfl⟩

theorem Mirrors.add {a b a' b' : Tally} (h : Mirrors a b) (h' : Mirrors a' b') :
    Mirrors (a + a') (b + b') where
  creditLineValue := congrArg₂ (· + ·) h.creditLineValue h'.creditLineValue
  debitLineValue := congrArg₂ (· + ·) h.debitLineValue h'.debitLineValue
  subjectCreditValue := congrArg₂ (· + ·) h.subjectCreditValue h'.subjectCreditValue
  subjectDebitValue := congrArg₂ (· + ·) h.subjectDebitValue h'.subjectDebitValue
  subjectCount := congrArg₂ (· + ·) h.subjectCount h'.subjectCount
  lineCount := by rw [lineCount_add, lineCount_add, h.lineCount, h'.lineCount]

theorem Mirrors.net {a b : Tally} (h : Mirrors a b) : b.net = -a.net := by
  rw [Tally.net, Tally.net, h.creditLineValue, h.debitLineValue, Int64.neg_sub]

theorem Mirrors.ofLine (credit : Bool) {v : Int64} (subject : Bool) (hv : 0 ≤ v) :
    Mirrors (ofLine credit v subject) (ofLine (!credit) v subject) := by
  have hpos : v ≠ 0 → 0 < v := fun h0 => Int64.lt_of_le_of_ne hv (Ne.symm h0)
  cases credit <;> cases subject <;> by_cases h0 : v = 0 <;>
    constructor <;> simp [Tally.ofLine, h0, hpos, Tally.lineCount]

end Tally

/-! ## Tallies of the lines that pass a test -/

def tallyWhere (ts : List Transaction) (p : Transaction → Bool) : Tally :=
  ((ts.filter p).map Transaction.tally).sum

theorem tallyBy_eq_tallyWhere (ts : List Transaction) (key : Transaction → Uuid) (k : Uuid) :
    tallyBy ts key k = tallyWhere ts (key · == k) := rfl

@[simp] theorem tallyWhere_nil (p : Transaction → Bool) : tallyWhere [] p = 0 := rfl

theorem tallyWhere_append (ts us : List Transaction) (p : Transaction → Bool) :
    tallyWhere (ts ++ us) p = tallyWhere ts p + tallyWhere us p := by
  simp [tallyWhere, List.filter_append]

theorem tallyWhere_single (t : Transaction) (p : Transaction → Bool) :
    tallyWhere [t] p = if p t then t.tally else 0 := by
  cases h : p t <;> simp [tallyWhere, h]

theorem tallyWhere_pair (t u : Transaction) (p : Transaction → Bool) :
    tallyWhere [t, u] p = (if p t then t.tally else 0) + (if p u then u.tally else 0) := by
  rw [show [t, u] = [t] ++ [u] from rfl, tallyWhere_append, tallyWhere_single, tallyWhere_single]

theorem tallyWhere_eq_zero {ts : List Transaction} {p : Transaction → Bool}
    (h : ∀ t ∈ ts, p t = false) : tallyWhere ts p = 0 := by
  have hnil : ts.filter p = [] := List.filter_eq_nil_iff.2 fun t ht => by simp [h t ht]
  simp [tallyWhere, hnil]

theorem tallyWhere_filter (ts : List Transaction) (p q : Transaction → Bool) :
    tallyWhere (ts.filter q) p = tallyWhere ts fun t => p t && q t := by
  rw [tallyWhere, List.filter_filter]
  rfl

theorem tallyWhere_perm {ts us : List Transaction} (h : ts.Perm us) (p : Transaction → Bool) :
    tallyWhere ts p = tallyWhere us p :=
  ((h.filter p).map _).sum_eq

/-! ## Copies of lines -/

namespace Transaction

/-- `t` is line `u` copied by `actor` at `now` onto invoice `d` of bill run `X`, its side turned
over when `flip`: `u` under the identifier and licence of `t`, with no client id, naming `u`. -/
def CopyOf (t u : Transaction) (X d : Uuid) (flip : Bool) (actor : String) (now : Instant) :
    Prop :=
  t = { Rebill.duplicate t.id u X flip actor with
        invoiceId := d, licenceId := t.licenceId, createdAt := now, updatedAt := now }

namespace CopyOf

variable {t u : Transaction} {X d : Uuid} {flip : Bool} {actor : String} {now : Instant}
  (h : t.CopyOf u X d flip actor now)
include h

theorem eq : t = { Rebill.duplicate t.id u X flip actor with
    invoiceId := d, licenceId := t.licenceId, createdAt := now, updatedAt := now } := h

theorem billRunId : t.billRunId = X := by rw [h.eq]; rfl
theorem invoiceId : t.invoiceId = d := by rw [h.eq]
theorem licenceNumber : t.licenceNumber = u.licenceNumber := by rw [h.eq]; rfl
theorem rebilledTransactionId : t.rebilledTransactionId = some u.id := by rw [h.eq]; rfl
theorem clientId : t.clientId = none := by rw [h.eq]; rfl
theorem createdBy : t.createdBy = actor := by rw [h.eq]; rfl

theorem tally : t.tally =
    Tally.ofLine (if flip then !u.chargeCredit else u.chargeCredit) u.chargeValue
      u.subjectToMinimumCharge := by
  rw [h.eq]
  rfl

theorem tally_kept (hf : flip = false) : t.tally = u.tally := by
  rw [h.tally, hf]
  rfl

theorem tally_mirrors (hf : flip = true) (hv : 0 ≤ u.chargeValue) : u.tally.Mirrors t.tally := by
  rw [h.tally, hf]
  exact Tally.Mirrors.ofLine _ _ hv

end CopyOf

end Transaction

/-- The lines `ts` copy the lines `us` onto bill run `X`, in order: each line of `us` gives its
copy onto the cancel copy `c`, turned over, then its copy onto the rebill copy `r`. -/
inductive Copies (X c r : Uuid) (actor : String) (now : Instant) :
    List Transaction → List Transaction → Prop
  | nil : Copies X c r actor now [] []
  | snoc {us ts : List Transaction} {u tc tr : Transaction} : Copies X c r actor now us ts →
      tc.CopyOf u X c true actor now → tr.CopyOf u X r false actor now →
      Copies X c r actor now (us ++ [u]) (ts ++ [tc, tr])

namespace Copies

variable {X c r : Uuid} {actor : String} {now : Instant} {us ts : List Transaction}

theorem mem (h : Copies X c r actor now us ts) {t : Transaction} (ht : t ∈ ts) :
    ∃ u ∈ us, t.CopyOf u X c true actor now ∨ t.CopyOf u X r false actor now := by
  induction h with
  | nil => cases ht
  | snoc _ hc hr ih =>
    rcases List.mem_append.1 ht with ht | ht
    · obtain ⟨u, hu, hcopy⟩ := ih ht
      exact ⟨u, List.mem_append_left _ hu, hcopy⟩
    · simp only [List.mem_cons, List.not_mem_nil, or_false] at ht
      rcases ht with rfl | rfl
      · exact ⟨_, List.mem_append_right _ List.mem_cons_self, .inl hc⟩
      · exact ⟨_, List.mem_append_right _ List.mem_cons_self, .inr hr⟩

theorem copies_of_mem (h : Copies X c r actor now us ts) {u : Transaction} (hu : u ∈ us) :
    (∃ t ∈ ts, t.CopyOf u X c true actor now) ∧ ∃ t ∈ ts, t.CopyOf u X r false actor now := by
  induction h with
  | nil => cases hu
  | snoc _ hc hr ih =>
    rcases List.mem_append.1 hu with hu | hu
    · obtain ⟨⟨t, ht, h₁⟩, ⟨t', ht', h₂⟩⟩ := ih hu
      exact ⟨⟨t, List.mem_append_left _ ht, h₁⟩, ⟨t', List.mem_append_left _ ht', h₂⟩⟩
    · obtain rfl := List.mem_singleton.1 hu
      exact ⟨⟨_, List.mem_append_right _ List.mem_cons_self, hc⟩,
        ⟨_, List.mem_append_right _ (List.mem_cons_of_mem _ List.mem_cons_self), hr⟩⟩

theorem sum_tally (h : Copies X c r actor now us ts) (hcr : c ≠ r) :
    (ts.map Transaction.tally).sum =
      tallyWhere ts (·.invoiceId == r) + tallyWhere ts (·.invoiceId == c) := by
  induction h with
  | nil => rfl
  | snoc _ hc hr ih =>
    rw [List.map_append, List.sum_append, ih, tallyWhere_append, tallyWhere_append,
      tallyWhere_pair, tallyWhere_pair, hc.invoiceId, hr.invoiceId]
    simp [hcr, Ne.symm hcr]
    abel

variable {p : Transaction → Bool}

theorem tallyWhere_rebill (h : Copies X c r actor now us ts) (hcr : c ≠ r)
    (hp : ∀ t u d flip, t.CopyOf u X d flip actor now → p t = p u) :
    tallyWhere ts (fun t => p t && t.invoiceId == r) = tallyWhere us p := by
  induction h with
  | nil => rfl
  | snoc _ hc hr ih =>
    rw [tallyWhere_append, tallyWhere_append, ih, tallyWhere_pair, tallyWhere_single,
      hp _ _ _ _ hc, hp _ _ _ _ hr, hc.invoiceId, hr.invoiceId, hr.tally_kept rfl]
    simp [hcr]

/-- Over lines that copying keeps together, the copies on the cancel copy carry the mirror of
the tally of the lines copied, when no value copied is negative. -/
theorem tallyWhere_cancel (h : Copies X c r actor now us ts) (hcr : c ≠ r)
    (hp : ∀ t u d flip, t.CopyOf u X d flip actor now → p t = p u)
    (hv : ∀ u ∈ us, 0 ≤ u.chargeValue) :
    (tallyWhere us p).Mirrors (tallyWhere ts fun t => p t && t.invoiceId == c) := by
  induction h with
  | nil => exact Tally.Mirrors.zero
  | snoc _ hc hr ih =>
    rw [tallyWhere_append, tallyWhere_append, tallyWhere_pair, tallyWhere_single,
      hp _ _ _ _ hc, hp _ _ _ _ hr, hc.invoiceId, hr.invoiceId]
    refine (ih fun u hu => hv u (List.mem_append_left _ hu)).add ?_
    have hm := hc.tally_mirrors rfl (hv _ (List.mem_append_right _ List.mem_cons_self))
    cases p _ <;> simp [Ne.symm hcr, hm, Tally.Mirrors.zero]

end Copies

end ChargeLedger
