import ChargeLedger.Proofs.Topping
import ChargeLedger.Proofs.Sequences

/-!
# Faults only a flawed ledger meets

Some faults name no mistake of the client but a flaw of the ledger: generation finding no line
to copy for a top-up, or a top-up refused by its bill run or invoice; a bill run created or sent
without the counter of its regime and region; a copied line refused by its bill run or invoice;
the invoice a removal leaves behind missing when its flags are derived again.

No reachable ledger meets one. Generation's block always returns (`generate_raises`). Every
regime has a counter in every region from the start (`Store.Stocked`), and a counter's numbers
never fall to zero (`Counter.Floored`), so creating and sending never miss one. The work a rebill
or a deletion leaves runs right after it, on a bill run still as the request found it, so it
returns (`copyLines_fills`, `cascade_returns`).
-/

set_option autoImplicit false

namespace ChargeLedger

open Op Store

/-- The faults a request meets only through a flaw of the ledger: generation finding no line to
copy for a top-up, or a top-up refused by its bill run or invoice; a bill run created or sent
without the counter of its regime and region. -/
def Request.Unexpected : Request → Fault → Prop
  | .generate .., .noMinimumChargeLines _ => True
  | .generate .., .notEditable _ _ => True
  | .generate .., .invoiceNotFound _ => True
  | .create .., .counterMissing _ _ => True
  | .send .., .counterMissing _ _ => True
  | _, _ => False

/-- The faults work meets only through a flaw of the ledger: a copied line refused by its bill
run or invoice, or the invoice a removal leaves behind missing when its flags are derived
again. -/
def Task.Unexpected : Task → Fault → Prop
  | .copyInvoice .., .notEditable _ _ => True
  | .copyInvoice .., .invoiceNotFound _ => True
  | .removeLicence .., .invoiceNotFound _ => True
  | .removeInvoice .., .invoiceNotFound _ => True
  | _, _ => False

variable {s₀ : Store}

/-! ## Counters -/

/-- A counter whose numbers stand at or above where their sequences start. -/
def Counter.Floored (c : Counter) : Prop :=
  1 ≤ c.transactionNumber.toInt ∧ 10000 ≤ c.billRunNumber.toInt ∧ 50000 ≤ c.fileNumber.toInt

theorem Counter.Floored.number_ne_zero {c : Counter} (h : c.Floored) (q : Sequence) :
    c.number q ≠ 0 := by
  obtain ⟨ht, hb, hf⟩ := h
  intro e
  have e' := congrArg Int64.toInt e
  rw [Int64.toInt_zero] at e'
  cases q <;> simp only [Counter.number] at e' <;> omega

theorem Counter.Floored.advance {c : Counter} (h : c.Floored) {q : Sequence}
    (hmax : c.number q ≠ Int64.maxValue) (now : Instant) : (c.advance q now).Floored := by
  obtain ⟨ht, hb, hf⟩ := h
  have hnext := Int64.toInt_add_one_of_ne hmax
  cases q <;> simp only [Counter.number] at hnext <;>
    simp only [Counter.advance, Counter.Floored, hnext] <;> omega

/-- Regime `R` has a counter in region `G`, at or above where its sequences start. -/
def Store.Counting (R : Uuid) (G : Region) (s : Store) : Prop :=
  ∃ c, s.counter? R G = some c ∧ c.Floored

theorem Store.Stocked.counter?_isSome {s : Store} (h : s.Stocked) {r : Regime} (hr : r ∈ s.regimes)
    (G : Region) : (s.counter? r.id G).isSome = true := by
  obtain ⟨c, hc, e⟩ := List.mem_map.1 (h r hr G)
  simp only [Prod.mk.injEq] at e
  exact List.find?_isSome.2 ⟨c, hc, by simp [e.1, e.2]⟩

theorem Store.Handed.counting {s : Store} (h : s.Handed) {b : BillRun} (hb : b ∈ s.billRuns) :
    s.Counting b.regimeId b.region := by
  obtain ⟨c, hc, hfind, -, -⟩ := h.counter_of_mem hb
  exact ⟨c, hfind, h.floors c hc⟩

theorem create_raises (now : Instant) {R : Regime} (hst : s₀.Stocked) (hR : R ∈ s₀.regimes)
    (slug actor region ruleset : String) :
    Raises (· = s₀) (BillRun.create now R.id slug actor region ruleset) (fun _ _ => True)
      (fun e => (∃ issues, e = .invalidFields issues) ∨ e = .unreadableTime) := by
  unfold BillRun.create
  extract_lets region ruleset issues
  clear_value region ruleset issues
  refine Raises.require_bind (fun _ => Or.inl ⟨_, rfl⟩) fun _ => ?_
  split
  · rename_i G _ _ _
    refine Raises.get_bind (Raises.bind (Raises.readRow.mono (fun _ h => h) (fun _ _ h => h)
      fun _ e => Or.inr e) fun counter => Raises.of_eq fun s h => ?_)
    refine Raises.require_bind (fun hf => ?_) fun _ => Raises.of_triple ?_
    · rw [h.1, hst.counter?_isSome hR G] at hf
      cases hf
    · exact Triple.bind (Triple.modifyGet (Q := fun _ _ => True) fun _ _ => trivial) fun _ =>
        Triple.bind (Triple.modify (Q := fun _ _ => True) fun _ _ => trivial) fun _ =>
          Triple.pure fun _ _ => trivial
  · exact Raises.throw (Or.inl ⟨_, rfl⟩)

theorem nextNumber_raises (now : Instant) (ref : BillRunRef) (b : BillRun) (q : Sequence) :
    Raises (Counting b.regimeId b.region) (BillRun.nextNumber now ref b q)
      (fun _ => Counting b.regimeId b.region) (· = .counterOverflow) := by
  refine Raises.of_eq fun s₀ h₀ => ?_
  obtain ⟨c, hc, hfl⟩ := h₀
  unfold BillRun.nextNumber
  refine Raises.bind (((next_raises (P := fun _ => True) q _ _ now).and_triple
    (next_spec q _ _ now)).mono (fun _ e => ⟨trivial, e⟩) (fun _ _ h => h.2) fun _ h => h)
    fun n => Raises.of_eq fun s h => ?_
  rcases h with ⟨hnone, -, -⟩ | ⟨c', hc', hmax, rfl, rfl⟩
  · exact absurd (hc.symm.trans hnone) (Option.some_ne_none c)
  · obtain rfl := Option.some.inj (hc.symm.trans hc')
    refine Raises.require_bind (fun h0 => absurd (by simpa using h0) (hfl.number_ne_zero q))
      fun _ => Raises.pure fun _ e => ⟨c.advance q now, ?_, hfl.advance hmax now⟩
    rw [e, counter?_movedOn, hc, Option.map_some]

theorem assignReferences_raises (now : Instant) (ref : BillRunRef) (b : BillRun) :
    Raises (Counting b.regimeId b.region) (BillRun.assignReferences now ref b) (fun _ _ => True)
      (fun e => e = .counterOverflow ∨ e = .billRunNotFound b.id ∨
        e = .statusConflict b.id .approved ∨ e = .unreadableTime) := by
  have hnext : ∀ q, Raises (Counting b.regimeId b.region) (BillRun.nextNumber now ref b q)
      (fun _ => Counting b.regimeId b.region) (fun e => e = .counterOverflow ∨
        e = .billRunNotFound b.id ∨ e = .statusConflict b.id .approved ∨ e = .unreadableTime) :=
    fun q => (nextNumber_raises now ref b q).mono (fun _ h => h) (fun _ _ h => h)
      fun _ => Or.inl
  have hstep : ∀ inv : Invoice, Raises (Counting b.regimeId b.region)
      (do
        let n ← BillRun.nextNumber now ref b .transaction
        setReference inv.id (BillRun.transactionReference b.region inv n) now)
      (fun _ => Counting b.regimeId b.region) (fun e => e = .counterOverflow ∨
        e = .billRunNotFound b.id ∨ e = .statusConflict b.id .approved ∨ e = .unreadableTime) :=
    fun _ => Raises.bind (hnext .transaction) fun _ => Raises.modify fun _ h => h
  unfold BillRun.assignReferences
  refine Raises.of_eq fun s₀ h₀ => Raises.get_bind ?_
  refine Raises.bind ((Raises.forM (fun _ => Counting b.regimeId b.region) fun inv _ =>
    hstep inv).mono (fun s (e : s = s₀) => by rw [e]; exact h₀) (fun _ _ h => h)
      fun _ h => h) fun _ => ?_
  refine Raises.bind (hnext .billRun) fun _ => ?_
  extract_lets jp
  -- past the numbers only the guarded write of the bill run's number and file can fail
  have hjp : ∀ file, Raises (fun _ => True) (jp file) (fun _ _ => True) (fun e =>
      e = .counterOverflow ∨ e = .billRunNotFound b.id ∨ e = .statusConflict b.id .approved ∨
        e = .unreadableTime) := by
    intro file
    refine Raises.bind (Raises.modifyGet (Q := fun _ _ => True) fun _ _ => trivial) fun ok => ?_
    split
    · exact (conflict_raises b.id .approved).mono (fun _ h => h) (fun _ _ h => h) fun _ h => by
        rcases h with h | h | h
        · exact Or.inr (Or.inl h)
        · exact Or.inr (Or.inr (Or.inl h))
        · exact Or.inr (Or.inr (Or.inr h))
    · exact Raises.pure fun _ _ => trivial
  split
  · exact Raises.bind (Raises.pure (Q := fun _ _ => True) fun _ _ => trivial) hjp
  · exact Raises.bind ((next_raises _ _ _ now).mono (fun _ h => h) (fun _ _ h => h)
      fun _ => Or.inl) fun _ => Raises.bind (Raises.pure (Q := fun _ _ => True)
        fun _ _ => trivial) hjp

theorem send_raises (now : Instant) (ref : BillRunRef) (hh : s₀.Handed) :
    Raises (· = s₀) (BillRun.send now ref) (fun _ _ => True)
      (fun e => e = .counterOverflow ∨ e = .billRunNotFound ref.billRunId ∨
        e = .statusConflict ref.billRunId .approved ∨ e = .unreadableTime) := by
  unfold BillRun.send
  refine Raises.bind ((billRunOf_raises ref).mono (fun _ h => h) (fun _ _ h => h) fun _ h => ?_)
    fun b => Raises.of_eq fun s h => ?_
  · rcases h with h | h
    · exact Or.inr (Or.inl h)
    · exact Or.inr (Or.inr (Or.inr h))
  obtain ⟨e, hb⟩ := h
  subst s
  obtain ⟨hid, -⟩ := id_of_billRunIn? hb
  rw [hid]
  have hcount := hh.counting (List.mem_of_find?_eq_some hb)
  refine Raises.require_bind (fun _ => Or.inr (Or.inr (Or.inl rfl))) fun _ =>
    Raises.bind (Q := fun _ _ => True) (Raises.atomically fun s e => ?_) fun _ =>
      Raises.pure fun _ _ => trivial
  exact (assignReferences_raises now ref b).mono (fun _ e' => by rw [e', e]; exact hcount)
    (fun _ _ h => h) fun _ h => hid ▸ h

/-! ## Removals -/

theorem Store.Sound.invoice?_isSome_of_licenceCount {s : Store} (hs : s.Sound) {I : Uuid}
    (h : s.licenceCount I > 0) : (s.invoice? I).isSome = true := by
  obtain ⟨l, hl, rfl⟩ := exists_of_licenceCount_pos h
  exact invoice?_isSome_of_key (hs.licence_key hl)

theorem subtract_returns (now : Instant) (X : Uuid) (δ : Tally) :
    Triple (fun s => s.statusOf X = some .pending) (Deletion.subtract now X δ) (fun _ _ => True)
      (fun _ => False) := by
  unfold Deletion.subtract
  rw [addBillRunTally_eq]
  exact Triple.bind (Q := fun ok _ => ok = true) (Triple.modifyGet fun _ hs =>
    guarded_takes hs (List.mem_singleton_self _)) fun _ =>
    Triple.require fun _ h => ⟨fun _ => trivial, fun hf => Bool.false_ne_true (hf.symm.trans h)⟩

theorem removeLicence_returns (now : Instant) (X L : Uuid) :
    Triple (fun s => (s.licenceOn? X L).isSome ∧ s.statusOf X = some .pending)
      (Deletion.removeLicence now X L) (fun left s => ∀ I, left = some I → s.licenceCount I > 0)
      (fun _ => False) := by
  refine Triple.of_eq fun s₀ h₀ => Triple.get_bind ?_
  split
  · refine Triple.bind ((subtract_returns now X _).mono (fun _ e => by rw [e]; exact h₀.2)
      (fun _ _ h => h) fun _ h => h) fun _ => ?_
    refine Triple.bind (Triple.modifyGet (Q := fun _ _ => True) fun _ _ => trivial) fun _ =>
      Triple.bind (Triple.modify (Q := fun _ _ => True) fun _ _ => trivial) fun _ =>
        Triple.of_eq fun s _ => Triple.get_bind ?_
    split
    · rename_i hcount
      exact Triple.pure fun _ e I hI => by
        rw [e, ← Option.some.inj hI]
        exact hcount
    · exact Triple.bind (Triple.modify (Q := fun _ _ => True) fun _ _ => trivial) fun _ =>
        Triple.pure fun _ _ I hI => absurd hI.symm (Option.some_ne_none I)
  · rename_i hnone
    obtain ⟨lic, hlic⟩ := Option.isSome_iff_exists.1 h₀.1
    exact (hnone lic hlic).elim

theorem removeInvoice_returns (now : Instant) (X I : Uuid) :
    Triple (fun s => (s.invoiceOn? X I).isSome ∧ s.statusOf X = some .pending)
      (Deletion.removeInvoice now X I) (fun left _ => left = none) (fun _ => False) := by
  refine Triple.of_eq fun s₀ h₀ => Triple.get_bind ?_
  split
  · exact Triple.bind ((subtract_returns now X _).mono (fun _ e => by rw [e]; exact h₀.2)
      (fun _ _ h => h) fun _ h => h) fun _ =>
      Triple.bind (Triple.modify (Q := fun _ _ => True) fun _ _ => trivial) fun _ =>
        Triple.pure fun _ _ => rfl
  · rename_i hnone
    obtain ⟨inv, hinv⟩ := Option.isSome_iff_exists.1 h₀.1
    exact (hnone inv hinv).elim

theorem resummarise_returns (env : Env) (slug : String) (X : Uuid) (left : Option Uuid) :
    Triple (fun s => s.Sound ∧ ∀ I, left = some I → s.licenceCount I > 0)
      (Deletion.resummarise env slug X left) (fun _ _ => True) (fun _ => False) := by
  unfold Deletion.resummarise
  extract_lets jp
  have hjp : ∀ r, Triple (fun _ => True) (jp r) (fun _ _ => True) (fun _ => False) := fun _ =>
    Triple.bind (Triple.get (Q := fun _ _ => True) fun _ _ => trivial) fun _ =>
      Triple.bind (Triple.modifyGet (Q := fun _ _ => True) fun _ _ => trivial) fun _ =>
        Triple.pure fun _ _ => trivial
  cases left with
  | none => exact (hjp ()).mono (fun _ _ => trivial) (fun _ _ h => h) fun _ h => h
  | some I =>
    refine Triple.of_eq fun s h => Triple.get_bind ?_
    split
    · exact Triple.bind (Triple.modify (Q := fun _ _ => True) fun _ _ => trivial) hjp
    · rename_i hnone
      obtain ⟨inv, hinv⟩ := Option.isSome_iff_exists.1
        (h.1.invoice?_isSome_of_licenceCount (h.2 I rfl))
      exact (hnone inv hinv).elim

/-- A removal run as a cascade on a bill run still in the status it had returns, when the
removal returns from the pending bill run into a ledger where the invoice it leaves behind still
has a licence. What the removal needs of the ledger, `J`, the status write must keep. -/
theorem cascade_returns (env : Env) (ref : BillRunRef) (prior : Status)
    {remove : Op (Option Uuid)} {J : Store → Prop} (hr : Removal ref.billRunId remove)
    (hJ : Keeps J (setStatus ref.billRunId [prior] .pending env.now))
    (hc : ∀ s, J s → s.Consistent) (h₀ : J s₀) (hs : s₀.statusOf ref.billRunId = some prior)
    (hremove : Triple (fun s => J s ∧ s.statusOf ref.billRunId = some .pending) remove
      (fun left s => ∀ I, left = some I → s.licenceCount I > 0) (fun _ => False)) :
    Triple (· = s₀) (Deletion.cascade env ref prior remove) (fun _ _ => True) (fun _ => False) := by
  unfold Deletion.cascade
  refine Triple.bind (((setStatus_from env.now (List.mem_singleton_self prior)).conj
    hJ.triple).mono (fun _ e => by rw [e]; exact ⟨hs, h₀⟩) (fun _ _ h => h) fun _ h => h.1)
    fun ok => ?_
  refine Triple.require_bind (fun hf _ h => Bool.false_ne_true (hf.symm.trans h.1.1)) fun _ => ?_
  refine Triple.bind (Q := fun outcome _ => outcome = none) (Triple.tryCatch
    (Triple.bind (Q := fun _ _ => True) (Triple.atomically fun s h => ?_) fun _ =>
      Triple.pure fun _ _ => rfl : Triple _ _ _ fun _ => False)
    fun _ => Triple.absurd _) fun outcome => Triple.of_eq fun s h => ?_
  · refine Triple.bind (((hr s (hc s h.2)).conj hremove).mono
      (fun _ e => ⟨e, by rw [e]; exact ⟨h.2, h.1.2⟩⟩) (fun _ _ h => h) fun _ h => h.2)
      fun left => ?_
    split
    · exact (resummarise_returns env _ _ left).mono (fun _ h => ⟨h.1.1.1.sound, h.2⟩)
        (fun _ _ h => h) fun _ h => h
    · exact Triple.pure fun _ _ => trivial
  · subst outcome
    exact Triple.get_bind (Triple.bind (Triple.modifyGet (Q := fun _ _ => True)
      fun _ _ => trivial) fun _ => Triple.pure fun _ _ => trivial)

theorem removeLicence_task_returns (env : Env) (ref : BillRunRef) (prior : Status) (L : Uuid)
    (hc : s₀.Consistent) (hs : s₀.statusOf ref.billRunId = some prior)
    (hL : (s₀.licenceOn? ref.billRunId L).isSome) :
    Triple (· = s₀) ((Task.removeLicence ref prior L).run env) (fun _ _ => True)
      (fun _ => False) := by
  refine Triple.bind (cascade_returns (J := fun s => s.Consistent ∧ s.licences = s₀.licences)
    env ref prior (removeLicence_removal _ _ _) ((setStatus_keeps _ _ _ _).and
      (.modifyGet fun _ h => ⟨guarded_rows.2.trans h, Nat.le_of_eq guarded_issued.symm⟩))
    (fun _ h => h.1) ⟨hc, rfl⟩ hs ((removeLicence_returns _ _ _).mono (fun s h => ⟨?_, h.2⟩)
      (fun _ _ h => h) fun _ h => h)) fun _ => Triple.pure fun _ _ => trivial
  rw [licenceOn?, h.1.2]
  exact hL

theorem removeInvoice_task_returns (env : Env) (ref : BillRunRef) (prior : Status) (I : Uuid)
    (hc : s₀.Consistent) (hs : s₀.statusOf ref.billRunId = some prior)
    (hI : (s₀.invoiceOn? ref.billRunId I).isSome) :
    Triple (· = s₀) ((Task.removeInvoice ref prior I).run env) (fun _ _ => True)
      (fun _ => False) := by
  refine Triple.bind (cascade_returns (J := fun s => s.Consistent ∧ s.invoices = s₀.invoices)
    env ref prior (removeInvoice_removal _ _ _) ((setStatus_keeps _ _ _ _).and
      (.modifyGet fun _ h => ⟨guarded_rows.1.trans h, Nat.le_of_eq guarded_issued.symm⟩))
    (fun _ h => h.1) ⟨hc, rfl⟩ hs ((removeInvoice_returns _ _ _).mono (fun s h => ⟨?_, h.2⟩)
      (fun _ _ h K hK => absurd (h.symm.trans hK) (Option.some_ne_none K).symm)
      fun _ h => h)) fun _ => Triple.pure fun _ _ => trivial
  rw [invoiceOn?, h.1.2]
  exact hI

/-! ## Requests -/

theorem deleteLicence_leaves (ref : BillRunRef) (L : Uuid) (hs : s₀.Sound) :
    Triple (· = s₀) (Deletion.deleteLicence ref L)
      (fun task s => s = s₀ ∧ ∃ prior, task = .removeLicence ref prior L ∧
        s₀.statusOf ref.billRunId = some prior ∧ (s₀.licenceOn? ref.billRunId L).isSome)
      (fun _ => True) := by
  unfold Deletion.deleteLicence
  refine Triple.bind ((editableBillRun_found ref hs).mono (fun _ h => h) (fun _ _ h => h)
    fun _ _ => trivial) fun b => Triple.of_eq fun s h => ?_
  obtain ⟨e, hb, -⟩ := h
  subst s
  exact Triple.get_bind (Triple.require_bind (fun _ _ _ => trivial) fun hL =>
    Triple.pure fun _ e => ⟨e, b.status, rfl, by rw [statusOf, hb, Option.map_some],
      id_of_billRun? hb ▸ hL⟩)

theorem deleteInvoice_leaves (ref : BillRunRef) (I : Uuid) (hs : s₀.Sound) :
    Triple (· = s₀) (Deletion.deleteInvoice ref I)
      (fun task s => s = s₀ ∧ ∃ prior, task = .removeInvoice ref prior I ∧
        s₀.statusOf ref.billRunId = some prior ∧ (s₀.invoiceOn? ref.billRunId I).isSome)
      (fun _ => True) := by
  unfold Deletion.deleteInvoice
  refine Triple.bind ((editableBillRun_found ref hs).mono (fun _ h => h) (fun _ _ h => h)
    fun _ _ => trivial) fun b => Triple.of_eq fun s h => ?_
  obtain ⟨e, hb, -⟩ := h
  subst s
  exact Triple.get_bind (Triple.require_bind (fun _ _ _ => trivial) fun hI =>
    Triple.pure fun _ e => ⟨e, b.status, rfl, by rw [statusOf, hb, Option.map_some],
      id_of_billRun? hb ▸ hI⟩)

theorem refIn_raises (slug : String) (X : Uuid) :
    Raises (· = s₀) (Request.refIn slug X) (fun ref s => s = s₀ ∧ ref.billRunId = X)
      (· = .unknownRegime slug) :=
  Raises.bind (regimeNamed_raises slug) fun _ => Raises.pure fun _ h => ⟨h.1, rfl⟩

section Named

variable {W : Task → Store → Prop} {F : Fault → Prop}

theorem named_raises_none {α : Type} (slug : String) (X : Uuid) {op : BillRunRef → Op α}
    (hslug : F (.unknownRegime slug))
    (h : ∀ ref : BillRunRef, ref.billRunId = X → Raises (· = s₀) (op ref) (fun _ _ => True) F) :
    Raises (· = s₀) (Request.refIn slug X >>= fun ref => op ref >>= fun _ => pure none)
      (fun task s => ∀ t, task = some t → W t s) F :=
  Raises.bind ((refIn_raises slug X).mono (fun _ h => h) (fun _ _ h => h) fun _ e => e ▸ hslug)
    fun ref => Raises.of_eq fun _ hs => Raises.bind ((h ref hs.2).mono (fun _ e => e.trans hs.1)
      (fun _ _ h => h) fun _ h => h) fun _ =>
        Raises.pure fun _ _ t ht => absurd ht.symm (Option.some_ne_none t)

theorem named_raises_work (slug : String) (X : Uuid) {op : BillRunRef → Op Task}
    (hslug : F (.unknownRegime slug))
    (h : ∀ ref : BillRunRef, ref.billRunId = X → Raises (· = s₀) (op ref) W F) :
    Raises (· = s₀) (Request.refIn slug X >>= fun ref => op ref >>= fun task => pure (some task))
      (fun task s => ∀ t, task = some t → W t s) F :=
  Raises.bind ((refIn_raises slug X).mono (fun _ h => h) (fun _ _ h => h) fun _ e => e ▸ hslug)
    fun ref => Raises.of_eq fun _ hs => Raises.bind ((h ref hs.2).mono (fun _ e => e.trans hs.1)
      (fun _ _ h => h) fun _ h => h) fun _ =>
        Raises.pure fun _ h _ ht => Option.some.inj ht ▸ h

end Named

/-- What a request leaves to run after it meets no fault only a flawed ledger meets. -/
def Request.WorkExpected (env : Env) (task : Option Task) (s : Store) : Prop :=
  ∀ t, task = some t → Raises (· = s) (t.run env) (fun _ _ => True) fun e => ¬ t.Unexpected e

theorem run_expected (env : Env) (r : Request) (hc : s₀.Coherent) (hcs : s₀.Consistent)
    (hcp : s₀.CopiesApart) (hh : s₀.Handed) (hst : s₀.Stocked) :
    Raises (· = s₀) (r.run env) (Request.WorkExpected env) (fun e => ¬ r.Unexpected e) := by
  have hany : ∀ {α : Type} (x : Op α) (r' : Request), (∀ e, ¬ r'.Unexpected e) →
      Raises (· = s₀) x (fun _ _ => True) (fun e => ¬ r'.Unexpected e) :=
    fun x _ hr => (Raises.always x).mono (fun _ _ => trivial) (fun _ _ h => h) fun e _ => hr e
  cases r <;> simp only [Request.run]
  case create slug actor region ruleset =>
    refine Raises.bind ((regimeNamed_raises slug).mono (fun _ h => h) (fun _ _ h => h)
      fun _ e => by subst e; exact id) fun R => Raises.of_eq fun s h => ?_
    obtain ⟨e, hR⟩ := h
    subst s
    refine Raises.bind ((create_raises env.now hst (List.mem_of_find?_eq_some hR) R.slug actor
      region ruleset).mono (fun _ h => h) (fun _ _ h => h) fun e he => ?_) fun _ =>
        Raises.pure fun _ _ t ht => absurd ht.symm (Option.some_ne_none t)
    rcases he with ⟨_, rfl⟩ | rfl <;> exact id
  case record slug X actor p =>
    exact named_raises_none slug X id fun _ _ => hany _ _ fun _ => id
  case generate slug X =>
    refine named_raises_none slug X id fun ref _ => (generate_raises env ref hcs hcp).mono
      (fun _ h => h) (fun _ _ h => h) fun e he => ?_
    rcases he with rfl | rfl | rfl | rfl | rfl | rfl <;> exact id
  case approve slug X =>
    exact named_raises_none slug X id fun _ _ => hany _ _ fun _ => id
  case send slug X =>
    refine named_raises_work slug X id fun ref _ => ((send_raises env.now ref hh).and_triple
      (send_leaves_transmit env.now ref)).mono (fun _ e => ⟨e, trivial⟩) ?_ fun e he => ?_
    · rintro _ _ ⟨-, rfl⟩
      exact (Raises.always _).mono (fun _ _ => trivial) (fun _ _ h => h) fun _ _ => id
    · rcases he with rfl | rfl | rfl | rfl <;> exact id
  case delete slug X =>
    exact named_raises_none slug X id fun _ _ => hany _ _ fun _ => id
  case deleteLicence slug X L =>
    refine named_raises_work slug X id fun ref _ => ((hany _ (.deleteLicence slug X L)
      fun _ => id).and_triple (deleteLicence_leaves ref L hcs.sound)).mono
        (fun _ e => ⟨e, e⟩) (fun _ s h => ?_) fun _ h => h
    obtain ⟨-, e, prior, rfl, hs, hL⟩ := h
    subst s
    exact Raises.of_triple (removeLicence_task_returns env ref prior L hcs hs hL)
  case deleteInvoice slug X I =>
    refine named_raises_work slug X id fun ref _ => ((hany _ (.deleteInvoice slug X I)
      fun _ => id).and_triple (deleteInvoice_leaves ref I hcs.sound)).mono
        (fun _ e => ⟨e, e⟩) (fun _ s h => ?_) fun _ h => h
    obtain ⟨-, e, prior, rfl, hs, hI⟩ := h
    subst s
    exact Raises.of_triple (removeInvoice_task_returns env ref prior I hcs hs hI)
  case rebill slug X invoice actor =>
    refine Raises.bind ((refIn_raises slug X).mono (fun _ h => h) (fun _ _ h => h)
      fun _ e => by subst e; exact id) fun ref => Raises.of_eq fun s h => ?_
    obtain ⟨e, -⟩ := h
    subst s
    refine Raises.bind (((hany _ (.rebill slug X invoice actor) fun _ => id).and_triple
      (rebill_copyStart hc env.now ref invoice actor)).mono (fun _ e => ⟨e, e⟩)
        (fun _ _ h => h.2) fun _ h => h) fun res => Raises.of_eq fun s₁ h => ?_
    obtain ⟨cancel, again, task⟩ := res
    obtain ⟨rebilled, target, htask, hstart⟩ := h
    simp only at htask hstart
    subst htask
    refine Raises.pure fun s e t ht => ?_
    subst s
    cases Option.some.inj ht
    exact Raises.of_triple (Triple.bind ((copyLines_fills hstart env.now actor).mono
      (fun _ h => h) (fun _ _ _ => trivial) fun _ h => h) fun _ => Triple.pure fun _ _ => trivial)
  case recover threshold batch =>
    exact Raises.bind (hany _ (.recover threshold batch) fun _ => id) fun _ =>
      Raises.pure fun _ _ t ht => absurd ht.symm (Option.some_ne_none t)

/-- In every ledger that requests lead to, whatever the surroundings, no request meets a fault
only a flawed ledger meets, and neither does the work it leaves: generating never finds an invoice
without a line to copy for its top-up, nor has a top-up refused; creating and sending never miss
a counter; copying a rebilled invoice's lines never has one refused; and the invoice a removal
leaves behind is always there when its flags are derived again. -/
theorem Reachable.unexpected_faults_unreachable {ok : Env → Prop} {s : Store}
    (h : Reachable ok s) (env : Env) (r : Request) :
    Raises (· = s) (r.run env) (Request.WorkExpected env) (fun e => ¬ r.Unexpected e) :=
  run_expected env r h.coherent h.consistent h.copiesApart h.handed.1 h.stocked

/-- Creating a bill run on a freshly seeded ledger meets no fault only a flawed ledger meets. -/
theorem unexpected_faults_unreachable_on_seeded :
    Raises (· = Store.seeded ⟨0⟩) ((Request.create "wrls" "system" "A" "sroc").run { now := ⟨0⟩ })
      (Request.WorkExpected { now := ⟨0⟩ })
      (fun e => ¬ (Request.create "wrls" "system" "A" "sroc").Unexpected e) :=
  Reachable.unexpected_faults_unreachable (@Reachable.seeded (fun _ => True) ⟨0⟩) _ _

end ChargeLedger
