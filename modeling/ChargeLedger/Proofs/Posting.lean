import ChargeLedger.Proofs.Balance
import ChargeLedger.Ledger.Posting

/-!
# Posting a line keeps the ledger consistent

`Store.Consistent` is the invariant the ledger keeps between operations: its rows hang
together (`Store.Sound`) and each bill run, invoice and licence carries exactly the tally of its
lines (`Store.Exact`). A posting moves three rows by the line's tally, the bill run first, then
the invoice and the licence, and only then adds the line; `Store.Underway` is the state in
between, balanced up to the delta at the rows already moved. When the line lands the store is
consistent again, no other bill run changed, and the bill runs are as the guarded write on the
line's bill run left them.
-/

set_option autoImplicit false

namespace ChargeLedger

namespace BillRun

def posted (now : Instant) (δ : Tally) (b : BillRun) : BillRun :=
  { b with tally := b.tally + δ, updatedAt := now,
           status := if b.status == .generated then .initialised else b.status }

end BillRun

namespace Store

theorem addBillRunTally_eq (id : Uuid) (δ : Tally) (allowed : List Status) (now : Instant) :
    addBillRunTally id δ allowed now =
      modifyGet fun s => s.guarded id allowed (BillRun.posted now δ) := rfl

/-- The rows hang together and carry the tallies of their lines. -/
structure Consistent (s : Store) : Prop where
  sound : s.Sound
  exact : s.Exact

theorem Consistent.issue {s : Store} (h : s.Consistent) {n : Nat} (hn : s.issued ≤ n) :
    Consistent { s with issued := n } :=
  ⟨h.sound.of_keys rfl rfl rfl rfl hn, h.exact.of_rows rfl rfl rfl rfl⟩

/-- The ledger is consistent and nothing but bill run `X` changed since `s₀`: what a block about
`X` keeps. -/
def Within (X : Uuid) (s₀ s : Store) : Prop := s.Consistent ∧ Confined X s₀ s

theorem Within.refl {s : Store} (h : s.Consistent) (X : Uuid) : Within X s s :=
  ⟨h, Confined.refl X s⟩

theorem Within.issue {s₀ s : Store} {X : Uuid} (h : Within X s₀ s) {m : Nat} (hm : s.issued ≤ m) :
    Within X s₀ { s with issued := m } :=
  ⟨h.1.issue hm, h.2⟩

theorem Confined.within {s₀ s₁ s : Store} {X : Uuid} (h : Confined X s₀ s₁) (h' : Within X s₁ s) :
    Within X s₀ s :=
  ⟨h'.1, h.trans h'.2⟩

variable {s₀ s₁ s : Store} {X I L : Uuid} {δ : Tally} {dI dL : Uuid → Tally}

/-- A posting of `δ` on bill run `X` from `s₀`, part way: the bill runs are as in `s₁`, the
invoice and licence rows moved so far are off by `dI` and `dL`, and the line is still to come. -/
structure Underway (s₀ s₁ : Store) (X : Uuid) (δ : Tally) (dI dL : Uuid → Tally) (s : Store) :
    Prop where
  sound : s.Sound
  balanced : s.Balanced (Pi.single X δ) dI dL
  confined : Confined X s₀ s
  billRuns : s.billRuns = s₁.billRuns
  transactions : s.transactions = s₀.transactions
  issued : s₀.issued ≤ s.issued
  keys : ∀ k ∈ s₀.invoiceKeys, k ∈ s.invoiceKeys

/-- A posting done: the line is stored and the store is consistent again. -/
structure Posted (s₀ s₁ : Store) (X : Uuid) (stored : Transaction) (s : Store) : Prop where
  consistent : s.Consistent
  confined : Confined X s₀ s
  billRuns : s.billRuns = s₁.billRuns
  transactions : s.transactions = s₀.transactions ++ [stored]
  issued : s₀.issued ≤ s.issued
  keys : ∀ k ∈ s₀.invoiceKeys, k ∈ s.invoiceKeys

/-! ## One step of a posting each -/

theorem Underway.issue (h : Underway s₀ s₁ X δ dI dL s) :
    Underway s₀ s₁ X δ dI dL { s with issued := s.issued + 1 } where
  sound := h.sound.issue 1
  balanced := h.balanced.of_rows rfl rfl rfl rfl
  confined := h.confined.trans fun _ _ => rfl
  billRuns := h.billRuns
  transactions := h.transactions
  issued := Nat.le_succ_of_le h.issued
  keys := h.keys

theorem Underway.start (hc : s₀.Consistent) {allowed : List Status} {f : BillRun → BillRun}
    (hf : ∀ b, (f b).id = b.id ∧ (f b).tally = b.tally + δ)
    (h : (s₀.guarded X allowed f).1 = true) :
    Underway s₀ (s₀.guarded X allowed f).2 X δ 0 0 (s₀.guarded X allowed f).2 := by
  rw [(guarded_true h).1]
  exact { sound := hc.sound.mapBillRun (fun b => (hf b).1) X
          balanced := by simpa using hc.exact.mapBillRun X hf
          confined := confined_mapBillRun (fun b => (hf b).1) X
          billRuns := rfl
          transactions := rfl
          issued := Nat.le_refl _
          keys := fun _ h => h }

theorem Underway.addInvoice (h : Underway s₀ s₁ X δ 0 0 s)
    (hI : ∀ i ∈ s.invoices, i.id = I → i.billRunId = X) (now : Instant) :
    Underway s₀ s₁ X δ (Pi.single I δ) 0
      (s.mapInvoice I fun i => { i with tally := i.tally + δ, updatedAt := now }) where
  sound := h.sound.mapInvoice (fun _ => by exact ⟨rfl, rfl⟩) I
  balanced := by simpa using h.balanced.mapInvoice I fun _ => by exact ⟨rfl, rfl⟩
  confined := h.confined.trans (confined_mapInvoice (fun _ => by exact ⟨rfl, rfl⟩) hI)
  billRuns := h.billRuns
  transactions := h.transactions
  issued := h.issued
  keys k hk := by
    rw [invoiceKeys_mapInvoice fun _ => by exact ⟨rfl, rfl⟩]
    exact h.keys k hk

theorem Underway.addLicence (h : Underway s₀ s₁ X δ dI 0 s)
    (hL : ∀ l ∈ s.licences, l.id = L → l.billRunId = X) (now : Instant) :
    Underway s₀ s₁ X δ dI (Pi.single L δ)
      (s.mapLicence L fun l => { l with tally := l.tally + δ, updatedAt := now }) where
  sound := h.sound.mapLicence (fun _ => by exact ⟨rfl, rfl, rfl⟩) L
  balanced := by simpa using h.balanced.mapLicence L fun _ => by exact ⟨rfl, rfl⟩
  confined := h.confined.trans (confined_mapLicence (fun _ => by exact ⟨rfl, rfl, rfl⟩) hL)
  billRuns := h.billRuns
  transactions := h.transactions
  issued := h.issued
  keys := h.keys

theorem Underway.newInvoice (h : Underway s₀ s₁ X δ 0 0 s) (hX : X ∈ s.billRunIds)
    (inv : Invoice) (hid : inv.id = Uuid.ofSerial s.issued) (hb : inv.billRunId = X)
    (ht : inv.tally = δ) :
    Underway s₀ s₁ X δ (Pi.single inv.id δ) 0
      { s with issued := s.issued + 1, invoices := s.invoices ++ [inv] } := by
  have fresh : ∀ j ∈ s.invoices, j.id ≠ inv.id := fun j hj =>
    hid ▸ (h.sound.invoices_issued _ (List.mem_map_of_mem hj)).ne_ofSerial
  have lines : ∀ t ∈ s.transactions, t.invoiceId ≠ inv.id := fun t ht =>
    hid ▸ (h.sound.invoices_issued _ (h.sound.transaction_invoice_key ht)).ne_ofSerial
  refine { sound := ?_, balanced := ?_, confined := ?_, billRuns := h.billRuns,
           transactions := h.transactions, issued := Nat.le_succ_of_le h.issued,
           keys := fun k hk => by
             simp only [invoiceKeys, List.map_append]
             exact List.mem_append_left _ (h.keys k hk) }
  · refine (h.sound.issue 1).insertInvoice inv ?_ ?_ (hb ▸ hX)
    · simpa [invoiceKeys] using fresh
    · simp [Issued, hid, Uuid.ofSerial]
  · have step := h.balanced.insertInvoice inv fresh lines rfl
    rw [zero_add, ht] at step
    exact step.of_rows rfl rfl rfl rfl
  · have step : Confined inv.billRunId { s with issued := s.issued + 1 }
        { s with issued := s.issued + 1, invoices := s.invoices ++ [inv] } :=
      confined_insertInvoice inv
    have bump : Confined X s { s with issued := s.issued + 1 } := fun _ _ => rfl
    exact (h.confined.trans bump).trans (hb ▸ step)

theorem Underway.newLicence (h : Underway s₀ s₁ X δ dI 0 s) (lic : Licence)
    (hp : (lic.invoiceId, lic.billRunId) ∈ s.invoiceKeys)
    (hid : lic.id = Uuid.ofSerial s.issued) (hb : lic.billRunId = X) (ht : lic.tally = δ) :
    Underway s₀ s₁ X δ dI (Pi.single lic.id δ)
      { s with issued := s.issued + 1, licences := s.licences ++ [lic] } := by
  have fresh : ∀ j ∈ s.licences, j.id ≠ lic.id := fun j hj =>
    hid ▸ (h.sound.licences_issued _ (List.mem_map_of_mem hj)).ne_ofSerial
  have lines : ∀ t ∈ s.transactions, t.licenceId ≠ lic.id := fun t ht =>
    hid ▸ (h.sound.licences_issued _ (h.sound.transaction_key ht)).ne_ofSerial
  refine { sound := ?_, balanced := ?_, confined := ?_, billRuns := h.billRuns,
           transactions := h.transactions, issued := Nat.le_succ_of_le h.issued,
           keys := h.keys }
  · refine (h.sound.issue 1).insertLicence lic ?_ ?_ hp
    · simpa [licenceKeys] using fresh
    · simp [Issued, hid, Uuid.ofSerial]
  · have step := h.balanced.insertLicence lic fresh lines rfl
    rw [zero_add, ht] at step
    exact step.of_rows rfl rfl rfl rfl
  · have step : Confined lic.billRunId { s with issued := s.issued + 1 }
        { s with issued := s.issued + 1, licences := s.licences ++ [lic] } :=
      confined_insertLicence lic
    have bump : Confined X s { s with issued := s.issued + 1 } := fun _ _ => rfl
    exact (h.confined.trans bump).trans (hb ▸ step)

theorem Underway.finish (h : Underway s₀ s₁ X δ (Pi.single I δ) (Pi.single L δ) s)
    (stored : Transaction) (hkey : (stored.licenceId, stored.invoiceId, stored.billRunId) = (L, I, X))
    (hkeys : (L, I, X) ∈ s.licenceKeys) (ht : stored.tally = δ)
    (hfresh : stored.id ∉ s₀.transactionKeys.map (·.1)) (hissued : s₀.Issued stored.id) :
    Posted s₀ s₁ X stored { s with transactions := s.transactions ++ [stored] } := by
  simp only [Prod.mk.injEq] at hkey
  obtain ⟨hL, hI, hX⟩ := hkey
  refine { consistent := ⟨?_, ?_⟩, confined := ?_, billRuns := h.billRuns,
           transactions := by rw [h.transactions], issued := h.issued,
           keys := h.keys }
  · refine h.sound.insertTransaction stored ?_ ?_ (by rw [hL, hI, hX]; exact hkeys)
    · have : s.transactionKeys = s₀.transactionKeys := by simp [transactionKeys, h.transactions]
      rwa [this]
    · unfold Issued at *
      have := h.issued
      omega
  · simpa [Exact, hL, hI, hX, ht] using h.balanced.insertTransaction stored
  · have step : Confined stored.billRunId s { s with transactions := s.transactions ++ [stored] } :=
      confined_insertTransaction stored
    rw [hX] at step
    exact h.confined.trans step

/-! ## The posting, step by step -/

open Op

theorem upsertInvoice_spec {E : Store → Prop} (h : Underway s₀ s₁ X δ 0 0 s)
    (hX : X ∈ s.billRunIds) (customer : String) (year : Int) (now : Instant) :
    Triple (· = s) (upsertInvoice X customer year δ now)
      (fun I s' => Underway s₀ s₁ X δ (Pi.single I δ) 0 s' ∧ (I, X) ∈ s'.invoiceKeys) E := by
  unfold upsertInvoice
  refine .run_bind (fun id s' hs' => ?_) (fun _ _ hs' => by cases hs')
  obtain ⟨rfl, rfl⟩ := EStateM.Result.ok.inj hs'
  refine .modifyGet ?_
  rintro _ rfl
  split <;> dsimp only
  · rename_i i hi
    have hp := List.find?_some hi
    simp only [Bool.and_eq_true, beq_iff_eq] at hp
    have hi' := List.mem_of_find?_eq_some hi
    have hu := h.issue
    refine ⟨hu.addInvoice (fun j hj e => ?_) now, ?_⟩
    · rw [← hp.1.1.1]
      exact hu.sound.invoice_billRun (e ▸ List.mem_map_of_mem hj) (List.mem_map_of_mem hi')
    · rw [invoiceKeys_mapInvoice (fun _ => by exact ⟨rfl, rfl⟩), ← hp.1.1.1]
      exact List.mem_map_of_mem hi'
  · refine ⟨h.newInvoice hX
      { id := Uuid.ofSerial s.issued, billRunId := X, customerReference := customer,
        financialYear := year, tally := δ, createdAt := now, updatedAt := now } rfl rfl rfl, ?_⟩
    simp [invoiceKeys]

theorem upsertLicence_spec {E : Store → Prop} (h : Underway s₀ s₁ X δ (Pi.single I δ) 0 s)
    (hI : (I, X) ∈ s.invoiceKeys) (number : String) (now : Instant) :
    Triple (· = s) (upsertLicence X I number δ now)
      (fun L s' => Underway s₀ s₁ X δ (Pi.single I δ) (Pi.single L δ) s' ∧ (L, I, X) ∈ s'.licenceKeys)
      E := by
  unfold upsertLicence
  refine .run_bind (fun id s' hs' => ?_) (fun _ _ hs' => by cases hs')
  obtain ⟨rfl, rfl⟩ := EStateM.Result.ok.inj hs'
  refine .modifyGet ?_
  rintro _ rfl
  split <;> dsimp only
  · rename_i l hl
    have hp := List.find?_some hl
    simp only [Bool.and_eq_true, beq_iff_eq] at hp
    have hl' := List.mem_of_find?_eq_some hl
    have hu := h.issue
    have hX : l.billRunId = X :=
      hu.sound.invoice_billRun (hp.1 ▸ hu.sound.licence_key hl') hI
    refine ⟨hu.addLicence (fun j hj e => ?_) now, ?_⟩
    · have hj' : (j.id, j.invoiceId, j.billRunId) ∈ ({ s with issued := s.issued + 1 } : Store).licenceKeys :=
        List.mem_map_of_mem hj
      rw [e] at hj'
      have := hu.sound.licence_owner hj' (List.mem_map_of_mem hl')
      simp only [Prod.mk.injEq] at this
      rw [this.2, hX]
    · rw [licenceKeys_mapLicence (fun _ => by exact ⟨rfl, rfl, rfl⟩), ← hp.1, ← hX]
      exact List.mem_map_of_mem hl'
  · refine ⟨h.newLicence
      { id := Uuid.ofSerial s.issued, billRunId := X, invoiceId := I, licenceNumber := number,
        tally := δ, createdAt := now, updatedAt := now } hI rfl rfl rfl, ?_⟩
    simp [licenceKeys]

end Store

open Op Store

variable {s₀ s : Store}

theorem refusal_fails {E : Store → Prop} (X : Uuid) (hE : E s) :
    Triple (· = s) (Posting.refusal X) (fun _ _ => False) E := by
  unfold Posting.refusal
  refine .get_bind (.bind (Triple.readRow.mono (fun _ h => h) (fun _ _ h => h) fun _ h => h ▸ hE)
    fun r => ?_)
  split <;> exact .throw fun _ h => h.2 ▸ hE

theorem post_spec (now : Instant) (t : Transaction) (how : Posting) (hc : s₀.Consistent)
    (hfresh : t.id ∉ s₀.transactionKeys.map (·.1)) (hissued : s₀.Issued t.id)
    (hinv : ∀ I, how.invoice = some I → ∀ i ∈ s₀.invoices, i.id = I → i.billRunId = t.billRunId) :
    Triple (· = s₀) (post now t how)
      (fun stored s =>
        (s₀.guarded t.billRunId how.allowed (BillRun.posted now t.tally)).1 = true ∧
        Posted s₀ (s₀.guarded t.billRunId how.allowed (BillRun.posted now t.tally)).2
          t.billRunId stored s)
      (fun s => s₀.issued ≤ s.issued) := by
  unfold post
  extract_lets delta line invoice
  rw [addBillRunTally_eq, show delta = t.tally from rfl]
  refine .modifyGet_bind ?_
  generalize hg : s₀.guarded t.billRunId how.allowed (BillRun.posted now t.tally) = g
  obtain ⟨ok, s₁⟩ := g
  cases ok
  · -- the bill run did not take the line
    have : s₁ = s₀ := by
      have := guarded_false (congrArg Prod.fst hg)
      rw [hg] at this
      exact this
    subst this
    exact .bind (refusal_fails t.billRunId (Nat.le_refl _)) fun _ => .absurd _
  have hu : Underway s₀ s₁ t.billRunId t.tally 0 0 s₁ := by
    have := Underway.start hc (fun _ => by exact ⟨rfl, rfl⟩) (congrArg Prod.fst hg)
    rw [hg] at this
    exact this
  have hline : ∀ I s, Underway s₀ s₁ t.billRunId t.tally (Pi.single I t.tally) 0 s →
      (I, t.billRunId) ∈ s.invoiceKeys → Triple (· = s) (line I)
        (fun stored s' => Posted s₀ s₁ t.billRunId stored s') (fun s' => s₀.issued ≤ s'.issued) := by
    intro I s hu hI
    simp only [line]
    refine .bind (upsertLicence_spec hu hI _ _) fun L => .of_eq fun s' ⟨hu', hL⟩ => ?_
    generalize hst : ({ t with invoiceId := I, licenceId := L, createdAt := now, updatedAt := now } :
      Transaction) = stored
    have fin : Triple (· = s') (insertTransaction stored >>= fun _ => pure stored)
        (fun stored' s'' => Posted s₀ s₁ t.billRunId stored' s'') (fun s'' => s₀.issued ≤ s''.issued) := by
      subst hst
      exact .modify_bind (.pure fun _ h => h ▸ hu'.finish _ rfl hL rfl hfresh hissued)
    cases t.clientId with
    | none => exact fin
    | some c =>
      refine .get_bind ?_
      split
      · exact .throw_bind fun _ h => h ▸ hu'.issued
      · exact fin
  obtain ⟨hmap, b, hb, hbX, -⟩ := guarded_true (congrArg Prod.fst hg)
  rw [hg] at hmap
  change s₁ = _ at hmap
  have hX : t.billRunId ∈ s₁.billRunIds := by
    rw [hmap, billRunIds_mapBillRun fun b => show (BillRun.posted now t.tally b).id = b.id from rfl]
    exact hbX ▸ List.mem_map_of_mem hb
  refine (?_ : Triple (· = s₁) (invoice ()) (fun stored s => Posted s₀ s₁ t.billRunId stored s)
    _).mono (fun _ h => h) (fun _ _ h => ⟨rfl, h⟩) (fun _ h => h)
  simp only [invoice]
  cases hi : how.invoice with
  | some I =>
    have hI : ∀ i ∈ s₁.invoices, i.id = I → i.billRunId = t.billRunId := by
      rw [hmap]
      exact hinv I hi
    refine .modifyGet_bind (.require_bind (fun _ _ h => h ▸ hu.issued) fun found => ?_)
    obtain ⟨i, hfind⟩ := Option.isSome_iff_exists.1 found
    have hid : i.id = I := by simpa using List.find?_some hfind
    have hkey : (I, t.billRunId) ∈ s₁.invoiceKeys :=
      hid ▸ hI i (List.mem_of_find?_eq_some hfind) hid ▸ List.mem_map_of_mem (List.mem_of_find?_eq_some hfind)
    exact hline I _ (hu.addInvoice hI now)
      (by rw [invoiceKeys_mapInvoice (fun _ => by exact ⟨rfl, rfl⟩)]; exact hkey)
  | none =>
    exact .bind (upsertInvoice_spec hu hX _ _ _) fun I => .of_eq fun s ⟨hu', hI⟩ => hline I s hu' hI

/-! ## Lines posted in a block -/

/-- Drawing an identifier and posting the line it names onto bill run `X`, onto an invoice
among `ks`, keeps the ledger consistent with those invoices and changes nothing but `X`. -/
theorem fresh_post_within {X : Uuid} (now : Instant) (line : Uuid → Transaction) (how : Posting)
    (ks : List (Uuid × Uuid)) (hid : ∀ u, (line u).id = u) (hX : ∀ u, (line u).billRunId = X)
    (hkey : ∀ I, how.invoice = some I → (I, X) ∈ ks) :
    Preserves (fun s => Within X s₀ s ∧ ∀ k ∈ ks, k ∈ s.invoiceKeys)
      (Store.fresh >>= fun id => post now (line id) how >>= fun _ => pure ()) := by
  refine Preserves.fresh_bind fun n s ⟨hw, hk⟩ hn => ?_
  have hfresh : (line (Uuid.ofSerial s.issued)).id ∉ s.transactionKeys.map (·.1) := by
    rw [hid]
    exact hw.1.sound.fresh_transaction
  have hinv : ∀ I, how.invoice = some I → ∀ i ∈ s.invoices, i.id = I →
      i.billRunId = (line (Uuid.ofSerial s.issued)).billRunId := fun I hI => by
    rw [hX]
    exact hw.1.sound.invoice_on (hk _ (hkey I hI))
  have hn' : n ≤ s.issued + 1 := Nat.le_succ_of_le hn
  refine .bind ((post_spec now _ how (hw.1.issue (Nat.le_succ _)) hfresh (by simp [Issued, hid,
    Uuid.ofSerial]) hinv).mono (fun _ h => h) (fun _ _ h => ⟨⟨⟨h.2.consistent,
      (hw.2.trans fun _ _ => rfl).trans (hX _ ▸ h.2.confined)⟩, fun k hk' => h.2.keys k (hk k hk')⟩,
      Nat.le_trans hn' h.2.issued⟩)
    fun _ h => Nat.le_trans hn' h) fun _ => .pure fun _ h => h

end ChargeLedger
