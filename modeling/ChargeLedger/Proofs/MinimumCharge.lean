import ChargeLedger.Proofs.Topping

/-!
# What generation tops up

Under presroc, generation tops a primary invoice up to the minimum charge on each side whose
value subject to it lies strictly between zero and the floor: one adjustment line of the
shortfall, on that side, copied from the invoice's earliest line subject to the minimum charge
that is no adjustment (earliest by creation time, then identifier), and so on that line's
licence.

This module follows the lines a top-up appends. One posting of a top-up appends exactly its
line, on the copied line's licence (`post_adjustment_lands`); topping up one invoice appends one
line per side below the floor and nothing else (`applyMinimumCharge_appends`); topping up a list
of invoices appends each invoice's own lines and reports the invoices it topped up
(`applyMinimumCharges_appends`). What a top-up appends is described by `TopsUp`, against the
ledger as it was before the first one.
-/

set_option autoImplicit false

namespace ChargeLedger

open Op Store

/-! ## The earliest line -/

namespace Store

variable {s s' : Store} {I : Uuid} {u : Transaction}

theorem transactionOrder_eq :
    transactionOrder = compareLex (compareOn fun t : Transaction => t.createdAt.storedText)
      (compareOn fun t => t.id.value) := rfl

theorem transactionOrder_refl (a : Transaction) : transactionOrder a a ≠ .gt := by
  simp [transactionOrder]

theorem transactionOrder_trans {a b c : Transaction} (hab : transactionOrder a b ≠ .gt)
    (hbc : transactionOrder b c ≠ .gt) : transactionOrder a c ≠ .gt := by
  rw [transactionOrder_eq] at *
  exact Std.TransCmp.le_trans hab hbc

theorem transactionOrder_total (a b : Transaction) :
    transactionOrder a b ≠ .gt ∨ transactionOrder b a ≠ .gt := by
  rw [transactionOrder_eq]
  by_cases h : compareLex (compareOn fun t : Transaction => t.createdAt.storedText)
    (compareOn fun t => t.id.value) a b = .gt
  · exact Or.inr (Std.OrientedCmp.not_gt_of_gt h)
  · exact Or.inl h

theorem transactionsOfInvoice_sorted (s : Store) (I : Uuid) :
    (s.transactionsOfInvoice I).Pairwise fun a b => transactionOrder a b ≠ .gt := by
  refine (@List.pairwise_mergeSort Transaction (fun a b => transactionOrder a b != .gt)
    (fun a b c hab hbc => ?_) (fun a b => ?_) _).imp fun h => by simpa using h
  · simp only [bne_iff_ne, ne_eq] at hab hbc ⊢
    exact transactionOrder_trans hab hbc
  · simpa only [Bool.or_eq_true, bne_iff_ne] using transactionOrder_total a b

/-- `u` is the earliest line of invoice `I`, by creation time and then identifier, among those
subject to the minimum charge that are no adjustment. -/
def EarliestSubjectLine (s : Store) (I : Uuid) (u : Transaction) : Prop :=
  u ∈ s.transactions ∧ u.invoiceId = I ∧ u.subjectToMinimumCharge = true ∧
    u.minimumChargeAdjustment = false ∧
    ∀ v ∈ s.transactions, v.invoiceId = I → v.subjectToMinimumCharge = true →
      v.minimumChargeAdjustment = false → transactionOrder u v ≠ .gt

theorem earliestSubjectLine_of_find?
    (h : (s.transactionsOfInvoice I).find?
      (fun t => t.subjectToMinimumCharge && !t.minimumChargeAdjustment) = some u) :
    s.EarliestSubjectLine I u := by
  obtain ⟨hp, before, after, hsplit, hbefore⟩ := List.find?_eq_some_iff_append.1 h
  simp only [Bool.and_eq_true, Bool.not_eq_eq_eq_not, Bool.not_true] at hp
  obtain ⟨hmem, hI⟩ := mem_transactionsOfInvoice.1
    (hsplit ▸ List.mem_append_right before List.mem_cons_self)
  refine ⟨hmem, hI, hp.1, hp.2, fun v hv hvI hvs hva => ?_⟩
  have hsorted := transactionsOfInvoice_sorted s I
  rw [hsplit, List.pairwise_append, List.pairwise_cons] at hsorted
  have hv' := mem_transactionsOfInvoice.2 ⟨hv, hvI⟩
  rw [hsplit] at hv'
  rcases List.mem_append.1 hv' with hvb | hva'
  · -- no line before `u` passes the test
    have := hbefore v hvb
    simp [hvs, hva] at this
  · rcases List.mem_cons.1 hva' with rfl | hva'
    · exact transactionOrder_refl v
    · exact hsorted.2.1.1 v hva'

theorem EarliestSubjectLine.congr (h : s.EarliestSubjectLine I u)
    (hlines : ∀ t, t.minimumChargeAdjustment = false →
      (t ∈ s'.transactions ↔ t ∈ s.transactions)) :
    s'.EarliestSubjectLine I u :=
  ⟨(hlines u h.2.2.2.1).2 h.1, h.2.1, h.2.2.1, h.2.2.2.1,
    fun v hv hvI hvs hva => h.2.2.2.2 v ((hlines v hva).1 hv) hvI hvs hva⟩

theorem Fitted.licenceId_eq (h : s.Fitted) {t u : Transaction} (ht : t ∈ s.transactions)
    (hu : u ∈ s.transactions) (hI : t.invoiceId = u.invoiceId)
    (hn : t.licenceNumber = u.licenceNumber) : t.licenceId = u.licenceId := by
  obtain ⟨l, hl, hlk⟩ := List.mem_map.1 (h.sound.transaction_key ht)
  obtain ⟨m, hm, hmk⟩ := List.mem_map.1 (h.sound.transaction_key hu)
  simp only [Prod.mk.injEq] at hlk hmk
  have hkey : l.key = m.key := by
    rw [Licence.key, Licence.key, hlk.2.1, hmk.2.1, hI, (h.fits t ht).1 l hl hlk.1,
      (h.fits u hu).1 m hm hmk.1, hn]
  have hnd := h.uniqueLicences
  rw [← hlk.1, ← hmk.1, List.inj_on_of_nodup_map hnd hl hm hkey]

end Store

/-! ## The sides of an invoice -/

def Tally.subjectValue (t : Tally) (credit : Bool) : Int64 :=
  if credit then t.subjectCreditValue else t.subjectDebitValue

theorem sidesBelow_side (inv : Invoice) (floor : Int64) (credit : Bool) :
    (BillRun.sidesBelow inv floor).filter (·.1 == credit) =
      if 0 < inv.tally.subjectValue credit ∧ inv.tally.subjectValue credit < floor then
        [(credit, inv.tally.subjectValue credit)]
      else [] := by
  cases credit <;> by_cases hd : 0 < inv.tally.subjectDebitValue ∧
    inv.tally.subjectDebitValue < floor <;> by_cases hc : 0 < inv.tally.subjectCreditValue ∧
    inv.tally.subjectCreditValue < floor <;>
    simp_all [BillRun.sidesBelow, Tally.subjectValue]

/-! ## One top-up -/

def Transaction.topUp (t : Transaction) : Uuid × Uuid × Bool × Bool × Int64 :=
  (t.invoiceId, t.licenceId, t.raised, t.chargeCredit, t.chargeValue)

theorem Transaction.adjustment_of_raised {t : Transaction} (h : t.raised = true) :
    t.minimumChargeAdjustment = true := by
  simp only [Transaction.raised, Bool.and_eq_true] at h
  exact h.1

namespace Store

variable {s₀ s s' : Store} {X : Uuid}

/-- The invoices of `s` are those of `s₀`, in their order, each still what it is; their tallies,
flags and references may have moved. -/
def SameInvoices (s₀ s : Store) : Prop :=
  s.invoices.map Invoice.lineage = s₀.invoices.map Invoice.lineage

theorem SameInvoices.refl (s : Store) : SameInvoices s s := rfl

theorem SameInvoices.trans (h : SameInvoices s₀ s) (h' : SameInvoices s s') : SameInvoices s₀ s' :=
  Eq.trans h' h

theorem SameInvoices.inPlace (s₀ : Store) : InPlace (SameInvoices s₀) where
  mapBillRun _ _ _ _ h := h
  mapInvoice s K g hg h := by
    unfold SameInvoices mapInvoice
    rw [← h, List.map_map]
    refine List.map_congr_left fun i _ => ?_
    simp only [Function.comp_apply]
    split
    · exact hg i
    · rfl
  counters _ _ h := h
  issue _ _ h _ := h

/-- A ledger topping up bill run `X`: consistent, in shape, and `X` generating. -/
structure ToppingUp (X : Uuid) (s : Store) : Prop where
  consistent : s.Consistent
  coherent : s.Coherent
  generating : s.statusOf X = some .generating

end Store

theorem post_stored (now : Instant) (t : Transaction) (how : Posting) :
    Triple (fun _ => True) (post now t how)
      (fun stored _ => ∃ I L, (∀ K, how.invoice = some K → I = K) ∧
        stored = { t with invoiceId := I, licenceId := L, createdAt := now, updatedAt := now })
      (fun _ => True) := by
  unfold post
  extract_lets delta line invoice
  have hline : ∀ I, (∀ K, how.invoice = some K → I = K) → Triple (fun _ => True) (line I)
      (fun stored _ => ∃ I L, (∀ K, how.invoice = some K → I = K) ∧
        stored = { t with invoiceId := I, licenceId := L, createdAt := now, updatedAt := now })
      (fun _ => True) := fun I hI => by
    simp only [line]
    refine Triple.bind (Triple.always _) fun L => ?_
    have hstore : ∀ {α : Type} (x : Op α), Triple (fun _ => True)
        (x >>= fun _ => insertTransaction
          { t with invoiceId := I, licenceId := L, createdAt := now, updatedAt := now } >>= fun _ =>
          pure { t with invoiceId := I, licenceId := L, createdAt := now, updatedAt := now })
        (fun stored _ => ∃ I L, (∀ K, how.invoice = some K → I = K) ∧
          stored = { t with invoiceId := I, licenceId := L, createdAt := now, updatedAt := now })
        (fun _ => True) := fun x =>
      Triple.bind (Triple.always x) fun _ => Triple.bind (Triple.always _) fun _ =>
        Triple.pure fun _ _ => ⟨I, L, hI, rfl⟩
    split
    · refine Triple.bind (Triple.always _) fun _ => ?_
      split
      · exact hstore _
      · exact hstore (pure ())
    · exact hstore (pure ())
  have hinvoice : ∀ u, Triple (fun _ => True) (invoice u)
      (fun stored _ => ∃ I L, (∀ K, how.invoice = some K → I = K) ∧
        stored = { t with invoiceId := I, licenceId := L, createdAt := now, updatedAt := now })
      (fun _ => True) := fun _ => by
    simp only [invoice]
    split
    · rename_i K hK
      exact Triple.bind (Triple.always _) fun _ => Triple.bind (Triple.always _) fun _ =>
        Triple.bind (Q := fun I _ => I = K) (Triple.pure fun _ _ => rfl) fun I =>
          Triple.of_eq fun _ e => hline I (fun K' e' => by rw [e, ← Option.some.inj (hK.symm.trans e')])
            |>.mono (fun _ _ => trivial) (fun _ _ h => h) fun _ h => h
    · rename_i hK
      exact Triple.bind (Triple.always _) fun I => hline I fun K e => by simp [hK] at e
  refine Triple.bind (Triple.always _) fun _ => ?_
  split
  · exact Triple.bind (Triple.always _) hinvoice
  · exact hinvoice ()

theorem post_sameInvoices {s₀ : Store} (now : Instant) (t : Transaction) (how : Posting) {K : Uuid}
    (hK : how.invoice = some K) :
    Triple (SameInvoices s₀) (post now t how) (fun _ => SameInvoices s₀) (fun _ => True) := by
  have hJ := (SameInvoices.inPlace s₀).rewrites
  unfold post
  extract_lets delta line invoice
  have hline : ∀ I, Triple (SameInvoices s₀) (line I) (fun _ => SameInvoices s₀) (fun _ => True) :=
    fun I => by
      simp only [line]
      refine Triple.bind (Q := fun _ => SameInvoices s₀) (Triple.of_eq fun s h => ?_) fun L => ?_
      · unfold upsertLicence
        refine Triple.fresh_bind (Triple.modifyGet fun _ e => ?_)
        subst e
        split <;> exact h
      have hstore : ∀ {α : Type} (x : Op α), Triple (SameInvoices s₀) x (fun _ => SameInvoices s₀)
          (fun _ => True) → Triple (SameInvoices s₀)
          (x >>= fun _ => insertTransaction
            { t with invoiceId := I, licenceId := L, createdAt := now, updatedAt := now } >>= fun _ =>
            pure { t with invoiceId := I, licenceId := L, createdAt := now, updatedAt := now })
          (fun _ => SameInvoices s₀) (fun _ => True) := fun _ hx =>
        Triple.bind hx fun _ => Triple.bind (Triple.modify fun _ h => h) fun _ =>
          Triple.pure fun _ h => h
      split
      · refine Triple.bind (Triple.get fun _ h => h) fun _ => ?_
        split
        · exact hstore _ (Triple.throw fun _ _ => trivial)
        · exact hstore (pure ()) (Triple.pure fun _ h => h)
      · exact hstore (pure ()) (Triple.pure fun _ h => h)
  have hinvoice : ∀ u, Triple (SameInvoices s₀) (invoice u) (fun _ => SameInvoices s₀)
      (fun _ => True) := fun _ => by
    simp only [invoice, hK]
    exact Triple.bind ((hJ.addInvoiceTally _ _ _ 0).mono (fun _ h => ⟨h, Nat.zero_le _⟩)
      (fun _ _ h => h.1) fun _ _ => trivial) fun _ =>
      Triple.bind (Triple.require fun _ h => ⟨fun _ => h, fun _ => trivial⟩) fun _ =>
        Triple.bind (Triple.pure fun _ h => h) hline
  refine Triple.bind ((hJ.addBillRunTally _ _ _ _ 0).mono (fun _ h => ⟨h, Nat.zero_le _⟩)
    (fun _ _ h => h.1) fun _ _ => trivial) fun _ => ?_
  split
  · -- a refused posting never returns
    exact Triple.bind (Triple.of_eq fun _ _ => (refusal_fails (E := fun _ => True) _ trivial).mono
      (fun _ h => h) (fun _ _ h => h.elim) fun _ h => h) hinvoice
  · exact hinvoice ()

section TopUp

variable (now : Instant) {X : Uuid}

/-- A top-up copied from a line of generating bill run `X` and posted onto the line's invoice
appends exactly one line: raised on that invoice and on the line's licence, on its side and
with its value. The ledger stays consistent and in shape, `X` generating, and its invoices and
their keys stay. -/
theorem post_adjustment_lands {s : Store} {template : Transaction} {K : Uuid} (credit : Bool)
    (value : Int64) (h : ToppingUp X s) (ht : template ∈ s.transactions)
    (hX : template.billRunId = X) (hK : template.invoiceId = K) :
    Triple (· = { s with issued := s.issued + 1 })
      (post now (BillRun.adjustment (Uuid.ofSerial s.issued) template credit value)
        { invoice := some K, allowed := [.generating] })
      (fun stored s' => ToppingUp X s' ∧ s'.transactions = s.transactions ++ [stored] ∧
        SameInvoices s s' ∧ (∀ k ∈ s.invoiceKeys, k ∈ s'.invoiceKeys) ∧
        stored.topUp = (K, template.licenceId, true, credit, value))
      (fun _ => False) := by
  have hreturns := post_adjustment_returns now credit value h.consistent h.generating ht hX hK
  have hcoherent := post_adjustment_coherent now credit value h.coherent ht hK
  have hsame := @post_sameInvoices s now
    (BillRun.adjustment (Uuid.ofSerial s.issued) template credit value)
    { invoice := some K, allowed := [.generating] } _ rfl
  have hstored := post_stored now (BillRun.adjustment (Uuid.ofSerial s.issued) template credit value)
    { invoice := some K, allowed := [.generating] }
  refine (((hreturns.conj hcoherent).conj hsame).conj hstored).mono
    (fun _ e => ⟨⟨⟨e, e⟩, by rw [e]; rfl⟩, trivial⟩) (fun stored s' h => ?_) fun _ h => h.1.1.1
  obtain ⟨⟨⟨⟨hc, hg, hlines, hkeys⟩, hco, -⟩, hsame⟩, I, L, hI, hst⟩ := h
  have hIK : I = K := hI K rfl
  subst I
  have hL : stored.licenceId = template.licenceId := hco.1.licenceId_eq (t := stored) (u := template)
    (by rw [hlines]; exact List.mem_append_right _ (List.mem_singleton_self _))
    (by rw [hlines]; exact List.mem_append_left _ ht) (by rw [hst, hK]) (by rw [hst]; rfl)
  refine ⟨⟨hc, hco, hg⟩, hlines, hsame, hkeys, ?_⟩
  rw [Transaction.topUp, hL, hst]
  rfl

end TopUp

/-! ## One invoice -/

/-- What topping invoice `inv` up to `floor` appends, against the ledger `s` it starts from: for
a primary invoice that counts lines subject to the minimum charge and has a side below the floor,
one line per such side, in order, raised on `inv`, on the licence of its earliest subject line
that is no adjustment, on that side and worth the shortfall; for any other invoice nothing. -/
def TopsUp (s : Store) (inv : Invoice) (floor : Int64) (news : List Transaction) : Prop :=
  if inv.tally.subjectCount ≠ 0 ∧ inv.kind = .primary ∧ BillRun.sidesBelow inv floor ≠ [] then
    ∃ u, s.EarliestSubjectLine inv.id u ∧
      news.map Transaction.topUp = (BillRun.sidesBelow inv floor).map fun side =>
        (inv.id, u.licenceId, true, side.1, floor - side.2)
  else news = []

namespace TopsUp

variable {s s' : Store} {inv : Invoice} {floor : Int64} {news : List Transaction}

theorem lines (h : TopsUp s inv floor news) :
    ∀ t ∈ news, t.invoiceId = inv.id ∧ t.raised = true := by
  intro t ht
  unfold TopsUp at h
  split at h
  · obtain ⟨u, -, hmap⟩ := h
    obtain ⟨side, -, e⟩ := List.mem_map.1 (hmap ▸ List.mem_map_of_mem ht)
    simp only [Transaction.topUp, Prod.mk.injEq] at e
    exact ⟨e.1.symm, e.2.2.1.symm⟩
  · exact absurd (h ▸ ht) List.not_mem_nil

theorem congr (h : TopsUp s inv floor news)
    (hlines : ∀ t, t.minimumChargeAdjustment = false →
      (t ∈ s'.transactions ↔ t ∈ s.transactions)) : TopsUp s' inv floor news := by
  unfold TopsUp at h ⊢
  split at h
  · rw [if_pos ‹_›]
    obtain ⟨u, hu, hmap⟩ := h
    exact ⟨u, hu.congr hlines, hmap⟩
  · rwa [if_neg ‹_›]

end TopsUp

section TopUp

variable (now : Instant) {X : Uuid}

/-- Topping up invoice `inv` of generating bill run `X` appends what `TopsUp` says and says how
many lines it appended; the ledger stays consistent and in shape, `X` generating, and its
invoices and their keys stay. -/
theorem applyMinimumCharge_appends {s₀ : Store} (inv : Invoice) (floor : Int64)
    (h₀ : ToppingUp X s₀) (hk : (inv.id, X) ∈ s₀.invoiceKeys) :
    Triple (· = s₀) (BillRun.applyMinimumCharge now inv floor)
      (fun n s => ∃ news, s.transactions = s₀.transactions ++ news ∧ n = news.length ∧
        TopsUp s₀ inv floor news ∧ ToppingUp X s ∧ SameInvoices s₀ s ∧
        ∀ k ∈ s₀.invoiceKeys, k ∈ s.invoiceKeys)
      (fun _ => True) := by
  unfold BillRun.applyMinimumCharge
  dsimp only
  split
  · rename_i hskip
    refine Triple.pure fun s e => ?_
    subst e
    refine ⟨[], (List.append_nil _).symm, rfl, ?_, h₀, SameInvoices.refl _, fun _ h => h⟩
    rw [TopsUp, if_neg]
    rintro ⟨hn, hp, hs⟩
    simp [hn, hp, hs] at hskip
  rename_i hcond
  simp only [Bool.or_eq_true, beq_iff_eq, bne_iff_ne, ne_eq, not_or, not_not,
    List.isEmpty_iff] at hcond
  refine Triple.get_bind ?_
  split
  · exact Triple.throw fun _ _ => trivial
  rename_i template htemplate
  have hearliest := earliestSubjectLine_of_find? htemplate
  obtain ⟨ht, hK⟩ := mem_transactionsOfInvoice.1 (List.mem_of_find?_eq_some htemplate)
  have hX : template.billRunId = X := h₀.consistent.sound.invoice_billRun
    (hK ▸ h₀.consistent.sound.transaction_invoice_key ht) hk
  -- the top-ups appended so far, each the next side's, before the sides still to go
  let top : Bool × Int64 → Uuid × Uuid × Bool × Bool × Int64 := fun side =>
    (inv.id, template.licenceId, true, side.1, floor - side.2)
  refine Triple.bind ((Triple.forM (fun rest s => ∃ news, s.transactions = s₀.transactions ++ news ∧
      news.map Transaction.topUp ++ rest.map top = (BillRun.sidesBelow inv floor).map top ∧
      ToppingUp X s ∧ SameInvoices s₀ s ∧ ∀ k ∈ s₀.invoiceKeys, k ∈ s.invoiceKeys)
      fun side rest => Triple.of_eq fun s hs => Triple.fresh_bind ?_).mono
    (fun _ e => ⟨[], by rw [e, List.append_nil], rfl, e ▸ h₀, e ▸ SameInvoices.refl _,
      fun _ h => e ▸ h⟩) (fun _ _ h => h) fun _ h => h) fun _ => Triple.pure fun s hs => ?_
  · obtain ⟨news, hlines, hview, htop, hsame, hkeys⟩ := hs
    have hts : template ∈ s.transactions := by
      rw [hlines]
      exact List.mem_append_left _ ht
    refine Triple.bind ((post_adjustment_lands now side.1 (floor - side.2) htop hts hX hK).mono
      (fun _ h => h) (fun _ s' h' => ?_) fun _ h => h.elim) fun _ => Triple.pure fun _ h => h
    obtain ⟨htop', hlines', hsame', hkeys', hview'⟩ := h'
    refine ⟨news ++ [_], by rw [hlines', hlines, List.append_assoc], ?_, htop',
      hsame.trans hsame', fun k hk => hkeys' k (hkeys k hk)⟩
    rw [← hview, List.map_append, List.map_singleton, hview', List.map_cons, List.append_assoc]
    rfl
  · obtain ⟨news, hlines, hview, htop, hsame, hkeys⟩ := hs
    rw [List.map_nil, List.append_nil] at hview
    refine ⟨news, hlines, by rw [← List.length_map Transaction.topUp, hview, List.length_map], ?_,
      htop, hsame, hkeys⟩
    rw [TopsUp, if_pos ⟨hcond.1.1, hcond.1.2, hcond.2⟩]
    exact ⟨template, hK ▸ hearliest, hview⟩

/-- Topping up a list of distinct invoices of generating bill run `X` appends, for each invoice,
what `TopsUp` says against the ledger it started from, and nothing else; it reports the invoices
it appended lines to. -/
theorem applyMinimumCharges_appends (floor : Int64) (invs : List Invoice) {s₀ : Store}
    (h₀ : ToppingUp X s₀) (hk : ∀ inv ∈ invs, (inv.id, X) ∈ s₀.invoiceKeys)
    (hnd : (invs.map (·.id)).Nodup) :
    Triple (· = s₀) (BillRun.applyMinimumCharges now floor invs)
      (fun charged s => ∃ added, s.transactions = s₀.transactions ++ added ∧
        (∀ inv ∈ invs, TopsUp s₀ inv floor (added.filter (·.invoiceId == inv.id))) ∧
        (∀ t ∈ added, t.raised = true ∧ ∃ inv ∈ invs, t.invoiceId = inv.id) ∧
        (∀ I, I ∈ charged ↔ ∃ t ∈ added, t.invoiceId = I) ∧
        ToppingUp X s ∧ SameInvoices s₀ s)
      (fun _ => True) := by
  induction invs generalizing s₀ with
  | nil =>
    exact Triple.pure fun s e => ⟨[], by rw [e, List.append_nil], fun _ h => absurd h List.not_mem_nil,
      fun _ h => absurd h List.not_mem_nil, fun _ => by simp, e ▸ h₀, e ▸ SameInvoices.refl _⟩
  | cons inv rest ih =>
    rw [BillRun.applyMinimumCharges]
    rw [List.map_cons, List.nodup_cons] at hnd
    refine Triple.bind (applyMinimumCharge_appends now inv floor h₀ (hk inv List.mem_cons_self))
      fun n => Triple.of_eq fun s₁ h₁ => ?_
    obtain ⟨news, hlines₁, hn, htops, htop₁, hsame₁, hkeys₁⟩ := h₁
    refine Triple.bind (ih htop₁ (fun i hi => hkeys₁ _ (hk i (List.mem_cons_of_mem inv hi))) hnd.2)
      fun others => Triple.pure fun s h => ?_
    obtain ⟨added, hlines, htopsR, hadded, hcharged, htop, hsame⟩ := h
    have hnews := htops.lines
    have hoff : ∀ t ∈ added, t.invoiceId ≠ inv.id := fun t ht e => by
      obtain ⟨-, i, hi, hti⟩ := hadded t ht
      exact hnd.1 (e ▸ hti ▸ List.mem_map_of_mem hi)
    refine ⟨news ++ added, by rw [hlines, hlines₁, List.append_assoc], fun i hi => ?_,
      fun t ht => ?_, fun I => ?_, htop, hsame₁.trans hsame⟩
    · rw [List.filter_append]
      rcases List.mem_cons.1 hi with rfl | hi
      · rw [List.filter_eq_self.2 fun t ht => by simp [(hnews t ht).1],
          List.filter_eq_nil_iff.2 fun t ht => by simpa using hoff t ht, List.append_nil]
        exact htops
      · have hne : i.id ≠ inv.id := fun e => hnd.1 (e ▸ List.mem_map_of_mem hi)
        rw [List.filter_eq_nil_iff.2 fun t ht => by simpa [(hnews t ht).1] using hne.symm,
          List.nil_append]
        -- the lines appended for `inv` are adjustments, so the earliest lines stay
        refine (htopsR i hi).congr fun t hta => ?_
        rw [hlines₁, List.mem_append, or_iff_left]
        exact fun ht => Bool.false_ne_true
          (hta.symm.trans (Transaction.adjustment_of_raised (hnews t ht).2))
    · rcases List.mem_append.1 ht with ht | ht
      · exact ⟨(hnews t ht).2, inv, List.mem_cons_self, (hnews t ht).1⟩
      · obtain ⟨hr, i, hi, hti⟩ := hadded t ht
        exact ⟨hr, i, List.mem_cons_of_mem inv hi, hti⟩
    · rw [hn]
      simp only [List.mem_append, or_and_right, exists_or]
      split
      · rename_i hpos
        obtain ⟨t, ht⟩ := List.exists_mem_of_length_pos hpos
        rw [List.mem_cons, hcharged I]
        exact or_congr_left ⟨fun e => ⟨t, ht, (hnews t ht).1.trans e.symm⟩,
          fun h => by
            obtain ⟨u, hu, e⟩ := h
            exact e.symm.trans (hnews u hu).1⟩
      · rename_i hzero
        rw [hcharged I, List.length_eq_zero_iff.1 (Nat.eq_zero_of_not_pos hzero)]
        simp

end TopUp

end ChargeLedger
