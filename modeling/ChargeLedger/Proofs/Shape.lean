import ChargeLedger.Proofs.Rebills

/-!
# The shape of a ledger

Beyond hanging together by identifiers (`Sound`), the rows of a ledger agree on what they
share. A line's licence carries the line's licence number, its invoice the line's customer and
financial year, and its bill run the line's regime, region and ruleset (`Store.Fits`).
Invoices are told apart by bill run, customer, year and kind, licences by invoice and licence
number, and lines with a client id by that id within their regime (`Store.Fitted`). No licence
is without a line that generation did not raise, and no invoice is without a licence
(`Store.Filled`).

Every single write keeps `Fitted`. `Filled` is kept by postings and removals as wholes: a
posting makes its invoice and licence before the line that fills them, and the removal of a
licence empties its invoice before it takes the invoice away.
-/

set_option autoImplicit false

namespace ChargeLedger

def Transaction.raised (t : Transaction) : Bool :=
  t.minimumChargeAdjustment && t.rebilledTransactionId.isNone

def Transaction.clientKey (t : Transaction) : Option (Uuid × String) :=
  t.clientId.map fun c => (t.regimeId, c)

def Invoice.key (i : Invoice) : Uuid × String × Int × InvoiceKind :=
  (i.billRunId, i.customerReference, i.financialYear, i.kind)

def Licence.key (l : Licence) : Uuid × String := (l.invoiceId, l.licenceNumber)

def Licence.lineage (l : Licence) : Uuid × Uuid × Uuid × String :=
  (l.id, l.invoiceId, l.billRunId, l.licenceNumber)

namespace Store

/-- The rows a line names carry what the line says of them. -/
def Fits (s : Store) (t : Transaction) : Prop :=
  (∀ l ∈ s.licences, l.id = t.licenceId → l.licenceNumber = t.licenceNumber) ∧
  (∀ i ∈ s.invoices, i.id = t.invoiceId →
    i.customerReference = t.customerReference ∧ i.financialYear = t.chargeFinancialYear) ∧
  (∀ b ∈ s.billRuns, b.id = t.billRunId →
    b.regimeId = t.regimeId ∧ b.region = t.region ∧ b.ruleset = t.ruleset)

/-- The rows hang together, every line fits, and keys are unique. -/
structure Fitted (s : Store) : Prop where
  sound : s.Sound
  fits : ∀ t ∈ s.transactions, s.Fits t
  uniqueInvoices : (s.invoices.map Invoice.key).Nodup
  uniqueLicences : (s.licences.map Licence.key).Nodup
  uniqueClients : (s.transactions.filterMap Transaction.clientKey).Nodup

/-- No licence lacks a line that generation did not raise, and no invoice outside `K` lacks a
licence. The invoices of `K` are being filled: a copy before its lines come, an invoice whose
licence is going. -/
structure Filled (s : Store) (K : List Uuid) : Prop where
  licences : ∀ l ∈ s.licences, ∃ t ∈ s.transactions, t.licenceId = l.id ∧ t.raised = false
  invoices : ∀ i ∈ s.invoices, i.id ∉ K → ∃ l ∈ s.licences, l.invoiceId = i.id

/-- The shape of a ledger between requests. -/
def Coherent (s : Store) : Prop := s.Fitted ∧ s.Filled []

variable {s s' : Store}

theorem Invoice.key_of_lineage {i j : Invoice} (e : i.lineage = j.lineage) : i.key = j.key := by
  obtain ⟨-, hb, hc, hy, hk, -⟩ := Invoice.lineage_eq e
  simp [Invoice.key, hb, hc, hy, hk]

theorem Licence.key_of_lineage {l m : Licence} (e : l.lineage = m.lineage) : l.key = m.key := by
  simp only [Licence.lineage, Prod.mk.injEq] at e
  simp [Licence.key, e.2.1, e.2.2.2]

/-! ## Rows that keep what they are -/

theorem Fits.of_rows {t : Transaction} (h : s.Fits t)
    (hb : ∀ b' ∈ s'.billRuns, ∃ b ∈ s.billRuns, b.place = b'.place)
    (hi : ∀ i' ∈ s'.invoices, ∃ i ∈ s.invoices, i.lineage = i'.lineage)
    (hl : ∀ l' ∈ s'.licences, ∃ l ∈ s.licences, l.lineage = l'.lineage) : s'.Fits t := by
  obtain ⟨fl, fi, fb⟩ := h
  refine ⟨fun l' hl' e => ?_, fun i' hi' e => ?_, fun b' hb' e => ?_⟩
  · obtain ⟨l, hl, el⟩ := hl l' hl'
    simp only [Licence.lineage, Prod.mk.injEq] at el
    rw [← el.2.2.2]
    exact fl l hl (el.1.trans e)
  · obtain ⟨i, hi, ei⟩ := hi i' hi'
    obtain ⟨hid, -, hcu, hyr, -⟩ := Invoice.lineage_eq ei
    rw [← hcu, ← hyr]
    exact fi i hi (hid.trans e)
  · obtain ⟨b, hb, eb⟩ := hb b' hb'
    simp only [BillRun.place, Prod.mk.injEq] at eb
    rw [← eb.2.1, ← eb.2.2.1, ← eb.2.2.2]
    exact fb b hb (eb.1.trans e)

theorem Fitted.of_rows (h : s.Fitted) (hs : s'.Sound)
    (hb : ∀ b' ∈ s'.billRuns, ∃ b ∈ s.billRuns, b.place = b'.place)
    (hi : ∀ i' ∈ s'.invoices, ∃ i ∈ s.invoices, i.lineage = i'.lineage)
    (hl : ∀ l' ∈ s'.licences, ∃ l ∈ s.licences, l.lineage = l'.lineage)
    (ht : s'.transactions.Sublist s.transactions)
    (hik : (s'.invoices.map Invoice.key).Sublist (s.invoices.map Invoice.key))
    (hlk : (s'.licences.map Licence.key).Sublist (s.licences.map Licence.key)) : s'.Fitted where
  sound := hs
  fits t ht' := (h.fits t (ht.subset ht')).of_rows hb hi hl
  uniqueInvoices := hik.nodup h.uniqueInvoices
  uniqueLicences := hlk.nodup h.uniqueLicences
  uniqueClients := (ht.filterMap _).nodup h.uniqueClients

theorem Fitted.of_sublist (h : s.Fitted) (hs : s'.Sound) (hb : s'.billRuns.Sublist s.billRuns)
    (hi : s'.invoices.Sublist s.invoices) (hl : s'.licences.Sublist s.licences)
    (ht : s'.transactions.Sublist s.transactions) : s'.Fitted :=
  h.of_rows hs (fun b hb' => ⟨b, hb.subset hb', rfl⟩) (fun i hi' => ⟨i, hi.subset hi', rfl⟩)
    (fun l hl' => ⟨l, hl.subset hl', rfl⟩) ht (hi.map _) (hl.map _)

theorem Fitted.congr (h : s.Fitted) (hs : s'.Sound) (hb : s'.billRuns = s.billRuns)
    (hi : s'.invoices = s.invoices) (hl : s'.licences = s.licences)
    (ht : s'.transactions = s.transactions) : s'.Fitted :=
  h.of_sublist hs (hb ▸ List.Sublist.refl _) (hi ▸ List.Sublist.refl _)
    (hl ▸ List.Sublist.refl _) (ht ▸ List.Sublist.refl _)

theorem Fitted.issue (h : s.Fitted) (m : Nat) (hm : s.issued ≤ m) :
    ({ s with issued := m } : Store).Fitted :=
  h.congr (h.sound.of_keys rfl rfl rfl rfl hm) rfl rfl rfl rfl

theorem Fitted.counters (h : s.Fitted) (cs : List Counter) :
    ({ s with counters := cs } : Store).Fitted :=
  h.congr (h.sound.of_keys rfl rfl rfl rfl (Nat.le_refl _)) rfl rfl rfl rfl

theorem Fitted.mapBillRun (h : s.Fitted) {X : Uuid} {f : BillRun → BillRun}
    (hf : ∀ b, (f b).place = b.place) : (s.mapBillRun X f).Fitted := by
  refine h.of_rows (h.sound.mapBillRun (fun b => congrArg Prod.fst (hf b)) X) (fun b' hb' => ?_)
    (fun i hi => ⟨i, hi, rfl⟩) (fun l hl => ⟨l, hl, rfl⟩) (List.Sublist.refl _)
    (List.Sublist.refl _) (List.Sublist.refl _)
  obtain ⟨b, hb, rfl⟩ := List.mem_map.1 hb'
  refine ⟨b, hb, ?_⟩
  split
  · exact (hf b).symm
  · rfl

theorem Fitted.mapInvoice (h : s.Fitted) {I : Uuid} {g : Invoice → Invoice}
    (hg : ∀ i, (g i).lineage = i.lineage) : (s.mapInvoice I g).Fitted := by
  have hid : ∀ i, (g i).id = i.id ∧ (g i).billRunId = i.billRunId := fun i =>
    ⟨(Invoice.lineage_eq (hg i)).1, (Invoice.lineage_eq (hg i)).2.1⟩
  have hkeys : (s.mapInvoice I g).invoices.map Invoice.key = s.invoices.map Invoice.key := by
    simp only [Store.mapInvoice, List.map_map]
    exact List.map_congr_left fun i _ => by
      by_cases e : i.id = I <;> simp [e, Invoice.key_of_lineage (hg i)]
  refine h.of_rows (h.sound.mapInvoice hid I) (fun b hb => ⟨b, hb, rfl⟩) (fun i' hi' => ?_)
    (fun l hl => ⟨l, hl, rfl⟩) (List.Sublist.refl _) (hkeys ▸ List.Sublist.refl _)
    (List.Sublist.refl _)
  obtain ⟨i, hi, rfl⟩ := List.mem_map.1 hi'
  refine ⟨i, hi, ?_⟩
  split
  · exact (hg i).symm
  · rfl

theorem Fitted.mapLicence (h : s.Fitted) {L : Uuid} {k : Licence → Licence}
    (hk : ∀ l, (k l).lineage = l.lineage) : (s.mapLicence L k).Fitted := by
  have hid : ∀ l, (k l).id = l.id ∧ (k l).invoiceId = l.invoiceId ∧
      (k l).billRunId = l.billRunId := fun l => by
    have e := hk l
    simp only [Licence.lineage, Prod.mk.injEq] at e
    exact ⟨e.1, e.2.1, e.2.2.1⟩
  have hkeys : (s.mapLicence L k).licences.map Licence.key = s.licences.map Licence.key := by
    simp only [Store.mapLicence, List.map_map]
    exact List.map_congr_left fun l _ => by
      by_cases e : l.id = L <;> simp [e, Licence.key_of_lineage (hk l)]
  refine h.of_rows (h.sound.mapLicence hid L) (fun b hb => ⟨b, hb, rfl⟩)
    (fun i hi => ⟨i, hi, rfl⟩) (fun l' hl' => ?_) (List.Sublist.refl _) (List.Sublist.refl _)
    (hkeys ▸ List.Sublist.refl _)
  obtain ⟨l, hl, rfl⟩ := List.mem_map.1 hl'
  refine ⟨l, hl, ?_⟩
  split
  · exact (hk l).symm
  · rfl

/-! ## New rows -/

theorem Fitted.insertBillRun (h : s.Fitted) (b : BillRun) (hnew : b.id ∉ s.billRunIds)
    (hi : s.Issued b.id) : ({ s with billRuns := s.billRuns ++ [b] } : Store).Fitted where
  sound := h.sound.insertBillRun b hnew hi
  fits t ht := by
    obtain ⟨fl, fi, fb⟩ := h.fits t ht
    have hX : t.billRunId ∈ s.billRunIds :=
      h.sound.invoice_parent _ (h.sound.transaction_invoice_key ht)
    refine ⟨fl, fi, fun b' hb' e => ?_⟩
    rcases List.mem_append.1 hb' with hb' | hb'
    · exact fb b' hb' e
    · rw [List.mem_singleton.1 hb'] at e
      exact absurd (e ▸ hX) hnew
  uniqueInvoices := h.uniqueInvoices
  uniqueLicences := h.uniqueLicences
  uniqueClients := h.uniqueClients

theorem Fitted.insertInvoice (h : s.Fitted) (i : Invoice) (hnew : i.id ∉ s.invoiceKeys.map (·.1))
    (hi : s.Issued i.id) (hb : i.billRunId ∈ s.billRunIds)
    (hkey : i.key ∉ s.invoices.map Invoice.key) :
    ({ s with invoices := s.invoices ++ [i] } : Store).Fitted where
  sound := h.sound.insertInvoice i hnew hi hb
  fits t ht := by
    obtain ⟨fl, fi, fb⟩ := h.fits t ht
    have hI : t.invoiceId ∈ s.invoiceKeys.map (·.1) :=
      List.mem_map_of_mem (f := (·.1)) (h.sound.transaction_invoice_key ht)
    refine ⟨fl, fun i' hi' e => ?_, fb⟩
    rcases List.mem_append.1 hi' with hi' | hi'
    · exact fi i' hi' e
    · rw [List.mem_singleton.1 hi'] at e
      exact absurd (e ▸ hI) hnew
  uniqueInvoices := by
    rw [List.map_append]
    exact nodup_append_single h.uniqueInvoices hkey
  uniqueLicences := h.uniqueLicences
  uniqueClients := h.uniqueClients

theorem Fitted.insertLicence (h : s.Fitted) (l : Licence) (hnew : l.id ∉ s.licenceKeys.map (·.1))
    (hi : s.Issued l.id) (hp : (l.invoiceId, l.billRunId) ∈ s.invoiceKeys)
    (hkey : l.key ∉ s.licences.map Licence.key) :
    ({ s with licences := s.licences ++ [l] } : Store).Fitted where
  sound := h.sound.insertLicence l hnew hi hp
  fits t ht := by
    obtain ⟨fl, fi, fb⟩ := h.fits t ht
    have hL : t.licenceId ∈ s.licenceKeys.map (·.1) :=
      List.mem_map_of_mem (f := (·.1)) (h.sound.transaction_key ht)
    refine ⟨fun l' hl' e => ?_, fi, fb⟩
    rcases List.mem_append.1 hl' with hl' | hl'
    · exact fl l' hl' e
    · rw [List.mem_singleton.1 hl'] at e
      exact absurd (e ▸ hL) hnew
  uniqueInvoices := h.uniqueInvoices
  uniqueLicences := by
    rw [List.map_append]
    exact nodup_append_single h.uniqueLicences hkey
  uniqueClients := h.uniqueClients

theorem Fitted.insertTransaction (h : s.Fitted) (t : Transaction)
    (hnew : t.id ∉ s.transactionKeys.map (·.1)) (hi : s.Issued t.id)
    (hp : (t.licenceId, t.invoiceId, t.billRunId) ∈ s.licenceKeys) (hfit : s.Fits t)
    (hclient : ∀ k, t.clientKey = some k → k ∉ s.transactions.filterMap Transaction.clientKey) :
    ({ s with transactions := s.transactions ++ [t] } : Store).Fitted where
  sound := h.sound.insertTransaction t hnew hi hp
  fits u hu := by
    rcases List.mem_append.1 hu with hu | hu
    · exact h.fits u hu
    · rw [List.mem_singleton.1 hu]
      exact hfit
  uniqueInvoices := h.uniqueInvoices
  uniqueLicences := h.uniqueLicences
  uniqueClients := by
    rw [List.filterMap_append]
    cases hk : t.clientKey with
    | none => simpa [hk] using h.uniqueClients
    | some k =>
      simp only [List.filterMap_cons, List.filterMap_nil, hk]
      exact nodup_append_single h.uniqueClients (hclient k hk)

theorem Sound.licence_eq (hs : s.Sound) {l m : Licence} (hl : l ∈ s.licences)
    (hm : m ∈ s.licences) (e : l.id = m.id) : l = m := by
  have hnd := hs.licences_nodup
  rw [licenceKeys, List.map_map] at hnd
  exact List.inj_on_of_nodup_map hnd hl hm e

/-! ## Rows that stay filled -/

variable {K : List Uuid}

theorem Filled.congr (h : s.Filled K) (hi : s'.invoices = s.invoices)
    (hl : s'.licences = s.licences) (ht : s'.transactions = s.transactions) : s'.Filled K := by
  obtain ⟨hfl, hfi⟩ := h
  constructor <;> simp only [hi, hl, ht] <;> assumption

theorem Filled.mono (h : s.Filled K) {K' : List Uuid} (hK : K ⊆ K') : s.Filled K' :=
  ⟨h.licences, fun i hi hK' => h.invoices i hi fun hmem => hK' (hK hmem)⟩

theorem Filled.fill {I : Uuid} (h : s.Filled K) (hI : ∃ l ∈ s.licences, l.invoiceId = I) :
    s.Filled (K.erase I) := by
  refine ⟨h.licences, fun i hi hK => ?_⟩
  by_cases e : i.id = I
  · obtain ⟨l, hl, el⟩ := hI
    exact ⟨l, hl, el.trans e.symm⟩
  · exact h.invoices i hi fun hmem => hK ((List.mem_erase_of_ne e).2 hmem)

theorem Filled.mapInvoice (h : s.Filled K) {I : Uuid} {g : Invoice → Invoice}
    (hg : ∀ i, (g i).id = i.id) : (s.mapInvoice I g).Filled K := by
  refine ⟨h.licences, fun i' hi' hK => ?_⟩
  obtain ⟨i, hi, rfl⟩ := List.mem_map.1 hi'
  have hid : (if i.id == I then g i else i).id = i.id := by split <;> simp [hg]
  rw [hid] at hK ⊢
  exact h.invoices i hi hK

theorem Filled.mapLicence (h : s.Filled K) {L : Uuid} {k : Licence → Licence}
    (hk : ∀ l, (k l).id = l.id ∧ (k l).invoiceId = l.invoiceId) :
    (s.mapLicence L k).Filled K := by
  have hmem : ∀ l ∈ s.licences, ∃ l' ∈ (s.mapLicence L k).licences,
      l'.id = l.id ∧ l'.invoiceId = l.invoiceId := fun l hl => by
    refine ⟨if l.id == L then k l else l, List.mem_map_of_mem hl, ?_⟩
    split
    · exact hk l
    · exact ⟨rfl, rfl⟩
  refine ⟨fun l' hl' => ?_, fun i hi hK => ?_⟩
  · obtain ⟨l, hl, rfl⟩ := List.mem_map.1 hl'
    obtain ⟨t, ht, e, hr⟩ := h.licences l hl
    refine ⟨t, ht, ?_, hr⟩
    split
    · rw [(hk l).1, e]
    · exact e
  · obtain ⟨l, hl, e⟩ := h.invoices i hi hK
    obtain ⟨l', hl', -, e'⟩ := hmem l hl
    exact ⟨l', hl', e'.trans e⟩

theorem Filled.insertBillRun (h : s.Filled K) (b : BillRun) :
    ({ s with billRuns := s.billRuns ++ [b] } : Store).Filled K :=
  h.congr rfl rfl rfl

theorem Filled.insertInvoice (h : s.Filled K) (i : Invoice) :
    ({ s with invoices := s.invoices ++ [i] } : Store).Filled (i.id :: K) := by
  refine ⟨h.licences, fun j hj hK => ?_⟩
  rcases List.mem_append.1 hj with hj | hj
  · exact h.invoices j hj fun hmem => hK (List.mem_cons_of_mem _ hmem)
  · exact absurd (List.mem_singleton.1 hj ▸ List.mem_cons_self) hK

theorem Filled.insertTransaction (h : s.Filled K) (t : Transaction) :
    ({ s with transactions := s.transactions ++ [t] } : Store).Filled K :=
  ⟨fun l hl => (h.licences l hl).imp fun _ hu => ⟨List.mem_append_left _ hu.1, hu.2⟩, h.invoices⟩

/-! ## Rows taken away -/

theorem Filled.deleteBillRun (h : s.Filled K) (hs : s.Sound) (X : Uuid) :
    ({ s with
      transactions := s.transactions.filter (·.billRunId != X)
      licences := s.licences.filter (·.billRunId != X)
      invoices := s.invoices.filter (·.billRunId != X)
      billRuns := s.billRuns.filter (·.id != X) } : Store).Filled K := by
  refine ⟨fun l hl => ?_, fun i hi hK => ?_⟩
  · simp only [List.mem_filter] at hl
    obtain ⟨t, ht, e, hr⟩ := h.licences l hl.1
    have hb := (hs.lines_of_licence hl.1 t ht e).2
    exact ⟨t, List.mem_filter.2 ⟨ht, hb ▸ hl.2⟩, e, hr⟩
  · simp only [List.mem_filter] at hi
    obtain ⟨l, hl, e⟩ := h.invoices i hi.1 hK
    have hb : l.billRunId = i.billRunId :=
      hs.invoice_billRun (e ▸ hs.licence_key hl) (List.mem_map_of_mem hi.1)
    exact ⟨l, List.mem_filter.2 ⟨hl, hb ▸ hi.2⟩, e⟩

theorem Filled.deleteInvoice (h : s.Filled K) (hs : s.Sound) (I : Uuid) :
    ({ s with
      transactions := s.transactions.filter (·.invoiceId != I)
      licences := s.licences.filter (·.invoiceId != I)
      invoices := s.invoices.filter (·.id != I) } : Store).Filled (K.erase I) := by
  refine ⟨fun l hl => ?_, fun i hi hK => ?_⟩
  · simp only [List.mem_filter] at hl
    obtain ⟨t, ht, e, hr⟩ := h.licences l hl.1
    have hI := (hs.lines_of_licence hl.1 t ht e).1
    exact ⟨t, List.mem_filter.2 ⟨ht, hI ▸ hl.2⟩, e, hr⟩
  · simp only [List.mem_filter, bne_iff_ne, ne_eq] at hi
    obtain ⟨l, hl, e⟩ := h.invoices i hi.1 fun hmem => hK ((List.mem_erase_of_ne hi.2).2 hmem)
    exact ⟨l, List.mem_filter.2 ⟨hl, by simpa [e] using hi.2⟩, e⟩

theorem Filled.deleteLicence (h : s.Filled K) (hs : s.Sound) {l : Licence} (hl : l ∈ s.licences) :
    ({ s with
      transactions := s.transactions.filter (·.licenceId != l.id)
      licences := s.licences.filter (·.id != l.id) } : Store).Filled (l.invoiceId :: K) := by
  refine ⟨fun l' hl' => ?_, fun i hi hK => ?_⟩
  · simp only [List.mem_filter] at hl'
    obtain ⟨t, ht, e, hr⟩ := h.licences l' hl'.1
    exact ⟨t, List.mem_filter.2 ⟨ht, e ▸ hl'.2⟩, e, hr⟩
  · simp only [List.mem_cons, not_or] at hK
    obtain ⟨l', hl', e⟩ := h.invoices i hi hK.2
    have hne : l'.id ≠ l.id := fun hid => hK.1 (e.symm.trans (congrArg Licence.invoiceId
      (hs.licence_eq hl' hl hid)))
    exact ⟨l', List.mem_filter.2 ⟨hl', by simpa using hne⟩, e⟩

theorem Filled.deleteRaised (h : s.Filled K) {p : Transaction → Bool}
    (hp : ∀ t ∈ s.transactions, t.raised = false → p t = true) :
    ({ s with transactions := s.transactions.filter p } : Store).Filled K :=
  ⟨fun l hl => (h.licences l hl).imp fun t hu =>
    ⟨List.mem_filter.2 ⟨hu.1, hp t hu.1 hu.2.2⟩, hu.2⟩, h.invoices⟩

theorem mem_mapInvoice_lineage {I : Uuid} {g : Invoice → Invoice}
    (hg : ∀ i, (g i).lineage = i.lineage) {i' : Invoice} (hi' : i' ∈ (s.mapInvoice I g).invoices) :
    ∃ i ∈ s.invoices, i.lineage = i'.lineage := by
  obtain ⟨i, hi, rfl⟩ := List.mem_map.1 hi'
  refine ⟨i, hi, ?_⟩
  split
  · exact (hg i).symm
  · rfl

theorem mem_mapLicence_lineage {L : Uuid} {k : Licence → Licence}
    (hk : ∀ l, (k l).lineage = l.lineage) {l' : Licence} (hl' : l' ∈ (s.mapLicence L k).licences) :
    ∃ l ∈ s.licences, l.lineage = l'.lineage := by
  obtain ⟨l, hl, rfl⟩ := List.mem_map.1 hl'
  refine ⟨l, hl, ?_⟩
  split
  · exact (hk l).symm
  · rfl

/-! ## One posting, stage by stage -/

/-- A posting of `t` part way from `s₀`, the store after its bill run took it: the invoice `I`
is chosen, of the line's bill run, customer and year, and is being filled with the invoices of
`K`; nothing but invoices and the count of identifiers changed. -/
structure Invoiced (K : List Uuid) (s₀ : Store) (t : Transaction) (I : Uuid) (s : Store) :
    Prop where
  fitted : s.Fitted
  filled : s.Filled (I :: K)
  billRuns : s.billRuns = s₀.billRuns
  licences : s.licences = s₀.licences
  transactions : s.transactions = s₀.transactions
  issued : s₀.issued ≤ s.issued
  key : (I, t.billRunId) ∈ s.invoiceKeys
  fits : ∀ i ∈ s.invoices, i.id = I →
    i.customerReference = t.customerReference ∧ i.financialYear = t.chargeFinancialYear

/-- Further on: the licence `L` of the line's number on `I` is chosen; every invoice outside `K`
has a licence, and every licence but `L` a line that generation did not raise, as `L` has
already when the line is one generation raises. -/
structure Licensed (K : List Uuid) (s₀ : Store) (t : Transaction) (I L : Uuid) (s : Store) :
    Prop where
  fitted : s.Fitted
  billRuns : s.billRuns = s₀.billRuns
  transactions : s.transactions = s₀.transactions
  issued : s₀.issued ≤ s.issued
  invoices : ∀ i ∈ s.invoices, i.id ∉ K → ∃ l ∈ s.licences, l.invoiceId = i.id
  filled : ∀ l ∈ s.licences, l.id ≠ L →
    ∃ u ∈ s.transactions, u.licenceId = l.id ∧ u.raised = false
  key : (L, I, t.billRunId) ∈ s.licenceKeys
  number : ∀ l ∈ s.licences, l.id = L → l.licenceNumber = t.licenceNumber
  fits : ∀ i ∈ s.invoices, i.id = I →
    i.customerReference = t.customerReference ∧ i.financialYear = t.chargeFinancialYear
  raised : t.raised = true → ∃ u ∈ s.transactions, u.licenceId = L ∧ u.raised = false

variable {s₀ : Store} {t : Transaction} {I : Uuid}

theorem Invoiced.of_found (hfit : s.Fitted) (hfill : s.Filled K) (hb : s.billRuns = s₀.billRuns)
    (hl : s.licences = s₀.licences) (ht : s.transactions = s₀.transactions)
    (hn : s₀.issued ≤ s.issued) {i : Invoice} (hi : i ∈ s.invoices) (hid : i.id = I)
    (hinv : ∀ j ∈ s.invoices, j.id = I → j.billRunId = t.billRunId ∧
      j.customerReference = t.customerReference ∧ j.financialYear = t.chargeFinancialYear)
    {g : Invoice → Invoice} (hg : ∀ j, (g j).lineage = j.lineage) :
    Invoiced K s₀ t I (s.mapInvoice I g) where
  fitted := hfit.mapInvoice hg
  filled := (hfill.mapInvoice fun j => (Invoice.lineage_eq (hg j)).1).mono
    (List.subset_cons_self _ _)
  billRuns := hb
  licences := hl
  transactions := ht
  issued := hn
  key := by
    rw [invoiceKeys_mapInvoice fun j => ⟨(Invoice.lineage_eq (hg j)).1,
      (Invoice.lineage_eq (hg j)).2.1⟩, ← hid, ← (hinv i hi hid).1]
    exact List.mem_map_of_mem hi
  fits i' hi' e := by
    obtain ⟨j, hj, ej⟩ := mem_mapInvoice_lineage hg hi'
    obtain ⟨hjid, -, hcu, hyr, -⟩ := Invoice.lineage_eq ej
    rw [← hcu, ← hyr]
    exact (hinv j hj (hjid.trans e)).2

theorem Invoiced.of_new (hfit : s.Fitted) (hfill : s.Filled K) (hX : t.billRunId ∈ s.billRunIds)
    (hnone : ∀ j ∈ s.invoices, ¬(j.billRunId = t.billRunId ∧
      j.customerReference = t.customerReference ∧ j.financialYear = t.chargeFinancialYear ∧
      j.kind = .primary)) (δ : Tally) (now : Instant) :
    Invoiced K s t (Uuid.ofSerial s.issued)
      { s with issued := s.issued + 1, invoices := s.invoices ++
        [{ id := Uuid.ofSerial s.issued, billRunId := t.billRunId,
           customerReference := t.customerReference, financialYear := t.chargeFinancialYear,
           tally := δ, createdAt := now, updatedAt := now }] } := by
  have hold : ∀ j ∈ s.invoices, j.id ≠ Uuid.ofSerial s.issued := fun j hj =>
    (hfit.sound.invoices_issued _ (List.mem_map_of_mem hj)).ne_ofSerial
  refine ⟨(hfit.issue _ (Nat.le_succ _)).insertInvoice _
    (hfit.sound.fresh_invoice (Nat.le_refl s.issued)) (by simp [Issued, Uuid.ofSerial]) hX ?_,
    (hfill.congr rfl rfl rfl : ({ s with issued := s.issued + 1 } : Store).Filled K).insertInvoice _,
    rfl, rfl, rfl, Nat.le_succ _, by simp [invoiceKeys],
    ?_⟩
  · intro hmem
    obtain ⟨j, hj, e⟩ := List.mem_map.1 hmem
    simp only [Invoice.key, Prod.mk.injEq] at e
    exact hnone j hj ⟨e.1, e.2.1, e.2.2.1, e.2.2.2⟩
  · intro i hi e
    rcases List.mem_append.1 hi with hi | hi
    · exact absurd e (hold i hi)
    · rw [List.mem_singleton.1 hi]
      exact ⟨rfl, rfl⟩

theorem Licensed.of_found (h : Invoiced K s₀ t I s) {l : Licence} (hl : l ∈ s.licences)
    (hkey : l.invoiceId = I ∧ l.licenceNumber = t.licenceNumber) {m : Nat} (hm : s.issued ≤ m)
    {k : Licence → Licence} (hk : ∀ l, (k l).lineage = l.lineage) :
    Licensed K s₀ t I l.id (({ s with issued := m } : Store).mapLicence l.id k) := by
  have hs := h.fitted.sound
  have hid : ∀ l, (k l).id = l.id ∧ (k l).invoiceId = l.invoiceId := fun l => by
    have e := hk l
    simp only [Licence.lineage, Prod.mk.injEq] at e
    exact ⟨e.1, e.2.1⟩
  have hX : l.billRunId = t.billRunId := hs.invoice_billRun (hkey.1 ▸ hs.licence_key hl) h.key
  have hfl : (({ s with issued := m } : Store).mapLicence l.id k).Filled K := by
    have hfill := (h.filled.congr rfl rfl rfl : ({ s with issued := m } : Store).Filled (I :: K)).fill
      ⟨l, hl, hkey.1⟩
    rw [List.erase_cons_head] at hfill
    exact hfill.mapLicence hid
  refine ⟨(h.fitted.issue m hm).mapLicence hk, h.billRuns, h.transactions,
    Nat.le_trans h.issued hm, hfl.invoices, fun l' hl' _ => hfl.licences l' hl', ?_, ?_, h.fits,
    fun _ => h.transactions ▸ h.filled.licences l hl⟩
  · rw [licenceKeys_mapLicence fun l => ⟨(hid l).1, (hid l).2, by
      have e := hk l
      simp only [Licence.lineage, Prod.mk.injEq] at e
      exact e.2.2.1⟩, ← hkey.1, ← hX]
    exact List.mem_map_of_mem hl
  · intro l' hl' e
    obtain ⟨j, hj, ej⟩ := mem_mapLicence_lineage hk hl'
    simp only [Licence.lineage, Prod.mk.injEq] at ej
    rw [← ej.2.2.2, hs.licence_eq hj hl (ej.1.trans e)]
    exact hkey.2

theorem Licensed.of_new (h : Invoiced K s₀ t I s)
    (hnone : ∀ l ∈ s.licences, ¬(l.invoiceId = I ∧ l.licenceNumber = t.licenceNumber))
    (hraised : t.raised = true →
      ∃ l ∈ s.licences, l.invoiceId = I ∧ l.licenceNumber = t.licenceNumber)
    (δ : Tally) (now : Instant) :
    Licensed K s₀ t I (Uuid.ofSerial s.issued)
      { s with issued := s.issued + 1, licences := s.licences ++
        [{ id := Uuid.ofSerial s.issued, billRunId := t.billRunId, invoiceId := I,
           licenceNumber := t.licenceNumber, tally := δ, createdAt := now,
           updatedAt := now }] } := by
  have hs := h.fitted.sound
  have hold : ∀ l ∈ s.licences, l.id ≠ Uuid.ofSerial s.issued := fun l hl =>
    (hs.licences_issued _ (List.mem_map_of_mem hl)).ne_ofSerial
  refine ⟨(h.fitted.issue _ (Nat.le_succ _)).insertLicence _ ?_ (by simp [Issued, Uuid.ofSerial])
    h.key ?_, h.billRuns, h.transactions, Nat.le_succ_of_le h.issued, ?_, ?_,
    by simp [licenceKeys], ?_, h.fits, fun hr => absurd (hraised hr) fun hl => hnone _ hl.choose_spec.1 hl.choose_spec.2⟩
  · intro hmem
    obtain ⟨k, hk, e⟩ := List.mem_map.1 hmem
    obtain ⟨l, hl, rfl⟩ := List.mem_map.1 hk
    exact hold l hl e
  · intro hmem
    obtain ⟨l, hl, e⟩ := List.mem_map.1 hmem
    simp only [Licence.key, Prod.mk.injEq] at e
    exact hnone l hl e
  · intro i hi hK
    by_cases e : i.id = I
    · exact ⟨_, List.mem_append_right _ (List.mem_singleton_self _), e.symm⟩
    · obtain ⟨l, hl, e'⟩ := h.filled.invoices i hi (by simp [e, hK])
      exact ⟨l, List.mem_append_left _ hl, e'⟩
  · intro l hl hne
    rcases List.mem_append.1 hl with hl | hl
    · obtain ⟨u, hu, e, hr⟩ := h.filled.licences l hl
      exact ⟨u, hu, e, hr⟩
    · exact absurd (List.mem_singleton.1 hl ▸ rfl) hne
  · intro l hl e
    rcases List.mem_append.1 hl with hl | hl
    · exact absurd e (hold l hl)
    · rw [List.mem_singleton.1 hl]

theorem Licensed.finish {L : Uuid} (h : Licensed K s₀ t I L s)
    (hfresh : t.id ∉ s₀.transactionKeys.map (·.1)) (hissued : s₀.Issued t.id)
    (hbill : ∀ b ∈ s₀.billRuns, b.id = t.billRunId →
      b.regimeId = t.regimeId ∧ b.region = t.region ∧ b.ruleset = t.ruleset)
    (hclient : ∀ c, t.clientId = some c →
      ∀ u ∈ s.transactions, ¬(u.regimeId = t.regimeId ∧ u.clientId = some c))
    (now : Instant) :
    let s' : Store := { s with transactions := s.transactions ++
      [{ t with invoiceId := I, licenceId := L, createdAt := now, updatedAt := now }] }
    s'.Fitted ∧ s'.Filled K := by
  have hkeys : s.transactionKeys = s₀.transactionKeys := by
    simp only [transactionKeys, h.transactions]
  refine ⟨h.fitted.insertTransaction _ (hkeys ▸ hfresh) ?_ h.key
    ⟨h.number, h.fits, h.billRuns ▸ hbill⟩ ?_, ?_, h.invoices⟩
  · have hn := h.issued
    show t.id.value < Uuid.serialBase + s.issued
    unfold Issued at hissued
    omega
  · intro k hk hmem
    cases hc : t.clientId with
    | none => simp [Transaction.clientKey, hc] at hk
    | some c =>
      simp only [Transaction.clientKey, hc, Option.map_some, Option.some.injEq] at hk
      obtain ⟨u, hu, e⟩ := List.mem_filterMap.1 hmem
      cases hcu : u.clientId with
      | none => simp [Transaction.clientKey, hcu] at e
      | some c' =>
        simp only [Transaction.clientKey, hcu, Option.map_some, Option.some.injEq,
          ← hk, Prod.mk.injEq] at e
        exact hclient c hc u hu ⟨e.1, e.2 ▸ hcu⟩
  · intro l hl
    by_cases e : l.id = L
    · -- the new line fills its licence, unless generation raised it and the licence was full
      cases hr : t.raised
      · exact ⟨_, List.mem_append_right _ (List.mem_singleton_self _), e.symm, hr⟩
      · obtain ⟨u, hu, eu, hru⟩ := h.raised hr
        exact ⟨u, List.mem_append_left _ hu, eu.trans e.symm, hru⟩
    · obtain ⟨u, hu, eu, hru⟩ := h.filled l hl e
      exact ⟨u, List.mem_append_left _ hu, eu, hru⟩

open Op

theorem upsertInvoice_invoiced {E : Store → Prop} (hfit : s.Fitted) (hfill : s.Filled K)
    (hX : t.billRunId ∈ s.billRunIds) (δ : Tally) (now : Instant) :
    Triple (· = s) (upsertInvoice t.billRunId t.customerReference t.chargeFinancialYear δ now)
      (fun I s' => Invoiced K s t I s') E := by
  unfold upsertInvoice
  refine .fresh_bind (.modifyGet ?_)
  rintro _ rfl
  split
  · rename_i i hi
    have hp := List.find?_some hi
    simp only [Bool.and_eq_true, beq_iff_eq] at hp
    have hi' := List.mem_of_find?_eq_some hi
    refine Invoiced.of_found (hfit.issue _ (Nat.le_succ _)) (hfill.congr rfl rfl rfl) (by rfl)
      (by rfl) (by rfl) (by exact Nat.le_succ _) hi' rfl (fun j hj e => ?_) fun _ => rfl
    rw [hfit.sound.invoice_eq hj hi' e]
    exact ⟨hp.1.1.1, hp.1.1.2, hp.1.2⟩
  · rename_i hnone
    exact Invoiced.of_new hfit hfill hX (fun j hj e =>
      List.find?_eq_none.1 hnone j hj (by simp [e.1, e.2.1, e.2.2.1, e.2.2.2])) δ now

theorem upsertLicence_licensed {E : Store → Prop} (h : Invoiced K s₀ t I s)
    (hraised : t.raised = true →
      ∃ l ∈ s.licences, l.invoiceId = I ∧ l.licenceNumber = t.licenceNumber)
    (δ : Tally) (now : Instant) :
    Triple (· = s) (upsertLicence t.billRunId I t.licenceNumber δ now)
      (fun L s' => Licensed K s₀ t I L s') E := by
  unfold upsertLicence
  refine .fresh_bind (.modifyGet ?_)
  rintro _ rfl
  split
  · rename_i l hl
    have hp := List.find?_some hl
    simp only [Bool.and_eq_true, beq_iff_eq] at hp
    exact Licensed.of_found h (List.mem_of_find?_eq_some hl) hp (Nat.le_succ _) fun _ => rfl
  · rename_i hnone
    exact Licensed.of_new h (fun l hl e => List.find?_eq_none.1 hnone l hl (by simp [e.1, e.2]))
      hraised δ now

end Store

open Op Store

variable {s₀ : Store} {K : List Uuid}

/-- Posting a fresh line keeps the ledger's shape, invoices being filled aside, when the line
fits its bill run and the invoice it names, and a line generation raises goes onto a licence of
its number on the invoice it names. The stored line is the one line added; a failed posting has
only drawn identifiers. -/
theorem post_shaped (now : Instant) (t : Transaction) (how : Posting)
    (hfit : s₀.Fitted) (hfill : s₀.Filled K)
    (hfresh : t.id ∉ s₀.transactionKeys.map (·.1)) (hissued : s₀.Issued t.id)
    (hbill : ∀ b ∈ s₀.billRuns, b.id = t.billRunId →
      b.regimeId = t.regimeId ∧ b.region = t.region ∧ b.ruleset = t.ruleset)
    (hinv : ∀ I, how.invoice = some I → ∀ i ∈ s₀.invoices, i.id = I →
      i.billRunId = t.billRunId ∧ i.customerReference = t.customerReference ∧
        i.financialYear = t.chargeFinancialYear)
    (hraised : t.raised = true → ∃ I, how.invoice = some I ∧
      ∃ l ∈ s₀.licences, l.invoiceId = I ∧ l.licenceNumber = t.licenceNumber) :
    Triple (· = s₀) (post now t how)
      (fun stored s => s.Fitted ∧ s.Filled K ∧ s₀.issued ≤ s.issued ∧
        s.transactions = s₀.transactions ++ [stored] ∧
        ∀ I, how.invoice = some I → stored.invoiceId = I)
      (fun s => s₀.issued ≤ s.issued) := by
  unfold post
  extract_lets delta line invoice
  rw [addBillRunTally_eq, show delta = t.tally from rfl]
  refine .modifyGet_bind ?_
  generalize hg : s₀.guarded t.billRunId how.allowed (BillRun.posted now t.tally) = g
  obtain ⟨ok, s₁⟩ := g
  cases ok
  · -- the bill run did not take the line
    have : s₁ = s₀ := by
      have := guarded_false (congrArg Prod.fst hg)
      rw [hg] at this
      exact this
    subst this
    exact .bind (refusal_fails t.billRunId (Nat.le_refl _)) fun _ => .absurd _
  obtain ⟨hmap, b, hb, hbX, -⟩ := guarded_true (congrArg Prod.fst hg)
  rw [hg] at hmap
  change s₁ = _ at hmap
  have hfit₁ : s₁.Fitted := hmap ▸ hfit.mapBillRun fun _ => rfl
  have hfill₁ : s₁.Filled K := hfill.congr (by rw [hmap]; rfl) (by rw [hmap]; rfl) (by rw [hmap]; rfl)
  have hrows : s₁.invoices = s₀.invoices ∧ s₁.licences = s₀.licences ∧
      s₁.transactions = s₀.transactions ∧ s₁.issued = s₀.issued := by
    rw [hmap]
    exact ⟨rfl, rfl, rfl, rfl⟩
  have hbill₁ : ∀ b ∈ s₁.billRuns, b.id = t.billRunId →
      b.regimeId = t.regimeId ∧ b.region = t.region ∧ b.ruleset = t.ruleset := by
    rw [hmap]
    intro b' hb' e
    obtain ⟨b, hb, rfl⟩ := List.mem_map.1 hb'
    have hplace : (if b.id == t.billRunId then BillRun.posted now t.tally b else b).place =
        b.place := by split <;> rfl
    simp only [BillRun.place, Prod.mk.injEq] at hplace
    rw [hplace.1] at e
    rw [hplace.2.1, hplace.2.2.1, hplace.2.2.2]
    exact hbill b hb e
  have hX : t.billRunId ∈ s₁.billRunIds := by
    rw [hmap, billRunIds_mapBillRun fun b => show (BillRun.posted now t.tally b).id = b.id from rfl]
    exact hbX ▸ List.mem_map_of_mem hb
  have hline : ∀ I s, Invoiced K s₁ t I s →
      (t.raised = true → ∃ l ∈ s.licences, l.invoiceId = I ∧ l.licenceNumber = t.licenceNumber) →
      Triple (· = s) (line I)
        (fun stored s' => s'.Fitted ∧ s'.Filled K ∧ s₀.issued ≤ s'.issued ∧
          s'.transactions = s₀.transactions ++ [stored] ∧ stored.invoiceId = I)
        (fun s' => s₀.issued ≤ s'.issued) := by
    intro I s h hr
    simp only [line]
    refine .bind (upsertLicence_licensed h hr _ _) fun L => .of_eq fun s' h' => ?_
    have hn' : s₀.issued ≤ s'.issued := hrows.2.2.2 ▸ h'.issued
    generalize hst : ({ t with
        invoiceId := I, licenceId := L, createdAt := now, updatedAt := now } : Transaction) = stored
    have fin : (∀ c, t.clientId = some c →
        ∀ u ∈ s'.transactions, ¬(u.regimeId = t.regimeId ∧ u.clientId = some c)) →
        Triple (· = s') (insertTransaction stored >>= fun _ => pure stored)
          (fun stored s'' => s''.Fitted ∧ s''.Filled K ∧ s₀.issued ≤ s''.issued ∧
            s''.transactions = s₀.transactions ++ [stored] ∧ stored.invoiceId = I)
          (fun s'' => s₀.issued ≤ s''.issued) := fun hclient =>
      .modify_bind (.pure fun _ e => by
        subst e hst
        have hfresh₁ : t.id ∉ s₁.transactionKeys.map (·.1) := by
          rw [transactionKeys, hrows.2.2.1]
          exact hfresh
        have hshape := h'.finish hfresh₁ (by unfold Issued at hissued ⊢; omega)
          hbill₁ hclient now
        exact ⟨hshape.1, hshape.2, hn', by rw [h'.transactions, hrows.2.2.1], rfl⟩)
    cases hc : t.clientId with
    | none => exact fin fun c e => by simp [hc] at e
    | some c =>
      refine .get_bind ?_
      split
      · exact .throw_bind fun _ e => e ▸ hn'
      · rename_i htaken
        refine fin fun c' e u hu hru => htaken ?_
        rw [hc, Option.some.injEq] at e
        subst e
        exact List.any_eq_true.2 ⟨u, hu, by simp [hru.1, hru.2]⟩
  refine (?_ : Triple (· = s₁) (invoice ()) _ _).mono (fun _ h => h) (fun _ _ h => h) fun _ h => h
  simp only [invoice]
  cases hi : how.invoice with
  | some I =>
    have hI : ∀ i ∈ s₁.invoices, i.id = I → i.billRunId = t.billRunId ∧
        i.customerReference = t.customerReference ∧ i.financialYear = t.chargeFinancialYear := by
      rw [hrows.1]
      exact hinv I hi
    refine .modifyGet_bind (.require_bind (fun _ _ e => by rw [e]; exact Nat.le_of_eq hrows.2.2.2.symm)
      fun found => ?_)
    obtain ⟨i, hfind⟩ := Option.isSome_iff_exists.1 found
    have hid : i.id = I := by simpa using List.find?_some hfind
    have hr : t.raised = true →
        ∃ l ∈ s₁.licences, l.invoiceId = I ∧ l.licenceNumber = t.licenceNumber := fun hr => by
      obtain ⟨I', hI', hl⟩ := hraised hr
      rw [hi, Option.some.injEq] at hI'
      subst hI'
      exact hrows.2.1 ▸ hl
    exact (hline I _ (Invoiced.of_found hfit₁ hfill₁ rfl rfl rfl (Nat.le_refl _)
      (List.mem_of_find?_eq_some hfind) hid hI
      (g := fun i => { i with tally := i.tally + t.tally, updatedAt := now }) fun _ => rfl) hr).mono
      (fun _ h => h)
      (fun _ _ h => ⟨h.1, h.2.1, h.2.2.1, h.2.2.2.1, fun _ e => Option.some.inj e ▸ h.2.2.2.2⟩)
      fun _ h => h
  | none =>
    exact .bind (upsertInvoice_invoiced hfit₁ hfill₁ hX _ _) fun I => .of_eq fun s h =>
      (hline I s h fun hr => absurd (hraised hr) fun h => by simp [hi] at h).mono
        (fun _ h => h) (fun _ _ h => ⟨h.1, h.2.1, h.2.2.1, h.2.2.2.1, fun _ e => by simp at e⟩)
        fun _ h => h

end ChargeLedger
