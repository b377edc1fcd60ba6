import ChargeLedger.Proofs.Triple
import ChargeLedger.Ledger.Store.Write

/-!
# A store that hangs together

`Store.Sound` is the referential integrity the ledger keeps without ever checking it: every
table has distinct identifiers, all handed out already, and every row's parents exist on the
same bill run (a line's licence is on its invoice, and both are on its bill run). It speaks
only of the keys of the rows, so a write that changes tallies, flags or statuses keeps it.

`Store.part B` is what belongs to bill run `B`: its row, its invoices, licences and lines.
Each operation works on one bill run; `Store.Confined X` says that a change left every
other bill run's part as it was.
-/

set_option autoImplicit false

namespace ChargeLedger

namespace Store

/-- An identifier handed out before the store's count. -/
def Issued (s : Store) (u : Uuid) : Prop := u.value < Uuid.serialBase + s.issued

def billRunIds (s : Store) : List Uuid := s.billRuns.map (·.id)

def invoiceKeys (s : Store) : List (Uuid × Uuid) := s.invoices.map fun i => (i.id, i.billRunId)

def licenceKeys (s : Store) : List (Uuid × Uuid × Uuid) :=
  s.licences.map fun l => (l.id, l.invoiceId, l.billRunId)

def transactionKeys (s : Store) : List (Uuid × Uuid × Uuid × Uuid) :=
  s.transactions.map fun t => (t.id, t.licenceId, t.invoiceId, t.billRunId)

/-- The rows of a store hang together. -/
structure Sound (s : Store) : Prop where
  billRuns_nodup : s.billRunIds.Nodup
  invoices_nodup : (s.invoiceKeys.map (·.1)).Nodup
  licences_nodup : (s.licenceKeys.map (·.1)).Nodup
  transactions_nodup : (s.transactionKeys.map (·.1)).Nodup
  billRuns_issued : ∀ u ∈ s.billRunIds, s.Issued u
  invoices_issued : ∀ k ∈ s.invoiceKeys, s.Issued k.1
  licences_issued : ∀ k ∈ s.licenceKeys, s.Issued k.1
  transactions_issued : ∀ k ∈ s.transactionKeys, s.Issued k.1
  invoice_parent : ∀ k ∈ s.invoiceKeys, k.2 ∈ s.billRunIds
  licence_parent : ∀ k ∈ s.licenceKeys, k.2 ∈ s.invoiceKeys
  transaction_parent : ∀ k ∈ s.transactionKeys, k.2 ∈ s.licenceKeys

/-- The rows of one bill run. -/
structure Part where
  billRuns : List BillRun
  invoices : List Invoice
  licences : List Licence
  transactions : List Transaction

/-- What belongs to a bill run: its row, its invoices, its licences and its lines. -/
def part (s : Store) (B : Uuid) : Part where
  billRuns := s.billRuns.filter (·.id == B)
  invoices := s.invoices.filter (·.billRunId == B)
  licences := s.licences.filter (·.billRunId == B)
  transactions := s.transactions.filter (·.billRunId == B)

/-- Every bill run but `X` has the same part after the change. -/
def Confined (X : Uuid) (s s' : Store) : Prop := ∀ B, B ≠ X → s.part B = s'.part B

variable {s s' s'' : Store} {X B : Uuid}

theorem Confined.refl (X : Uuid) (s : Store) : Confined X s s := fun _ _ => rfl

theorem Confined.trans (h : Confined X s s') (h' : Confined X s' s'') : Confined X s s'' :=
  fun B hB => (h B hB).trans (h' B hB)

theorem Issued.ne_ofSerial_of_le {u : Uuid} (h : s.Issued u) {m : Nat} (hm : s.issued ≤ m) :
    u ≠ Uuid.ofSerial m := by
  rintro rfl
  simp only [Issued, Uuid.ofSerial] at h
  omega

theorem Issued.ne_ofSerial {u : Uuid} (h : s.Issued u) : u ≠ Uuid.ofSerial s.issued :=
  h.ne_ofSerial_of_le (Nat.le_refl _)

/-! ## Guarded writes -/

theorem guarded_true {id : Uuid} {allowed : List Status} {f : BillRun → BillRun}
    (h : (s.guarded id allowed f).1 = true) :
    (s.guarded id allowed f).2 = s.mapBillRun id f ∧
      ∃ b ∈ s.billRuns, b.id = id ∧ allowed.contains b.status = true := by
  unfold guarded at h ⊢
  cases hb : s.billRun? id with
  | none => simp [hb] at h
  | some b =>
    have hid : b.id = id := by simpa using List.find?_some hb
    simp only [hb] at h ⊢
    by_cases ha : allowed.contains b.status = true
    · exact ⟨by rw [if_pos ha], b, List.mem_of_find?_eq_some hb, hid, ha⟩
    · rw [if_neg ha] at h
      cases h

theorem guarded_false {id : Uuid} {allowed : List Status} {f : BillRun → BillRun}
    (h : (s.guarded id allowed f).1 = false) : (s.guarded id allowed f).2 = s := by
  unfold guarded at h ⊢
  cases hb : s.billRun? id with
  | none => rfl
  | some b =>
    simp only [hb] at h ⊢
    by_cases ha : allowed.contains b.status = true
    · rw [if_pos ha] at h
      cases h
    · rw [if_neg ha]

theorem guarded_rows {allowed : List Status} {f : BillRun → BillRun} :
    (s.guarded X allowed f).2.invoices = s.invoices ∧
      (s.guarded X allowed f).2.licences = s.licences := by
  cases hg : (s.guarded X allowed f).1
  · rw [guarded_false hg]
    exact ⟨rfl, rfl⟩
  · rw [(guarded_true hg).1]
    exact ⟨rfl, rfl⟩

theorem guarded_found {id : Uuid} {allowed : List Status} {f : BillRun → BillRun}
    (h : (s.guarded id allowed f).1 = true) :
    ∃ b, s.billRun? id = some b ∧ allowed.contains b.status = true := by
  unfold guarded at h
  cases hb : s.billRun? id with
  | none => simp [hb] at h
  | some b =>
    simp only [hb] at h
    by_cases ha : allowed.contains b.status = true
    · exact ⟨b, rfl, ha⟩
    · rw [if_neg ha] at h
      cases h

/-! ## The status of a bill run -/

def statusOf (s : Store) (id : Uuid) : Option Status := (s.billRun? id).map (·.status)

theorem id_of_billRun? {id : Uuid} {b : BillRun} (h : s.billRun? id = some b) : b.id = id := by
  simpa using List.find?_some h

theorem billRun?_mapBillRun {f : BillRun → BillRun} (hf : ∀ b, (f b).id = b.id) (X Y : Uuid) :
    (s.mapBillRun X f).billRun? Y = (s.billRun? Y).map fun b => if b.id == X then f b else b := by
  unfold billRun? mapBillRun
  rw [List.find?_map]
  congr 2
  funext b
  by_cases h : b.id = X <;> simp [h, hf]

theorem guarded_of_billRun? {id : Uuid} {allowed : List Status} {f : BillRun → BillRun}
    {b : BillRun} (h : s.billRun? id = some b) (hb : allowed.contains b.status = true) :
    s.guarded id allowed f = (true, s.mapBillRun id f) := by
  have : b.status ∈ allowed := by simpa using hb
  simp [guarded, h, this]

theorem statusOf_guarded {id : Uuid} {allowed : List Status} {f : BillRun → BillRun}
    {target : Status} (h : (s.guarded id allowed f).1 = true) (hf : ∀ b, (f b).id = b.id)
    (ht : ∀ b, (f b).status = target) : (s.guarded id allowed f).2.statusOf id = some target := by
  obtain ⟨heq, b, hb, rfl, -⟩ := guarded_true h
  obtain ⟨b', hb'⟩ : ∃ b', s.billRun? b.id = some b' :=
    Option.isSome_iff_exists.1 (List.find?_isSome.2 ⟨b, hb, by simp⟩)
  rw [heq, statusOf, billRun?_mapBillRun hf, hb']
  simp [id_of_billRun? hb', ht]

/-! ## Soundness depends on keys only -/

theorem Sound.of_keys (h : Sound s) (hb : s'.billRunIds = s.billRunIds)
    (hi : s'.invoiceKeys = s.invoiceKeys) (hl : s'.licenceKeys = s.licenceKeys)
    (ht : s'.transactionKeys = s.transactionKeys) (hn : s.issued ≤ s'.issued) : Sound s' := by
  have up : ∀ u, s.Issued u → s'.Issued u := fun u hu => by
    unfold Issued at *
    omega
  obtain ⟨h1, h2, h3, h4, h5, h6, h7, h8, h9, h10, h11⟩ := h
  rw [← hb] at h1 h5 h9
  rw [← hi] at h2 h6 h9 h10
  rw [← hl] at h3 h7 h10 h11
  rw [← ht] at h4 h8 h11
  exact ⟨h1, h2, h3, h4, fun u hu => up u (h5 u hu), fun k hk => up _ (h6 k hk),
    fun k hk => up _ (h7 k hk), fun k hk => up _ (h8 k hk), h9, h10, h11⟩

theorem Sound.issue (h : Sound s) (n : Nat) : Sound { s with issued := s.issued + n } :=
  h.of_keys rfl rfl rfl rfl (Nat.le_add_right _ _)

/-! ## Rows changed in place -/

theorem filter_map_eq {α : Type} (l : List α) (p : α → Bool) (g : α → α)
    (hfix : ∀ a ∈ l, p a = true → g a = a) (hkeep : ∀ a ∈ l, p (g a) = p a) :
    (l.map g).filter p = l.filter p := by
  induction l with
  | nil => rfl
  | cons a l ih =>
    have ih' := ih (fun b hb => hfix b (.tail _ hb)) (fun b hb => hkeep b (.tail _ hb))
    by_cases ha : p a = true
    · simp [ha, hfix a (.head _) ha, ih']
    · simp [hkeep a (.head _), ha, ih']

variable {f : BillRun → BillRun} {g : Invoice → Invoice} {k : Licence → Licence}

theorem billRunIds_mapBillRun (hf : ∀ b, (f b).id = b.id) (id : Uuid) :
    (s.mapBillRun id f).billRunIds = s.billRunIds := by
  simp only [billRunIds, mapBillRun, List.map_map]
  exact List.map_congr_left fun b _ => by by_cases h : b.id = id <;> simp [h, hf]

theorem invoiceKeys_mapInvoice (hg : ∀ i, (g i).id = i.id ∧ (g i).billRunId = i.billRunId)
    (id : Uuid) : (s.mapInvoice id g).invoiceKeys = s.invoiceKeys := by
  simp only [invoiceKeys, mapInvoice, List.map_map]
  exact List.map_congr_left fun i _ => by by_cases h : i.id = id <;> simp [h, hg]

theorem licenceKeys_mapLicence
    (hk : ∀ l, (k l).id = l.id ∧ (k l).invoiceId = l.invoiceId ∧ (k l).billRunId = l.billRunId)
    (id : Uuid) : (s.mapLicence id k).licenceKeys = s.licenceKeys := by
  simp only [licenceKeys, mapLicence, List.map_map]
  exact List.map_congr_left fun l _ => by by_cases h : l.id = id <;> simp [h, hk]

theorem Sound.mapBillRun (h : Sound s) (hf : ∀ b, (f b).id = b.id) (id : Uuid) :
    Sound (s.mapBillRun id f) :=
  h.of_keys (billRunIds_mapBillRun hf id) rfl rfl rfl (Nat.le_refl _)

theorem Sound.mapInvoice (h : Sound s) (hg : ∀ i, (g i).id = i.id ∧ (g i).billRunId = i.billRunId)
    (id : Uuid) : Sound (s.mapInvoice id g) :=
  h.of_keys rfl (invoiceKeys_mapInvoice hg id) rfl rfl (Nat.le_refl _)

theorem Sound.mapLicence (h : Sound s)
    (hk : ∀ l, (k l).id = l.id ∧ (k l).invoiceId = l.invoiceId ∧ (k l).billRunId = l.billRunId)
    (id : Uuid) : Sound (s.mapLicence id k) :=
  h.of_keys rfl rfl (licenceKeys_mapLicence hk id) rfl (Nat.le_refl _)

theorem confined_mapBillRun (hf : ∀ b, (f b).id = b.id) (X : Uuid) :
    Confined X s (s.mapBillRun X f) := by
  intro B hB
  simp only [part, mapBillRun, Part.mk.injEq, and_true]
  refine (filter_map_eq _ _ _ (fun b _ hb => ?_) (fun b _ => ?_)).symm
  · have : b.id ≠ X := by simp at hb; rw [hb]; exact hB
    simp [this]
  · by_cases h : b.id = X <;> simp [h, hf]

theorem confined_mapInvoice (hg : ∀ i, (g i).id = i.id ∧ (g i).billRunId = i.billRunId)
    {id : Uuid} (hX : ∀ i ∈ s.invoices, i.id = id → i.billRunId = X) :
    Confined X s (s.mapInvoice id g) := by
  intro B hB
  simp only [part, mapInvoice, Part.mk.injEq, true_and, and_true]
  refine (filter_map_eq _ _ _ (fun i hi hp => ?_) (fun i _ => ?_)).symm
  · have : i.id ≠ id := fun e => hB (by simp at hp; rw [← hp, hX i hi e])
    simp [this]
  · by_cases h : i.id = id <;> simp [h, hg]

theorem confined_mapLicence
    (hk : ∀ l, (k l).id = l.id ∧ (k l).invoiceId = l.invoiceId ∧ (k l).billRunId = l.billRunId)
    {id : Uuid} (hX : ∀ l ∈ s.licences, l.id = id → l.billRunId = X) :
    Confined X s (s.mapLicence id k) := by
  intro B hB
  simp only [part, mapLicence, Part.mk.injEq, true_and, and_true]
  refine (filter_map_eq _ _ _ (fun l hl hp => ?_) (fun l _ => ?_)).symm
  · have : l.id ≠ id := fun e => hB (by simp at hp; rw [← hp, hX l hl e])
    simp [this]
  · by_cases h : l.id = id <;> simp [h, hk]

/-! ## Rows added -/

theorem nodup_append_single {α : Type} {l : List α} {a : α} (h : l.Nodup) (ha : a ∉ l) :
    (l ++ [a]).Nodup :=
  List.nodup_append.2 ⟨h, List.nodup_cons.2 ⟨List.not_mem_nil, List.nodup_nil⟩,
    fun b hb c hc e => ha (by rw [List.mem_singleton.1 hc] at e; exact e ▸ hb)⟩

theorem forall_mem_append_single {α : Type} {p : α → Prop} {l : List α} {a : α}
    (h : ∀ x ∈ l, p x) (ha : p a) : ∀ x ∈ l ++ [a], p x := by
  intro x hx
  rcases List.mem_append.1 hx with hx | hx
  · exact h x hx
  · exact (List.mem_singleton.1 hx) ▸ ha

theorem Sound.insertBillRun (h : Sound s) (b : BillRun) (hnew : b.id ∉ s.billRunIds)
    (hb : s.Issued b.id) : Sound { s with billRuns := s.billRuns ++ [b] } := by
  have hids : ({ s with billRuns := s.billRuns ++ [b] } : Store).billRunIds =
      s.billRunIds ++ [b.id] := by simp [billRunIds]
  refine { h with
    billRuns_nodup := ?_
    billRuns_issued := ?_
    invoice_parent := ?_ } <;> rw [hids]
  · exact nodup_append_single h.billRuns_nodup hnew
  · exact forall_mem_append_single h.billRuns_issued hb
  · exact fun k hk => List.mem_append_left _ (h.invoice_parent k hk)

theorem Sound.insertInvoice (h : Sound s) (i : Invoice) (hnew : i.id ∉ s.invoiceKeys.map (·.1))
    (hi : s.Issued i.id) (hb : i.billRunId ∈ s.billRunIds) :
    Sound { s with invoices := s.invoices ++ [i] } := by
  have hk : ({ s with invoices := s.invoices ++ [i] } : Store).invoiceKeys =
      s.invoiceKeys ++ [(i.id, i.billRunId)] := by simp [invoiceKeys]
  refine { h with
    invoices_nodup := ?_
    invoices_issued := ?_
    invoice_parent := ?_
    licence_parent := ?_ } <;> rw [hk]
  · rw [List.map_append]
    exact nodup_append_single h.invoices_nodup hnew
  · exact forall_mem_append_single h.invoices_issued hi
  · exact forall_mem_append_single h.invoice_parent hb
  · exact fun k hk => List.mem_append_left _ (h.licence_parent k hk)

theorem Sound.insertLicence (h : Sound s) (l : Licence) (hnew : l.id ∉ s.licenceKeys.map (·.1))
    (hi : s.Issued l.id) (hp : (l.invoiceId, l.billRunId) ∈ s.invoiceKeys) :
    Sound { s with licences := s.licences ++ [l] } := by
  have hk : ({ s with licences := s.licences ++ [l] } : Store).licenceKeys =
      s.licenceKeys ++ [(l.id, l.invoiceId, l.billRunId)] := by simp [licenceKeys]
  refine { h with
    licences_nodup := ?_
    licences_issued := ?_
    licence_parent := ?_
    transaction_parent := ?_ } <;> rw [hk]
  · rw [List.map_append]
    exact nodup_append_single h.licences_nodup hnew
  · exact forall_mem_append_single h.licences_issued hi
  · exact forall_mem_append_single h.licence_parent hp
  · exact fun k hk => List.mem_append_left _ (h.transaction_parent k hk)

theorem Sound.insertTransaction (h : Sound s) (t : Transaction)
    (hnew : t.id ∉ s.transactionKeys.map (·.1)) (hi : s.Issued t.id)
    (hp : (t.licenceId, t.invoiceId, t.billRunId) ∈ s.licenceKeys) :
    Sound { s with transactions := s.transactions ++ [t] } := by
  have hk : ({ s with transactions := s.transactions ++ [t] } : Store).transactionKeys =
      s.transactionKeys ++ [(t.id, t.licenceId, t.invoiceId, t.billRunId)] := by
    simp [transactionKeys]
  refine { h with
    transactions_nodup := ?_
    transactions_issued := ?_
    transaction_parent := ?_ } <;> rw [hk]
  · rw [List.map_append]
    exact nodup_append_single h.transactions_nodup hnew
  · exact forall_mem_append_single h.transactions_issued hi
  · exact forall_mem_append_single h.transaction_parent hp

theorem confined_insertBillRun (b : BillRun) :
    Confined b.id s { s with billRuns := s.billRuns ++ [b] } := by
  intro B hB
  have : (b.id == B) = false := by simpa using fun e => hB e.symm
  simp [part, List.filter_append, this]

theorem confined_insertInvoice (i : Invoice) :
    Confined i.billRunId s { s with invoices := s.invoices ++ [i] } := by
  intro B hB
  have : (i.billRunId == B) = false := by simpa using fun e => hB e.symm
  simp [part, List.filter_append, this]

theorem confined_insertLicence (l : Licence) :
    Confined l.billRunId s { s with licences := s.licences ++ [l] } := by
  intro B hB
  have : (l.billRunId == B) = false := by simpa using fun e => hB e.symm
  simp [part, List.filter_append, this]

theorem confined_insertTransaction (t : Transaction) :
    Confined t.billRunId s { s with transactions := s.transactions ++ [t] } := by
  intro B hB
  have : (t.billRunId == B) = false := by simpa using fun e => hB e.symm
  simp [part, List.filter_append, this]

/-! ## Parents and unique keys -/

theorem snd_eq_of_nodup {α β : Type} {l : List (α × β)} (h : (l.map (·.1)).Nodup) {a : α}
    {b c : β} (hb : (a, b) ∈ l) (hc : (a, c) ∈ l) : b = c := by
  induction l with
  | nil => cases hb
  | cons x l ih =>
    rw [List.map_cons, List.nodup_cons] at h
    have notin : ∀ d, (a, d) ∈ l → x.1 ≠ a := fun d hd e =>
      h.1 (List.mem_map.2 ⟨(a, d), hd, e.symm⟩)
    rcases List.mem_cons.1 hb with rfl | hb <;> rcases List.mem_cons.1 hc with hc | hc
    · exact (Prod.mk.inj hc).2.symm
    · exact absurd rfl (notin c hc)
    · exact absurd (congrArg Prod.fst hc).symm (notin b hb)
    · exact ih h.2 hb hc

theorem Sound.licence_key (h : Sound s) {l : Licence} (hl : l ∈ s.licences) :
    (l.invoiceId, l.billRunId) ∈ s.invoiceKeys :=
  h.licence_parent (l.id, l.invoiceId, l.billRunId) (List.mem_map_of_mem hl)

theorem Sound.transaction_key (h : Sound s) {t : Transaction} (ht : t ∈ s.transactions) :
    (t.licenceId, t.invoiceId, t.billRunId) ∈ s.licenceKeys :=
  h.transaction_parent (t.id, t.licenceId, t.invoiceId, t.billRunId) (List.mem_map_of_mem ht)

theorem Sound.transaction_invoice_key (h : Sound s) {t : Transaction} (ht : t ∈ s.transactions) :
    (t.invoiceId, t.billRunId) ∈ s.invoiceKeys :=
  h.licence_parent _ (h.transaction_key ht)

theorem Sound.invoiceIds_nodup (h : Sound s) : (s.invoices.map (·.id)).Nodup := by
  simpa [invoiceKeys, Function.comp_def] using h.invoices_nodup

theorem Sound.invoice_billRun (h : Sound s) {I X Y : Uuid} (hX : (I, X) ∈ s.invoiceKeys)
    (hY : (I, Y) ∈ s.invoiceKeys) : X = Y :=
  snd_eq_of_nodup h.invoices_nodup hX hY

theorem Sound.licence_owner (h : Sound s) {L : Uuid} {a b : Uuid × Uuid}
    (ha : (L, a) ∈ s.licenceKeys) (hb : (L, b) ∈ s.licenceKeys) : a = b :=
  snd_eq_of_nodup h.licences_nodup ha hb

theorem Sound.lines_of_licence (h : Sound s) {l : Licence} (hl : l ∈ s.licences) :
    ∀ t ∈ s.transactions, t.licenceId = l.id → t.invoiceId = l.invoiceId ∧ t.billRunId = l.billRunId := by
  intro t ht e
  have := h.licence_owner (e ▸ h.transaction_key ht) (List.mem_map_of_mem (f := fun l : Licence =>
    (l.id, l.invoiceId, l.billRunId)) hl)
  simpa using this

theorem Sound.lines_of_invoice (h : Sound s) {i : Invoice} (hi : i ∈ s.invoices) :
    ∀ t ∈ s.transactions, t.invoiceId = i.id → t.billRunId = i.billRunId := fun _ ht e =>
  h.invoice_billRun (e ▸ h.transaction_invoice_key ht) (List.mem_map_of_mem hi)

/-! ## Rows removed -/

theorem Sound.of_sublist (h : Sound s) (hb : s'.billRunIds.Sublist s.billRunIds)
    (hi : s'.invoiceKeys.Sublist s.invoiceKeys) (hl : s'.licenceKeys.Sublist s.licenceKeys)
    (ht : s'.transactionKeys.Sublist s.transactionKeys) (hn : s.issued = s'.issued)
    (pi : ∀ k ∈ s'.invoiceKeys, k.2 ∈ s'.billRunIds)
    (pl : ∀ k ∈ s'.licenceKeys, k.2 ∈ s'.invoiceKeys)
    (pt : ∀ k ∈ s'.transactionKeys, k.2 ∈ s'.licenceKeys) : Sound s' where
  billRuns_nodup := h.billRuns_nodup.sublist hb
  invoices_nodup := h.invoices_nodup.sublist (hi.map _)
  licences_nodup := h.licences_nodup.sublist (hl.map _)
  transactions_nodup := h.transactions_nodup.sublist (ht.map _)
  billRuns_issued u hu := by
    have := h.billRuns_issued u (hb.subset hu)
    unfold Issued at *
    omega
  invoices_issued k hk := by
    have := h.invoices_issued k (hi.subset hk)
    unfold Issued at *
    omega
  licences_issued k hk := by
    have := h.licences_issued k (hl.subset hk)
    unfold Issued at *
    omega
  transactions_issued k hk := by
    have := h.transactions_issued k (ht.subset hk)
    unfold Issued at *
    omega
  invoice_parent := pi
  licence_parent := pl
  transaction_parent := pt

theorem Sound.deleteBillRun (h : Sound s) (X : Uuid) :
    Sound { s with
      transactions := s.transactions.filter (·.billRunId != X)
      licences := s.licences.filter (·.billRunId != X)
      invoices := s.invoices.filter (·.billRunId != X)
      billRuns := s.billRuns.filter (·.id != X) } := by
  refine h.of_sublist ((List.filter_sublist).map _) ((List.filter_sublist).map _)
    ((List.filter_sublist).map _) ((List.filter_sublist).map _) rfl ?_ ?_ ?_
  · simp only [invoiceKeys, billRunIds, List.mem_map, List.mem_filter]
    rintro _ ⟨i, ⟨hi, hX⟩, rfl⟩
    obtain ⟨b, hb, e⟩ := List.mem_map.1 (h.invoice_parent _ (List.mem_map_of_mem hi))
    exact ⟨b, ⟨hb, by simpa [e] using hX⟩, e⟩
  · simp only [licenceKeys, invoiceKeys, List.mem_map, List.mem_filter]
    rintro _ ⟨l, ⟨hl, hX⟩, rfl⟩
    obtain ⟨i, hi, e⟩ := List.mem_map.1 (h.licence_key hl)
    simp only [Prod.mk.injEq] at e
    exact ⟨i, ⟨hi, by simpa [e.2] using hX⟩, by simp [e.1, e.2]⟩
  · simp only [transactionKeys, licenceKeys, List.mem_map, List.mem_filter]
    rintro _ ⟨t, ⟨ht, hX⟩, rfl⟩
    obtain ⟨l, hl, e⟩ := List.mem_map.1 (h.transaction_key ht)
    simp only [Prod.mk.injEq] at e
    exact ⟨l, ⟨hl, by simpa [e.2.2] using hX⟩, by simp [e.1, e.2.1, e.2.2]⟩

theorem Sound.deleteInvoice (h : Sound s) (I : Uuid) :
    Sound { s with
      transactions := s.transactions.filter (·.invoiceId != I)
      licences := s.licences.filter (·.invoiceId != I)
      invoices := s.invoices.filter (·.id != I) } := by
  refine h.of_sublist (List.Sublist.refl _) ((List.filter_sublist).map _)
    ((List.filter_sublist).map _) ((List.filter_sublist).map _) rfl ?_ ?_ ?_
  · simp only [invoiceKeys, List.mem_map, List.mem_filter]
    rintro _ ⟨i, ⟨hi, -⟩, rfl⟩
    exact h.invoice_parent _ (List.mem_map_of_mem hi)
  · simp only [licenceKeys, invoiceKeys, List.mem_map, List.mem_filter]
    rintro _ ⟨l, ⟨hl, hI⟩, rfl⟩
    obtain ⟨i, hi, e⟩ := List.mem_map.1 (h.licence_key hl)
    simp only [Prod.mk.injEq] at e
    exact ⟨i, ⟨hi, by simpa [e.1] using hI⟩, by simp [e.1, e.2]⟩
  · simp only [transactionKeys, licenceKeys, List.mem_map, List.mem_filter]
    rintro _ ⟨t, ⟨ht, hI⟩, rfl⟩
    obtain ⟨l, hl, e⟩ := List.mem_map.1 (h.transaction_key ht)
    simp only [Prod.mk.injEq] at e
    exact ⟨l, ⟨hl, by simpa [e.2.1] using hI⟩, by simp [e.1, e.2.1, e.2.2]⟩

theorem Sound.deleteLicence (h : Sound s) (L : Uuid) :
    Sound { s with
      transactions := s.transactions.filter (·.licenceId != L)
      licences := s.licences.filter (·.id != L) } := by
  refine h.of_sublist (List.Sublist.refl _) (List.Sublist.refl _)
    ((List.filter_sublist).map _) ((List.filter_sublist).map _) rfl h.invoice_parent ?_ ?_
  · simp only [licenceKeys, List.mem_map, List.mem_filter]
    rintro _ ⟨l, ⟨hl, -⟩, rfl⟩
    exact h.licence_key hl
  · simp only [transactionKeys, licenceKeys, List.mem_map, List.mem_filter]
    rintro _ ⟨t, ⟨ht, hL⟩, rfl⟩
    obtain ⟨l, hl, e⟩ := List.mem_map.1 (h.transaction_key ht)
    simp only [Prod.mk.injEq] at e
    exact ⟨l, ⟨hl, by simpa [e.1] using hL⟩, by simp [e.1, e.2.1, e.2.2]⟩

theorem Sound.deleteTransactions (h : Sound s) (p : Transaction → Bool) :
    Sound { s with transactions := s.transactions.filter p } := by
  refine h.of_sublist (List.Sublist.refl _) (List.Sublist.refl _) (List.Sublist.refl _)
    ((List.filter_sublist).map _) rfl h.invoice_parent h.licence_parent ?_
  simp only [transactionKeys, List.mem_map, List.mem_filter]
  rintro _ ⟨t, ⟨ht, -⟩, rfl⟩
  exact h.transaction_key ht

theorem filter_filter_of_imp {α : Type} (l : List α) (p q : α → Bool)
    (h : ∀ a ∈ l, p a = true → q a = true) : (l.filter q).filter p = l.filter p := by
  rw [List.filter_filter]
  exact List.filter_congr fun a ha => by cases hp : p a <;> simp [hp, h a ha]

theorem confined_deleteBillRun (X : Uuid) :
    Confined X s { s with
      transactions := s.transactions.filter (·.billRunId != X)
      licences := s.licences.filter (·.billRunId != X)
      invoices := s.invoices.filter (·.billRunId != X)
      billRuns := s.billRuns.filter (·.id != X) } := by
  intro B hB
  have away : ∀ u : Uuid, (u == B) = true → (u != X) = true := by
    intro u hu
    simp only [beq_iff_eq] at hu
    simpa [hu] using hB
  simp only [part, Part.mk.injEq]
  exact ⟨(filter_filter_of_imp _ _ _ fun b _ => away b.id).symm,
    (filter_filter_of_imp _ _ _ fun i _ => away i.billRunId).symm,
    (filter_filter_of_imp _ _ _ fun l _ => away l.billRunId).symm,
    (filter_filter_of_imp _ _ _ fun t _ => away t.billRunId).symm⟩

theorem confined_deleteInvoice {I : Uuid} (hi : ∀ i ∈ s.invoices, i.id = I → i.billRunId = X)
    (hl : ∀ l ∈ s.licences, l.invoiceId = I → l.billRunId = X)
    (ht : ∀ t ∈ s.transactions, t.invoiceId = I → t.billRunId = X) :
    Confined X s { s with
      transactions := s.transactions.filter (·.invoiceId != I)
      licences := s.licences.filter (·.invoiceId != I)
      invoices := s.invoices.filter (·.id != I) } := by
  intro B hB
  have away : ∀ {u v : Uuid}, (v == B) = true → (u = I → v = X) → (u != I) = true := by
    intro u v hv hu
    simp only [beq_iff_eq] at hv
    simpa using fun e => hB (hv ▸ hu e)
  simp only [part, Part.mk.injEq, true_and]
  exact ⟨(filter_filter_of_imp _ _ _ fun i hi' hB' => away hB' (hi i hi')).symm,
    (filter_filter_of_imp _ _ _ fun l hl' hB' => away hB' (hl l hl')).symm,
    (filter_filter_of_imp _ _ _ fun t ht' hB' => away hB' (ht t ht')).symm⟩

theorem confined_deleteLicence {L : Uuid} (hl : ∀ l ∈ s.licences, l.id = L → l.billRunId = X)
    (ht : ∀ t ∈ s.transactions, t.licenceId = L → t.billRunId = X) :
    Confined X s { s with
      transactions := s.transactions.filter (·.licenceId != L)
      licences := s.licences.filter (·.id != L) } := by
  intro B hB
  have away : ∀ {u v : Uuid}, (v == B) = true → (u = L → v = X) → (u != L) = true := by
    intro u v hv hu
    simp only [beq_iff_eq] at hv
    simpa using fun e => hB (hv ▸ hu e)
  simp only [part, Part.mk.injEq, true_and]
  exact ⟨(filter_filter_of_imp _ _ _ fun l hl' hB' => away hB' (hl l hl')).symm,
    (filter_filter_of_imp _ _ _ fun t ht' hB' => away hB' (ht t ht')).symm⟩

theorem confined_deleteTransactions {p : Transaction → Bool}
    (hp : ∀ t ∈ s.transactions, p t = false → t.billRunId = X) :
    Confined X s { s with transactions := s.transactions.filter p } := by
  intro B hB
  simp only [part, Part.mk.injEq, true_and]
  refine (filter_filter_of_imp _ _ _ fun t ht hB' => ?_).symm
  cases e : p t
  · simp only [beq_iff_eq] at hB'
    exact absurd (hB' ▸ hp t ht e) hB
  · rfl

section Transport

variable {s₀ : Store}

/-! ## Rows of other bill runs stay where they were -/

theorem Confined.invoice_mem (h : Confined X s₀ s) {i : Invoice} (hi : i ∈ s.invoices)
    (hB : i.billRunId ≠ X) : i ∈ s₀.invoices := by
  have hpart : i ∈ (s.part i.billRunId).invoices := List.mem_filter.2 ⟨hi, by simp⟩
  rw [← h i.billRunId hB] at hpart
  exact (List.mem_filter.1 hpart).1

theorem Confined.licence_mem (h : Confined X s₀ s) {l : Licence} (hl : l ∈ s.licences)
    (hB : l.billRunId ≠ X) : l ∈ s₀.licences := by
  have hpart : l ∈ (s.part l.billRunId).licences := List.mem_filter.2 ⟨hl, by simp⟩
  rw [← h l.billRunId hB] at hpart
  exact (List.mem_filter.1 hpart).1

theorem Confined.transaction_mem (h : Confined X s₀ s) {t : Transaction}
    (ht : t ∈ s.transactions) (hB : t.billRunId ≠ X) : t ∈ s₀.transactions := by
  have hpart : t ∈ (s.part t.billRunId).transactions := List.mem_filter.2 ⟨ht, by simp⟩
  rw [← h t.billRunId hB] at hpart
  exact (List.mem_filter.1 hpart).1

variable (h : Confined X s₀ s) (hs₀ : s₀.Sound)
include h hs₀

theorem Confined.invoice_on {J : Uuid} (hJ : (J, X) ∈ s₀.invoiceKeys) :
    ∀ i ∈ s.invoices, i.id = J → i.billRunId = X := by
  intro i hi e
  refine Decidable.byContradiction fun hB => ?_
  have hk : (J, i.billRunId) ∈ s₀.invoiceKeys := by
    rw [← e]
    exact List.mem_map_of_mem (h.invoice_mem hi hB)
  exact hB (hs₀.invoice_billRun hk hJ)

theorem Confined.licence_on {L I : Uuid} (hL : (L, I, X) ∈ s₀.licenceKeys) :
    ∀ l ∈ s.licences, l.id = L → l.billRunId = X := by
  intro l hl e
  refine Decidable.byContradiction fun hB => ?_
  have hk : (L, l.invoiceId, l.billRunId) ∈ s₀.licenceKeys := by
    rw [← e]
    exact List.mem_map_of_mem (h.licence_mem hl hB)
  exact hB (congrArg Prod.snd (hs₀.licence_owner hk hL))

theorem Confined.lines_on_licence {L I : Uuid} (hL : (L, I, X) ∈ s₀.licenceKeys) :
    ∀ t ∈ s.transactions, t.licenceId = L → t.billRunId = X := by
  intro t ht e
  refine Decidable.byContradiction fun hB => ?_
  have hk : (L, t.invoiceId, t.billRunId) ∈ s₀.licenceKeys :=
    e ▸ hs₀.transaction_key (h.transaction_mem ht hB)
  exact hB (congrArg Prod.snd (hs₀.licence_owner hk hL))

theorem Confined.lines_on_invoice {I : Uuid} (hI : (I, X) ∈ s₀.invoiceKeys) :
    ∀ t ∈ s.transactions, t.invoiceId = I → t.billRunId = X := by
  intro t ht e
  refine Decidable.byContradiction fun hB => ?_
  have hk : (I, t.billRunId) ∈ s₀.invoiceKeys :=
    e ▸ hs₀.transaction_invoice_key (h.transaction_mem ht hB)
  exact hB (hs₀.invoice_billRun hk hI)

theorem Confined.licences_on_invoice {I : Uuid} (hI : (I, X) ∈ s₀.invoiceKeys) :
    ∀ l ∈ s.licences, l.invoiceId = I → l.billRunId = X := by
  intro l hl e
  refine Decidable.byContradiction fun hB => ?_
  have hk : (I, l.billRunId) ∈ s₀.invoiceKeys := e ▸ hs₀.licence_key (h.licence_mem hl hB)
  exact hB (hs₀.invoice_billRun hk hI)

end Transport

/-! ## Queries -/

theorem sortBy_perm {α : Type} (cmp : α → α → Ordering) (xs : List α) : (sortBy cmp xs).Perm xs :=
  List.mergeSort_perm _ _

theorem mem_sortBy {α : Type} {cmp : α → α → Ordering} {xs : List α} {a : α} :
    a ∈ sortBy cmp xs ↔ a ∈ xs :=
  (sortBy_perm cmp xs).mem_iff

theorem mem_invoicesOf {i : Invoice} : i ∈ s.invoicesOf X ↔ i ∈ s.invoices ∧ i.billRunId = X := by
  simp [invoicesOf, mem_sortBy]

theorem key_of_mem_invoicesOf {i : Invoice} (h : i ∈ s.invoicesOf X) : (i.id, X) ∈ s.invoiceKeys :=
  (mem_invoicesOf.1 h).2 ▸ List.mem_map_of_mem (mem_invoicesOf.1 h).1

theorem mem_transactionsOfInvoice {I : Uuid} {t : Transaction} :
    t ∈ s.transactionsOfInvoice I ↔ t ∈ s.transactions ∧ t.invoiceId = I := by
  simp [transactionsOfInvoice, mem_sortBy]

theorem mem_transactionsOfLicence {L : Uuid} {t : Transaction} :
    t ∈ s.transactionsOfLicence L ↔ t ∈ s.transactions ∧ t.licenceId = L := by
  simp [transactionsOfLicence, mem_sortBy]

theorem mem_of_licenceOn? {X L : Uuid} {l : Licence} (h : s.licenceOn? X L = some l) :
    l ∈ s.licences ∧ l.id = L ∧ l.billRunId = X := by
  have := List.find?_some h
  simp only [Bool.and_eq_true, beq_iff_eq] at this
  exact ⟨List.mem_of_find?_eq_some h, this⟩

theorem mem_of_invoiceOn? {X I : Uuid} {i : Invoice} (h : s.invoiceOn? X I = some i) :
    i ∈ s.invoices ∧ i.id = I ∧ i.billRunId = X := by
  have := List.find?_some h
  simp only [Bool.and_eq_true, beq_iff_eq] at this
  exact ⟨List.mem_of_find?_eq_some h, this⟩

theorem Sound.fresh_transaction (h : Sound s) :
    Uuid.ofSerial s.issued ∉ s.transactionKeys.map (·.1) := fun hm => by
  obtain ⟨k, hk, e⟩ := List.mem_map.1 hm
  exact (h.transactions_issued k hk).ne_ofSerial e

theorem Sound.fresh_invoice (h : Sound s) {m : Nat} (hm : s.issued ≤ m) :
    Uuid.ofSerial m ∉ s.invoiceKeys.map (·.1) := fun hmem => by
  obtain ⟨k, hk, e⟩ := List.mem_map.1 hmem
  exact (h.invoices_issued k hk).ne_ofSerial_of_le hm e

/-- Every invoice under an identifier that a key puts on bill run `X` is on `X`. -/
theorem Sound.invoice_on (h : Sound s) {I X : Uuid} (hk : (I, X) ∈ s.invoiceKeys) :
    ∀ i ∈ s.invoices, i.id = I → i.billRunId = X := by
  rintro i hi rfl
  exact h.invoice_billRun (List.mem_map_of_mem hi) hk

end Store

end ChargeLedger
