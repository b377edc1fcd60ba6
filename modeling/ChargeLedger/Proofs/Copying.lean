import ChargeLedger.Proofs.Shape

/-!
# The copying of a rebilled invoice fills both copies

A rebill adds a cancel copy and a rebill copy with no licences, and leaves the posting of every
line of the rebilled invoice onto each copy. A posting onto a named invoice keeps where every
bill run bills, whether it takes changes and what every invoice is (`Store.outline`), and
licences only come. So every posting of the copying finds its bill run taking changes and the
copy it names, and none fails; the first line of the rebilled invoice's first licence gives each
copy a licence, and the copying ends with the ledger in its shape.
-/

set_option autoImplicit false

namespace ChargeLedger

namespace Store

/-- Where every bill run bills and whether it takes changes, and what every invoice is. -/
def outline (s : Store) : List ((Uuid × Uuid × Region × Ruleset) × Bool) ×
    List (Uuid × Uuid × String × Int × InvoiceKind × Option Uuid) :=
  (s.billRuns.map fun b => (b.place, b.status.editable), s.invoices.map Invoice.lineage)

/-- Since `s₀` the outline stayed and no licence went. -/
def Outlined (s₀ s : Store) : Prop :=
  s.outline = s₀.outline ∧ ∀ k ∈ s₀.licenceKeys, k ∈ s.licenceKeys

variable {s₀ s : Store}

theorem outline_mapBillRun {X : Uuid} {f : BillRun → BillRun}
    (hf : ∀ b, (f b).place = b.place ∧ (f b).status.editable = b.status.editable) :
    (s.mapBillRun X f).outline = s.outline := by
  simp only [outline, mapBillRun, List.map_map, Prod.mk.injEq, and_true]
  refine List.map_congr_left fun b _ => ?_
  by_cases e : b.id = X <;> simp [e, hf]

theorem outline_mapInvoice {I : Uuid} {g : Invoice → Invoice}
    (hg : ∀ i, (g i).lineage = i.lineage) : (s.mapInvoice I g).outline = s.outline := by
  simp only [outline, mapInvoice, List.map_map, Prod.mk.injEq, true_and]
  refine List.map_congr_left fun i _ => ?_
  by_cases e : i.id = I <;> simp [e, hg]

theorem Outlined.guarded (h : Outlined s₀ s) {X : Uuid} {allowed : List Status}
    {f : BillRun → BillRun}
    (hf : ∀ b, (f b).place = b.place ∧ (f b).status.editable = b.status.editable) :
    Outlined s₀ (s.guarded X allowed f).2 := by
  cases hg : (s.guarded X allowed f).1
  · rwa [guarded_false hg]
  · rw [(guarded_true hg).1]
    exact ⟨(outline_mapBillRun hf).trans h.1, h.2⟩

theorem Outlined.place (h : Outlined s₀ s) (hs₀ : s₀.Sound) {b₀ b : BillRun}
    (hb₀ : b₀ ∈ s₀.billRuns) (hb : b ∈ s.billRuns) (e : b.id = b₀.id) : b.place = b₀.place := by
  have hmem : (b.place, b.status.editable) ∈ s₀.outline.1 := by
    rw [← h.1]
    exact List.mem_map_of_mem hb
  obtain ⟨b₁, hb₁, e₁⟩ := List.mem_map.1 hmem
  simp only [Prod.mk.injEq] at e₁
  have hid : b₁.id = b₀.id := (congrArg Prod.fst e₁.1).trans e
  have hrow : b₁ = b₀ := Option.some.inj
    ((hs₀.billRun?_of_mem hb₁).symm.trans (hid ▸ hs₀.billRun?_of_mem hb₀))
  rw [← e₁.1, hrow]

theorem Outlined.lineage (h : Outlined s₀ s) (hs₀ : s₀.Sound) {i₀ i : Invoice}
    (hi₀ : i₀ ∈ s₀.invoices) (hi : i ∈ s.invoices) (e : i.id = i₀.id) : i.lineage = i₀.lineage := by
  have hmem : i.lineage ∈ s₀.outline.2 := by
    rw [← h.1]
    exact List.mem_map_of_mem hi
  obtain ⟨i₁, hi₁, e₁⟩ := List.mem_map.1 hmem
  have hid : i₁.id = i₀.id := (Invoice.lineage_eq e₁).1.trans e
  rw [← e₁, hs₀.invoice_eq hi₁ hi₀ hid]

theorem Outlined.billRun_mem (h : Outlined s₀ s) {b₀ : BillRun} (hb₀ : b₀ ∈ s₀.billRuns) :
    ∃ b ∈ s.billRuns, b.place = b₀.place ∧ b.status.editable = b₀.status.editable := by
  have hmem : (b₀.place, b₀.status.editable) ∈ s.outline.1 := by
    rw [h.1]
    exact List.mem_map_of_mem hb₀
  obtain ⟨b, hb, e⟩ := List.mem_map.1 hmem
  simp only [Prod.mk.injEq] at e
  exact ⟨b, hb, e⟩

theorem Outlined.invoice_mem (h : Outlined s₀ s) {i₀ : Invoice} (hi₀ : i₀ ∈ s₀.invoices) :
    ∃ i ∈ s.invoices, i.lineage = i₀.lineage := by
  have hmem : i₀.lineage ∈ s.outline.2 := by
    rw [h.1]
    exact List.mem_map_of_mem hi₀
  exact List.mem_map.1 hmem

end Store

theorem BillRun.posted_editable (now : Instant) (δ : Tally) (b : BillRun) :
    (BillRun.posted now δ b).status.editable = b.status.editable := by
  unfold BillRun.posted
  cases h : b.status <;> simp [Status.editable]

open Op Store

variable {s₀ s : Store}

theorem post_keeps_outlined (now : Instant) (t : Transaction) (I : Uuid) (allowed : List Status) :
    Keeps (Outlined s₀) (post now t { invoice := some I, allowed := allowed }) := by
  unfold post
  extract_lets delta line invoice
  rw [addBillRunTally_eq]
  have hline : ∀ J, Keeps (Outlined s₀) (line J) := fun J => by
    simp only [line, upsertLicence]
    refine .bind (.bind (.modifyGet fun _ h => ⟨h, Nat.le_succ _⟩) fun _ =>
      .modifyGet fun s h => ⟨?_, by split <;> exact Nat.le_refl _⟩) fun _ => ?_
    · -- a licence found keeps its key, a new one adds its key
      split
      · exact ⟨h.1, fun k hk => by
          rw [licenceKeys_mapLicence
            (k := fun r => { r with tally := r.tally + delta, updatedAt := now })
            fun _ => ⟨rfl, rfl, rfl⟩]
          exact h.2 k hk⟩
      · exact ⟨h.1, fun k hk => by
          simp only [licenceKeys, List.map_append]
          exact List.mem_append_left _ (h.2 k hk)⟩
    · have hfin : ∀ u : Transaction,
          Keeps (Outlined s₀) (insertTransaction u >>= fun _ => pure u) :=
        fun _ => .bind (.modify fun _ h => ⟨h, Nat.le_refl _⟩) fun _ => .pure _
      split
      · refine .bind .get fun _ => ?_
        split
        · exact .bind (.throw _) fun _ => hfin _
        · exact hfin _
      · exact hfin _
  have hinvoice : Keeps (Outlined s₀) (invoice ()) := by
    simp only [invoice]
    exact .bind (.modifyGet fun _ h => ⟨⟨(outline_mapInvoice
      (g := fun i => { i with tally := i.tally + delta, updatedAt := now }) fun _ => rfl).trans h.1,
      h.2⟩, Nat.le_refl _⟩) fun _ => .bind (.require _ _) fun _ => .bind (.pure _) hline
  refine .bind (.modifyGet fun _ h =>
    ⟨h.guarded fun b => ⟨rfl, BillRun.posted_editable now delta b⟩,
      Nat.le_of_eq guarded_issued.symm⟩) fun ok => ?_
  cases ok
  · exact .bind (fun n => Triple.of_eq fun s hs => (refusal_fails (E := fun s =>
      Outlined s₀ s ∧ n ≤ s.issued) t.billRunId hs).mono (fun _ h => h) (fun _ _ h => h.elim)
      fun _ h => h) fun _ => hinvoice
  · exact hinvoice

theorem post_returns (now : Instant) (t : Transaction) (how : Posting) {b : BillRun}
    (hb : s.billRun? t.billRunId = some b) (ha : how.allowed.contains b.status = true)
    (hI : ∀ I, how.invoice = some I → (s.invoice? I).isSome = true) (hc : t.clientId = none) :
    Triple (· = s) (post now t how) (fun _ _ => True) (fun _ => False) := by
  unfold post
  extract_lets delta line invoice
  rw [addBillRunTally_eq]
  refine .modifyGet_bind ?_
  rw [guarded_of_billRun? hb ha]
  have hline : ∀ J (P : Store → Prop), Triple P (line J) (fun _ _ => True) (fun _ => False) := by
    intro J P
    simp only [line, hc, upsertLicence]
    exact .bind (Q := fun _ _ => True) (.bind (Q := fun _ _ => True) (.modifyGet fun _ _ => trivial)
      fun _ => .modifyGet fun _ _ => trivial) fun _ => .bind (Q := fun _ _ => True)
        (.modify fun _ _ => trivial) fun _ => .pure fun _ _ => trivial
  refine (?_ : Triple (· = s.mapBillRun t.billRunId (BillRun.posted now delta)) (invoice ()) _ _)
  simp only [invoice]
  cases hi : how.invoice with
  | some I =>
    refine .modifyGet_bind (.require_bind (fun hf _ _ => ?_) fun _ =>
      .bind (Q := fun _ _ => True) (.pure fun _ _ => trivial) fun _ => hline _ _)
    exact Bool.false_ne_true (hf.symm.trans (hI I hi))
  | none =>
    exact .bind (Q := fun _ _ => True) (.bind (Q := fun _ _ => True)
      (.modifyGet fun _ _ => trivial) fun _ => .modifyGet fun _ _ => trivial) fun _ => hline _ _

theorem insertCopy_fresh (inv : Invoice) :
    Triple (· = s₀) (Rebill.insertCopy inv)
      (fun _ s => s = { s₀ with invoices := s₀.invoices ++ [inv] } ∧
        inv.key ∉ s₀.invoices.map Invoice.key) (· = s₀) := by
  unfold Rebill.insertCopy Store.insertInvoice
  refine Triple.modifyGet_bind ?_
  split
  · exact Triple.require fun _ e => ⟨nofun, fun _ => e⟩
  · rename_i hany
    refine Triple.require fun _ e => ⟨fun _ => ⟨e, fun hmem => hany ?_⟩, nofun⟩
    obtain ⟨j, hj, ej⟩ := List.mem_map.1 hmem
    simp only [Invoice.key, Prod.mk.injEq] at ej
    exact List.any_eq_true.2 ⟨j, hj, by simp [ej.1, ej.2.1, ej.2.2.1, ej.2.2.2]⟩

theorem rebill_shaped (now : Instant) (ref : BillRunRef) (invoiceId : Uuid) (actor : String)
    (hc : s₀.Coherent) :
    Triple (· = s₀) (Rebill.rebill now ref invoiceId actor)
      (fun res s => ∃ target rebilled, Rebill.Checked s₀ ref invoiceId target rebilled ∧
        res.1 = Rebill.copy (Uuid.ofSerial s₀.issued) rebilled target.id .cancel now ∧
        res.2.1 = Rebill.copy (Uuid.ofSerial (s₀.issued + 1)) rebilled target.id .rebill now ∧
        res.2.2 = .copyInvoice rebilled target.id res.1.id res.2.1.id actor ∧
        s.billRuns = s₀.billRuns ∧ s.invoices = s₀.invoices ++ [res.1, res.2.1] ∧
        s.Fitted ∧ s.Filled [res.2.1.id, res.1.id])
      Coherent := by
  unfold Rebill.rebill
  refine Triple.bind ((check_spec ref invoiceId).mono (fun _ h => h) (fun _ _ h => h)
    fun _ e => by rw [e]; exact hc) fun res => Triple.of_eq fun s h => ?_
  obtain ⟨target, rebilled⟩ := res
  obtain ⟨e, hchk⟩ := h
  subst s
  have hX : target.id ∈ s₀.billRunIds := List.mem_map_of_mem (List.mem_of_find?_eq_some hchk.1)
  have hfit₂ := hc.1.issue (s₀.issued + 1 + 1) (by omega)
  have hfill₂ : ({ s₀ with issued := s₀.issued + 1 + 1 } : Store).Filled [] := hc.2.congr rfl rfl rfl
  have hback : ∀ m, s₀.issued + 1 + 1 ≤ m → ({ s₀ with issued := m } : Store).Coherent :=
    fun m hm => ⟨hc.1.issue m (by omega), hc.2.congr rfl rfl rfl⟩
  refine Triple.fresh_bind (Triple.fresh_bind (Triple.bind (Triple.atomically
    (Q := fun _ s => s.billRuns = s₀.billRuns ∧ s.invoices = s₀.invoices ++
      [Rebill.copy (Uuid.ofSerial s₀.issued) rebilled target.id .cancel now,
        Rebill.copy (Uuid.ofSerial (s₀.issued + 1)) rebilled target.id .rebill now] ∧
      s.Fitted ∧ s.Filled [Uuid.ofSerial (s₀.issued + 1), Uuid.ofSerial s₀.issued])
    fun s e => ?_) fun _ => Triple.pure fun _ h => ⟨target, rebilled, hchk, rfl, rfl, rfl, h⟩))
  subst s
  refine Triple.bind ((insertCopy_fresh _).mono (fun _ h => h) (fun _ _ h => h)
    fun _ e => by subst e; exact hback _ (Nat.le_refl _)) fun _ => Triple.of_eq fun _ h => ?_
  obtain ⟨rfl, hkey₁⟩ := h
  refine (insertCopy_fresh _).mono (fun _ h => h) (fun _ _ h => ?_)
    fun _ e => by subst e; exact hback _ (Nat.le_refl _)
  obtain ⟨rfl, hkey₂⟩ := h
  have hfit₃ := hfit₂.insertInvoice (Rebill.copy (Uuid.ofSerial s₀.issued) rebilled target.id .cancel now)
    (hc.1.sound.fresh_invoice (Nat.le_refl _)) (by simp only [Issued, Rebill.copy, Uuid.ofSerial]; omega)
    hX hkey₁
  have hfresh₂ : Uuid.ofSerial (s₀.issued + 1) ∉ (s₀.invoiceKeys ++
      [(Uuid.ofSerial s₀.issued, target.id)]).map (·.1) := by
    intro hmem
    rcases List.mem_append.1 (List.map_append ▸ hmem) with hmem | hmem
    · exact hc.1.sound.fresh_invoice (Nat.le_succ _) hmem
    · simp [Uuid.ofSerial] at hmem
  have hfit₄ := hfit₃.insertInvoice
    (Rebill.copy (Uuid.ofSerial (s₀.issued + 1)) rebilled target.id .rebill now)
    (by simpa [invoiceKeys, List.map_append, Rebill.copy] using hfresh₂)
    (by simp only [Issued, Rebill.copy, Uuid.ofSerial]; omega) hX hkey₂
  exact ⟨rfl, List.append_assoc _ _ _, hfit₄, (hfill₂.insertInvoice _).insertInvoice _⟩

namespace Store

/-- Where the copying of `rebilled` onto bill run `bt`, into its cancel copy `c` and its rebill
copy `r`, starts: the ledger fitted and filled but for the two copies, which are on `bt` for the
rebilled invoice's customer and year; `bt` takes changes and bills where the rebilled invoice's
bill run bills. -/
structure CopyStart (s : Store) (rebilled : Invoice) (bt : BillRun) (c r : Uuid) : Prop where
  fitted : s.Fitted
  filled : s.Filled [r, c]
  copied : rebilled ∈ s.invoices
  apart : rebilled.id ∉ [r, c]
  target : bt ∈ s.billRuns
  editable : bt.status.editable = true
  source : ∃ bs ∈ s.billRuns, bs.id = rebilled.billRunId ∧ bs.regimeId = bt.regimeId ∧
    bs.region = bt.region ∧ bs.ruleset = bt.ruleset
  copies : ∀ d ∈ [r, c], ∃ i ∈ s.invoices, i.id = d ∧ i.billRunId = bt.id ∧
    i.customerReference = rebilled.customerReference ∧ i.financialYear = rebilled.financialYear

/-- The copying part way from `s₀`: the outline kept and no licence gone, the ledger fitted and
filled but for the copies of `K`. -/
structure Copying (s₀ : Store) (K : List Uuid) (s : Store) : Prop where
  outlined : Outlined s₀ s
  fitted : s.Fitted
  filled : s.Filled K

theorem mem_licencesOf {I : Uuid} {l : Licence} :
    l ∈ s.licencesOf I ↔ l ∈ s.licences ∧ l.invoiceId = I := by
  simp [licencesOf, mem_sortBy]

end Store

/-- A line that can be copied onto bill run `bt` into a copy of `rebilled`: it bills where `bt`
bills, for the rebilled invoice's customer and year. -/
def Transaction.Copyable (u : Transaction) (rebilled : Invoice) (bt : BillRun) : Prop :=
  u.regimeId = bt.regimeId ∧ u.region = bt.region ∧ u.ruleset = bt.ruleset ∧
    u.customerReference = rebilled.customerReference ∧
    u.chargeFinancialYear = rebilled.financialYear

theorem Status.allowed_of_editable {a : Status} (h : a.editable = true) :
    [Status.initialised, .generated].contains a = true := by
  cases a <;> simp [Status.editable] at h ⊢

namespace Store

section Copy

variable {rebilled : Invoice} {bt : BillRun} {c r : Uuid} {K : List Uuid}
  (hs : CopyStart s₀ rebilled bt c r)
include hs

theorem Copying.start : Copying s₀ [r, c] s₀ := ⟨⟨rfl, fun _ h => h⟩, hs.fitted, hs.filled⟩

theorem Copying.copyable (h : Copying s₀ K s) {lic : Licence} (hlic : lic ∈ s₀.licences)
    (hlr : lic.invoiceId = rebilled.id) {u : Transaction} (hu : u ∈ s.transactions)
    (hul : u.licenceId = lic.id) : u.Copyable rebilled bt := by
  have hs₀ := hs.fitted.sound
  have hsnd := h.fitted.sound
  have hk : (lic.id, rebilled.id, lic.billRunId) ∈ s.licenceKeys :=
    h.outlined.2 _ (hlr ▸ List.mem_map_of_mem hlic)
  have hown := hsnd.licence_owner (hul ▸ hsnd.transaction_key hu) hk
  simp only [Prod.mk.injEq] at hown
  have hlb : lic.billRunId = rebilled.billRunId :=
    hs₀.invoice_billRun (hlr ▸ hs₀.licence_key hlic) (List.mem_map_of_mem hs.copied)
  obtain ⟨-, fi, fb⟩ := h.fitted.fits u hu
  obtain ⟨i, hi, ei⟩ := h.outlined.invoice_mem hs.copied
  obtain ⟨hiid, -, hcu, hyr, -⟩ := Invoice.lineage_eq ei
  obtain ⟨bs, hbs, hbsid, hreg, hrgn, hrs⟩ := hs.source
  obtain ⟨b, hb, ep, -⟩ := h.outlined.billRun_mem hbs
  simp only [BillRun.place, Prod.mk.injEq] at ep
  have hfi := fi i hi (hiid.trans hown.1.symm)
  have hfb := fb b hb (ep.1.trans (hbsid.trans (hlb.symm.trans hown.2.symm)))
  exact ⟨hfb.1.symm.trans (ep.2.1.trans hreg), hfb.2.1.symm.trans (ep.2.2.1.trans hrgn),
    hfb.2.2.symm.trans (ep.2.2.2.trans hrs), hfi.1.symm.trans hcu, hfi.2.symm.trans hyr⟩

theorem Copying.onto (h : Copying s₀ K s) {u : Transaction} (hu : u.Copyable rebilled bt)
    {d : Uuid} (hd : d ∈ [r, c]) (flip : Bool) (now : Instant) (actor : String) :
    Triple (· = s) (Store.fresh >>= fun id =>
        post now (Rebill.duplicate id u bt.id flip actor) { invoice := some d } >>= fun _ => pure ())
      (fun _ => Copying s₀ (K.erase d)) (fun _ => False) := by
  have hs₀ := hs.fitted.sound
  refine Triple.fresh_bind ?_
  obtain ⟨i₀, hi₀, hi₀d, hi₀b, hi₀c, hi₀y⟩ := hs.copies d hd
  obtain ⟨b, hb, hbp, hbe⟩ := h.outlined.billRun_mem hs.target
  have hbid : b.id = bt.id := congrArg Prod.fst hbp
  obtain ⟨i, hi, hil⟩ := h.outlined.invoice_mem hi₀
  have hiid : i.id = d := (Invoice.lineage_eq hil).1.trans hi₀d
  have hshaped := post_shaped now
    (Rebill.duplicate (Uuid.ofSerial s.issued) u bt.id flip actor) { invoice := some d }
    (h.fitted.issue _ (Nat.le_succ _)) (h.filled.congr rfl rfl rfl)
    h.fitted.sound.fresh_transaction (by simp [Issued, Rebill.duplicate, Uuid.ofSerial])
    (fun b' hb' e => by
      have hp := h.outlined.place hs₀ hs.target hb' e
      simp only [BillRun.place, Prod.mk.injEq] at hp
      exact ⟨hp.2.1.trans hu.1.symm, hp.2.2.1.trans hu.2.1.symm, hp.2.2.2.trans hu.2.2.1.symm⟩)
    (fun I eI i' hi' e' => by
      obtain rfl : d = I := Option.some.inj eI
      obtain ⟨-, hb', hc', hy', -⟩ := Invoice.lineage_eq
        (h.outlined.lineage hs₀ hi₀ hi' (e'.trans hi₀d.symm))
      exact ⟨hb'.trans hi₀b, hc'.trans (hi₀c.trans hu.2.2.2.1.symm),
        hy'.trans (hi₀y.trans hu.2.2.2.2.symm)⟩)
    (fun hr => absurd hr (by simp [Transaction.raised, Rebill.duplicate]))
  have hret := post_returns (s := { s with issued := s.issued + 1 }) now
    (Rebill.duplicate (Uuid.ofSerial s.issued) u bt.id flip actor) { invoice := some d }
    (by show s.billRun? bt.id = some b; rw [← hbid]; exact h.fitted.sound.billRun?_of_mem hb)
    (Status.allowed_of_editable (hbe.trans hs.editable))
    (fun I eI => by
      obtain rfl : d = I := Option.some.inj eI
      exact List.find?_isSome.2 ⟨i, hi, by simp [hiid]⟩) rfl
  have hout : Keeps (Outlined s₀) _ := post_keeps_outlined now
    (Rebill.duplicate (Uuid.ofSerial s.issued) u bt.id flip actor) d [.initialised, .generated]
  refine Triple.bind ((hshaped.conj (hret.conj (hout 0))).mono
    (fun _ e => ⟨e, e, by subst e; exact h.outlined, Nat.zero_le _⟩) (fun _ _ h' => h')
    fun _ h' => h'.2.1.elim) fun stored => Triple.pure fun s' h' => ?_
  obtain ⟨⟨hfit, hfill, -, htr, hland⟩, -, hout', -⟩ := h'
  have hst : stored ∈ s'.transactions := htr ▸ List.mem_append_right _ (List.mem_singleton_self _)
  obtain ⟨l, hl, el⟩ := List.mem_map.1 (hfit.sound.transaction_key hst)
  simp only [Prod.mk.injEq] at el
  exact ⟨hout', hfit, hfill.fill ⟨l, hl, el.2.1.trans (hland d rfl)⟩⟩

theorem Copying.line (h : Copying s₀ K s) {u : Transaction} (hu : u.Copyable rebilled bt)
    (now : Instant) (actor : String) :
    Triple (· = s) ([(c, true), (r, false)].forM fun dest => Store.fresh >>= fun id =>
        post now (Rebill.duplicate id u bt.id dest.2 actor) { invoice := some dest.1 } >>=
          fun _ => pure ())
      (fun _ => Copying s₀ ((K.erase c).erase r)) (fun _ => False) :=
  Triple.bind (Copying.onto hs h hu (d := c) (by simp) true now actor) fun _ => Triple.of_eq fun _ h' =>
    Triple.bind (Copying.onto hs h' hu (d := r) (by simp) false now actor) fun _ =>
      Triple.pure fun _ h'' => h''

theorem Copying.lines (h : Copying s₀ [] s) {us : List Transaction}
    (hus : ∀ u ∈ us, u.Copyable rebilled bt) (now : Instant) (actor : String) :
    Triple (· = s) (us.forM fun u => [(c, true), (r, false)].forM fun dest =>
        Store.fresh >>= fun id =>
          post now (Rebill.duplicate id u bt.id dest.2 actor) { invoice := some dest.1 } >>=
            fun _ => pure ())
      (fun _ => Copying s₀ []) (fun _ => False) := by
  refine (Triple.forM (fun rest s => Copying s₀ [] s ∧ ∀ u ∈ rest, u.Copyable rebilled bt)
    fun u _ => Triple.of_eq fun _ h' => ?_).mono (fun _ e => by rw [e]; exact ⟨h, hus⟩)
    (fun _ _ h' => h'.1) fun _ h' => h'
  exact (Copying.line hs h'.1 (h'.2 u List.mem_cons_self) now actor).mono (fun _ e => e)
    (fun _ _ h'' => ⟨h'', fun v hv => h'.2 v (List.mem_cons_of_mem _ hv)⟩) fun _ h'' => h''

/-- The copying of a rebilled invoice returns, and leaves the ledger in its shape: the first
line of the invoice's first licence gives both copies a licence, and every posting keeps the
rest. -/
theorem copyLines_fills (now : Instant) (actor : String) :
    Triple (· = s₀) (Rebill.copyLines now rebilled bt.id c r actor) (fun _ => Coherent)
      (fun _ => False) := by
  unfold Rebill.copyLines
  refine Triple.atomically fun s e => ?_
  subst s
  refine (?_ : Triple (· = s₀) _ (fun _ => Copying s₀ []) _).mono (fun _ h => h)
    (fun _ _ h => ⟨h.fitted, h.filled⟩) fun _ h => h
  refine Triple.get_bind ?_
  obtain ⟨l, hl, hlr⟩ := hs.filled.invoices rebilled hs.copied hs.apart
  cases hlics : s₀.licencesOf rebilled.id with
  | nil => exact absurd (hlics ▸ mem_licencesOf.2 ⟨hl, hlr⟩) List.not_mem_nil
  | cons lic₁ lics =>
    have hlic : ∀ lic ∈ lic₁ :: lics, lic ∈ s₀.licences ∧ lic.invoiceId = rebilled.id :=
      fun lic h => mem_licencesOf.1 (hlics ▸ h)
    refine Triple.bind (Q := fun _ => Copying s₀ []) ?_ fun _ => ?_
    · -- the first licence: its first line gives both copies a licence
      have hlic₁ := hlic lic₁ List.mem_cons_self
      refine Triple.get_bind ?_
      obtain ⟨u, hu, hul, -⟩ := hs.filled.licences lic₁ hlic₁.1
      cases hus : s₀.transactionsOfLicence lic₁.id with
      | nil => exact absurd (hus ▸ mem_transactionsOfLicence.2 ⟨hu, hul⟩) List.not_mem_nil
      | cons u₁ us =>
        have hline : ∀ v ∈ u₁ :: us, v.Copyable rebilled bt := fun v hv => by
          have hv' := mem_transactionsOfLicence.1 (hus ▸ hv)
          exact Copying.copyable hs (Copying.start hs) hlic₁.1 hlic₁.2 hv'.1 hv'.2
        have hK : ([r, c].erase c).erase r = [] := by by_cases e : r = c <;> simp [e]
        refine Triple.bind (Q := fun _ => Copying s₀ []) ((Copying.line hs (Copying.start hs)
          (hline u₁ List.mem_cons_self) now actor).mono (fun _ h => h) (fun _ _ h => hK ▸ h)
          fun _ h => h) fun _ => Triple.of_eq fun _ h => ?_
        exact Copying.lines hs h (fun v hv => hline v (List.mem_cons_of_mem _ hv)) now actor
    · -- every other licence
      refine (Triple.forM (fun rest s => Copying s₀ [] s ∧
          ∀ lic ∈ rest, lic ∈ s₀.licences ∧ lic.invoiceId = rebilled.id)
        fun lic _ => Triple.of_eq fun s h => ?_).mono
        (fun _ h => ⟨h, fun lic hl => hlic lic (List.mem_cons_of_mem _ hl)⟩) (fun _ _ h => h.1)
        fun _ h => h
      have hmem := h.2 lic List.mem_cons_self
      refine Triple.get_bind ?_
      refine (Copying.lines hs h.1 (fun v hv => ?_) now actor).mono (fun _ h => h)
        (fun _ _ h' => ⟨h', fun l hl => h.2 l (List.mem_cons_of_mem _ hl)⟩) fun _ h => h
      have hv' := mem_transactionsOfLicence.1 hv
      exact Copying.copyable hs h.1 hmem.1 hmem.2 hv'.1 hv'.2

end Copy

end Store

end ChargeLedger
