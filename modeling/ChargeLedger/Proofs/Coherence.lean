import ChargeLedger.Proofs.Copying

/-!
# Every ledger keeps its shape

`Store.Coherent` is the shape of a ledger between requests: every line fits the rows it names,
natural keys are unique, no licence lacks a line and no invoice a licence. Every request, with the
work it leaves, keeps it, so every reachable ledger has it (`Reachable.wellFormed`).

Most operations only write in place: statuses, tallies, flags, references and counters change and
identifiers are drawn. `Store.InPlace I` says that `I` survives such writes, and `Store.Rewrites I`
that it survives those among them that leave numbers and references alone; each of these
operations keeps every such `I`. The others add or take away rows, and are taken one by one:
postings through `post_shaped`, a rebill's copies through `copyLines_fills`, and deletions, which
take an invoice with its last licence.
-/

set_option autoImplicit false

namespace ChargeLedger

open Op Store

def BillRun.numbers (b : BillRun) : Option Int64 × Option String :=
  (b.billRunNumber, b.fileReference)

namespace Store

variable {s : Store} {I J : Store → Prop}

/-- An invariant that writes in place keep: a bill run changed keeping its place, an invoice
changed keeping what it is, counters moved on, identifiers drawn. -/
structure InPlace (I : Store → Prop) : Prop where
  mapBillRun : ∀ s X (f : BillRun → BillRun), (∀ b, (f b).place = b.place) → I s →
    I (s.mapBillRun X f)
  mapInvoice : ∀ s K (g : Invoice → Invoice), (∀ i, (g i).lineage = i.lineage) → I s →
    I (s.mapInvoice K g)
  counters : ∀ s (cs : List Counter), I s → I { s with counters := cs }
  issue : ∀ s m, I s → s.issued ≤ m → I { s with issued := m }

/-- An invariant that rewrites keep: a bill run changed keeping its place and numbers, an invoice
changed keeping what it is and its reference, identifiers drawn. -/
structure Rewrites (I : Store → Prop) : Prop where
  mapBillRun : ∀ s X (f : BillRun → BillRun),
    (∀ b, (f b).place = b.place ∧ (f b).numbers = b.numbers) → I s → I (s.mapBillRun X f)
  mapInvoice : ∀ s K (g : Invoice → Invoice),
    (∀ i, (g i).lineage = i.lineage ∧ (g i).transactionReference = i.transactionReference) →
      I s → I (s.mapInvoice K g)
  issue : ∀ s m, I s → s.issued ≤ m → I { s with issued := m }

theorem InPlace.rewrites (hI : InPlace I) : Rewrites I where
  mapBillRun s X f hf := hI.mapBillRun s X f fun b => (hf b).1
  mapInvoice s K g hg := hI.mapInvoice s K g fun i => (hg i).1
  issue := hI.issue

theorem InPlace.and (hI : InPlace I) (hJ : InPlace J) : InPlace fun s => I s ∧ J s where
  mapBillRun s X f hf h := ⟨hI.mapBillRun s X f hf h.1, hJ.mapBillRun s X f hf h.2⟩
  mapInvoice s K g hg h := ⟨hI.mapInvoice s K g hg h.1, hJ.mapInvoice s K g hg h.2⟩
  counters s cs h := ⟨hI.counters s cs h.1, hJ.counters s cs h.2⟩
  issue s m h hm := ⟨hI.issue s m h.1 hm, hJ.issue s m h.2 hm⟩

theorem InPlace.lines (T : List Transaction) : InPlace fun s => s.transactions = T :=
  ⟨fun _ _ _ _ h => h, fun _ _ _ _ h => h, fun _ _ h => h, fun _ _ h _ => h⟩

theorem InPlace.licence (l : Licence) : InPlace fun s => l ∈ s.licences :=
  ⟨fun _ _ _ _ h => h, fun _ _ _ _ h => h, fun _ _ h => h, fun _ _ h _ => h⟩

theorem InPlace.guarded (hI : InPlace I) (h : I s) {X : Uuid} {allowed : List Status}
    {f : BillRun → BillRun} (hf : ∀ b, (f b).place = b.place) : I (s.guarded X allowed f).2 := by
  cases hg : (s.guarded X allowed f).1
  · rwa [guarded_false hg]
  · rw [(guarded_true hg).1]
    exact hI.mapBillRun s X f hf h

/-! ## Operations that write in place -/

section Rewrites

variable {I : Store → Prop} (hI : Rewrites I)
include hI

theorem Rewrites.guarded (h : I s) {X : Uuid} {allowed : List Status} {f : BillRun → BillRun}
    (hf : ∀ b, (f b).place = b.place ∧ (f b).numbers = b.numbers) :
    I (s.guarded X allowed f).2 := by
  cases hg : (s.guarded X allowed f).1
  · rwa [guarded_false hg]
  · rw [(guarded_true hg).1]
    exact hI.mapBillRun s X f hf h

theorem Rewrites.keeps_guarded {X : Uuid} {allowed : List Status} {f : BillRun → BillRun}
    (hf : ∀ b, (f b).place = b.place ∧ (f b).numbers = b.numbers) :
    Keeps I (modifyGet fun s => s.guarded X allowed f : Op Bool) :=
  .modifyGet fun _ h => ⟨hI.guarded h hf, Nat.le_of_eq guarded_issued.symm⟩

theorem Rewrites.keeps_mapInvoice {K : Uuid} {g : Invoice → Invoice}
    (hg : ∀ i, (g i).lineage = i.lineage ∧ (g i).transactionReference = i.transactionReference) :
    Keeps I (modify fun s => s.mapInvoice K g : Op Unit) :=
  .modify fun s h => ⟨hI.mapInvoice s K g hg h, Nat.le_refl _⟩

theorem Rewrites.setStatus (X : Uuid) (allowed : List Status) (target : Status) (now : Instant) :
    Keeps I (setStatus X allowed target now) :=
  hI.keeps_guarded fun _ => ⟨rfl, rfl⟩

theorem Rewrites.addBillRunTally (X : Uuid) (δ : Tally) (allowed : List Status) (now : Instant) :
    Keeps I (addBillRunTally X δ allowed now) :=
  hI.keeps_guarded fun _ => ⟨rfl, rfl⟩

theorem Rewrites.addInvoiceTally (K : Uuid) (δ : Tally) (now : Instant) :
    Keeps I (addInvoiceTally K δ now) :=
  .modifyGet fun s h => ⟨hI.mapInvoice s K _ (fun _ => ⟨rfl, rfl⟩) h, Nat.le_refl _⟩

theorem Rewrites.transition (now : Instant) (X : Uuid) (source target : Status) :
    Keeps I (BillRun.transition now X source target) :=
  .transition (hI.setStatus _ _ _ _)

theorem Rewrites.subtract (now : Instant) (X : Uuid) (reverse : Tally) :
    Keeps I (Deletion.subtract now X reverse) :=
  .bind (hI.addBillRunTally _ _ _ _) fun _ => .require _ _

theorem Rewrites.approve (now : Instant) (ref : BillRunRef) : Keeps I (BillRun.approve now ref) :=
  .approve fun _ _ => hI.setStatus _ _ _ _

theorem Rewrites.transmit (env : Env) (ref : BillRunRef) : Keeps I (BillRun.transmit env ref) :=
  .transmit fun _ _ => hI.setStatus _ _ _ _

theorem Rewrites.recover (now : Instant) (threshold batch : Int) :
    Keeps I (Recovery.recover now threshold batch) :=
  .recover fun _ => hI.setStatus _ _ _ _

theorem Rewrites.resummarise (env : Env) (slug : String) (X : Uuid) (left : Option Uuid) :
    Keeps I (Deletion.resummarise env slug X left) :=
  .resummarise (fun _ _ => hI.keeps_mapInvoice fun _ => ⟨rfl, rfl⟩)
    fun _ => hI.keeps_guarded fun _ => ⟨rfl, rfl⟩

end Rewrites

section InPlace

variable {I : Store → Prop} (hI : InPlace I)
include hI

theorem InPlace.keeps_guarded {X : Uuid} {allowed : List Status} {f : BillRun → BillRun}
    (hf : ∀ b, (f b).place = b.place) :
    Keeps I (modifyGet fun s => s.guarded X allowed f : Op Bool) :=
  .modifyGet fun _ h => ⟨hI.guarded h hf, Nat.le_of_eq guarded_issued.symm⟩

theorem InPlace.keeps_mapInvoice {K : Uuid} {g : Invoice → Invoice}
    (hg : ∀ i, (g i).lineage = i.lineage) : Keeps I (modify fun s => s.mapInvoice K g : Op Unit) :=
  .modify fun s h => ⟨hI.mapInvoice s K g hg h, Nat.le_refl _⟩

theorem InPlace.send (now : Instant) (ref : BillRunRef) : Keeps I (BillRun.send now ref) :=
  .send (fun _ _ _ => next_keeps_of hI.counters _ _ _ _) (fun _ _ => hI.keeps_mapInvoice fun _ => rfl)
    (fun _ _ => hI.keeps_guarded fun _ => rfl) hI.issue

end InPlace

/-! ## The shape under every write -/

theorem Coherent.issue (h : s.Coherent) (m : Nat) (hm : s.issued ≤ m) :
    ({ s with issued := m } : Store).Coherent :=
  ⟨h.1.issue m hm, h.2.congr rfl rfl rfl⟩

theorem Coherent.inPlace : InPlace Coherent where
  mapBillRun _ _ _ hf h := ⟨h.1.mapBillRun hf, h.2.congr rfl rfl rfl⟩
  mapInvoice _ _ _ hg h := ⟨h.1.mapInvoice hg, h.2.mapInvoice fun i => (Invoice.lineage_eq (hg i)).1⟩
  counters _ cs h := ⟨h.1.counters cs, h.2.congr rfl rfl rfl⟩
  issue _ m h hm := h.issue m hm

theorem Coherent.mapLicence (h : s.Coherent) {L : Uuid} {k : Licence → Licence}
    (hk : ∀ l, (k l).lineage = l.lineage) : (s.mapLicence L k).Coherent := by
  refine ⟨h.1.mapLicence hk, h.2.mapLicence fun l => ?_⟩
  have e := hk l
  simp only [Licence.lineage, Prod.mk.injEq] at e
  exact ⟨e.1, e.2.1⟩

theorem Fitted.deleteBillRun (h : s.Fitted) (X : Uuid) :
    ({ s with
      transactions := s.transactions.filter (·.billRunId != X)
      licences := s.licences.filter (·.billRunId != X)
      invoices := s.invoices.filter (·.billRunId != X)
      billRuns := s.billRuns.filter (·.id != X) } : Store).Fitted :=
  h.of_sublist (h.sound.deleteBillRun X) List.filter_sublist List.filter_sublist
    List.filter_sublist List.filter_sublist

theorem Fitted.deleteInvoice (h : s.Fitted) (K : Uuid) :
    ({ s with
      transactions := s.transactions.filter (·.invoiceId != K)
      licences := s.licences.filter (·.invoiceId != K)
      invoices := s.invoices.filter (·.id != K) } : Store).Fitted :=
  h.of_sublist (h.sound.deleteInvoice K) (List.Sublist.refl _) List.filter_sublist
    List.filter_sublist List.filter_sublist

theorem Fitted.deleteLicence (h : s.Fitted) (L : Uuid) :
    ({ s with
      transactions := s.transactions.filter (·.licenceId != L)
      licences := s.licences.filter (·.id != L) } : Store).Fitted :=
  h.of_sublist (h.sound.deleteLicence L) (List.Sublist.refl _) (List.Sublist.refl _)
    List.filter_sublist List.filter_sublist

theorem Coherent.deleteBillRun (h : s.Coherent) (X : Uuid) :
    ({ s with
      transactions := s.transactions.filter (·.billRunId != X)
      licences := s.licences.filter (·.billRunId != X)
      invoices := s.invoices.filter (·.billRunId != X)
      billRuns := s.billRuns.filter (·.id != X) } : Store).Coherent :=
  ⟨h.1.deleteBillRun X, h.2.deleteBillRun h.1.sound X⟩

theorem Coherent.deleteInvoice (h : s.Coherent) (K : Uuid) :
    ({ s with
      transactions := s.transactions.filter (·.invoiceId != K)
      licences := s.licences.filter (·.invoiceId != K)
      invoices := s.invoices.filter (·.id != K) } : Store).Coherent :=
  ⟨h.1.deleteInvoice K, h.2.deleteInvoice h.1.sound K⟩

theorem Coherent.deleteRaised (h : s.Coherent) {p : Transaction → Bool}
    (hp : ∀ t ∈ s.transactions, t.raised = false → p t = true) :
    ({ s with transactions := s.transactions.filter p } : Store).Coherent :=
  ⟨h.1.of_sublist (h.1.sound.deleteTransactions p) (List.Sublist.refl _) (List.Sublist.refl _)
    (List.Sublist.refl _) List.filter_sublist, h.2.deleteRaised hp⟩

theorem Sound.not_mem_raised (hs : s.Sound) {X : Uuid} {t : Transaction} (ht : t ∈ s.transactions)
    (hr : t.raised = false) : t.id ∉ (s.raisedAdjustments X).map (·.id) := by
  intro hmem
  obtain ⟨u, hu, e⟩ := List.mem_map.1 hmem
  obtain ⟨hu', -, hm, hn⟩ := mem_raisedAdjustments.1 hu
  have hnodup : (s.transactions.map (·.id)).Nodup := by
    simpa [transactionKeys, Function.comp_def] using hs.transactions_nodup
  rw [← List.inj_on_of_nodup_map hnodup hu' ht e] at hr
  simp [Transaction.raised, hm, hn] at hr

theorem exists_of_licenceCount_pos {K : Uuid} (h : s.licenceCount K > 0) :
    ∃ l ∈ s.licences, l.invoiceId = K := by
  obtain ⟨l, hl⟩ := List.exists_mem_of_length_pos h
  simp only [List.mem_filter, beq_iff_eq] at hl
  exact ⟨l, hl⟩

theorem coherent_seeded (t : Instant) : (Store.seeded t).Coherent := by
  have hi : (Store.seeded t).invoices = [] := rfl
  have hl : (Store.seeded t).licences = [] := rfl
  have ht : (Store.seeded t).transactions = [] := rfl
  refine ⟨⟨(Consistent.seeded t).sound, ?_, ?_, ?_, ?_⟩, ?_, ?_⟩ <;> simp [hi, hl, ht]

end Store

/-! ## Operations that add or take away rows -/

section Rows

variable {s₀ : Store}

theorem create_coherent (now : Instant) (regimeId : Uuid) (slug actor region ruleset : String) :
    Keeps Coherent (BillRun.create now regimeId slug actor region ruleset) := by
  unfold BillRun.create
  extract_lets region ruleset issues
  clear_value region ruleset issues
  refine .bind (.require _ _) fun _ => ?_
  split
  · refine .bind .get fun _ => .bind (.readRow _ _) fun _ => .bind (.require _ _) fun _ =>
      .fresh_bind fun n s h hn => .modify_bind (.pure fun _ e => e ▸ ⟨?_, Nat.le_succ_of_le hn⟩)
    have h₁ := h.issue _ (Nat.le_succ s.issued)
    refine ⟨h₁.1.insertBillRun _ (fun hmem => (h.1.sound.billRuns_issued _ hmem).ne_ofSerial rfl) ?_,
      h₁.2.insertBillRun _⟩
    show Uuid.serialBase + s.issued < Uuid.serialBase + (s.issued + 1)
    omega
  · exact .throw _

theorem delete_coherent (now : Instant) (ref : BillRunRef) :
    Keeps Coherent (BillRun.delete now ref) := by
  refine .bind (billRunOf_keeps ref) fun b => .bind (.require _ _) fun _ =>
    .atomic ?_ Coherent.inPlace.issue
  have hdel : Keeps Coherent (deleteBillRun b.id) :=
    .modify fun _ h => ⟨h.deleteBillRun _, Nat.le_refl _⟩
  refine .bind (Coherent.inPlace.rewrites.setStatus _ _ _ _) fun ok => ?_
  cases ok
  · exact .bind (conflict_keeps _ _) fun _ => hdel
  · exact hdel

theorem Op.Keeps.billRunOf_mem_bind {β : Type} {I : Store → Prop} {ref : BillRunRef}
    {k : BillRun → Op β}
    (h : ∀ b, b.id = ref.billRunId → b.regimeId = ref.regimeId → ∀ n,
      Triple (fun s => (I s ∧ b ∈ s.billRuns) ∧ n ≤ s.issued) (k b)
        (fun _ s => I s ∧ n ≤ s.issued) (fun s => I s ∧ n ≤ s.issued)) :
    Keeps I (billRunOf ref >>= k) := fun n =>
  Triple.bind (billRunOf_found ref) fun b => Triple.of_eq fun _ hs =>
    (h b (id_of_billRunIn? hs.2).1 (id_of_billRunIn? hs.2).2 n).mono
      (fun _ e => e ▸ ⟨⟨hs.1.1, List.mem_of_find?_eq_some hs.2⟩, hs.1.2⟩) (fun _ _ h => h)
      fun _ h => h

theorem record_coherent (env : Env) (ref : BillRunRef) (actor : String) (payload : Payload) :
    Keeps Coherent (record env ref actor payload) := by
  unfold record
  extract_lets p issues jp
  clear_value p issues
  have hjp : ∀ c, Keeps Coherent (jp c) := by
    intro c
    refine Keeps.billRunOf_mem_bind fun b _ hR n => Triple.of_eq fun s₀ h₀ => ?_
    obtain ⟨⟨hc, hb⟩, hn⟩ := h₀
    have hstay : ∀ s, s = s₀ → Coherent s ∧ n ≤ s.issued := fun _ e => e ▸ ⟨hc, hn⟩
    refine Triple.require_bind (fun _ => hstay) fun _ => Triple.require_bind (fun _ => hstay)
      fun _ => Triple.require_bind (fun _ => hstay) fun _ => Triple.bind
        ((ofExcept_keeps (I := (· = s₀)) _).triple.mono (fun _ h => h) (fun _ _ h => h) hstay)
        fun priced => Triple.of_eq fun s' e => ?_
    subst s'
    refine Triple.fresh_bind (Triple.atomically fun s₁ e => ?_)
    subst s₁
    have hbill : ∀ b' ∈ s₀.billRuns, b'.id = b.id →
        b'.regimeId = ref.regimeId ∧ b'.region = b.region ∧ b'.ruleset = b.ruleset :=
      fun b' hb' e => by
        have hrow : b' = b := Option.some.inj ((hc.1.sound.billRun?_of_mem hb').symm.trans
          (e ▸ hc.1.sound.billRun?_of_mem hb))
        rw [hrow]
        exact ⟨hR, rfl, rfl⟩
    refine (post_shaped env.now
      (Transaction.ofPayload (Uuid.ofSerial s₀.issued) ref.regimeId actor b p c priced) {}
      (hc.1.issue _ (Nat.le_succ _)) (hc.2.congr rfl rfl rfl) hc.1.sound.fresh_transaction
      (by show Uuid.serialBase + s₀.issued < Uuid.serialBase + (s₀.issued + 1); omega)
      hbill (fun _ e => absurd e.symm (Option.some_ne_none _)) (fun h => (Bool.false_ne_true h).elim)).mono
      (fun _ h => h) (fun _ _ h => ⟨⟨h.1, h.2.1⟩, Nat.le_trans (Nat.le_succ_of_le hn) h.2.2.1⟩)
      fun _ h => ⟨hc.issue _ (Nat.le_trans (Nat.le_succ _) h), Nat.le_trans (Nat.le_succ_of_le hn) h⟩
  refine .bind (.require _ _) fun _ => ?_
  split
  · exact .bind (.pure _) hjp
  · exact .bind (.throw _) hjp

/-! ## Generation -/

theorem removeAdjustments_coherent (now : Instant) (X : Uuid) :
    Keeps Coherent (BillRun.removeAdjustments now X) := by
  unfold BillRun.removeAdjustments
  refine fun n => Triple.of_eq fun s₀ h₀ => Triple.get_bind ?_
  dsimp only
  split
  · -- until the stale lines go, the lines stay as they were
    have hJ := Coherent.inPlace.and (InPlace.lines s₀.transactions)
    have hlic : ∀ L δ, Keeps (fun s => s.Coherent ∧ s.transactions = s₀.transactions)
        (addLicenceTally L δ now) := fun _ _ =>
      .modifyGet fun _ h => ⟨⟨h.1.mapLicence fun _ => rfl, h.2⟩, Nat.le_refl _⟩
    refine Triple.bind ((hJ.rewrites.addBillRunTally _ _ _ _ n).mono
      (fun _ e => by rw [e]; exact ⟨⟨h₀.1, rfl⟩, h₀.2⟩) (fun _ _ h => h) fun _ h => ⟨h.1.1, h.2⟩) fun _ => Triple.bind
        (((Keeps.forM fun _ _ => .bind (hJ.rewrites.addInvoiceTally _ _ _) fun _ =>
          .bind (hlic _ _) fun _ => .pure ()) n).mono (fun _ h => h) (fun _ _ h => h)
          fun _ h => ⟨h.1.1, h.2⟩) fun _ => Triple.modify fun s h => ?_
    obtain ⟨⟨hc, ht⟩, hn⟩ := h
    refine ⟨hc.deleteRaised fun t hts hr => ?_, hn⟩
    rw [ht] at hts
    simpa using h₀.1.1.sound.not_mem_raised hts hr
  · exact Triple.pure fun _ e => by rw [e]; exact h₀

theorem post_adjustment_coherent (now : Instant) {template : Transaction} {K : Uuid}
    (credit : Bool) (value : Int64) (hc : s₀.Coherent) (ht : template ∈ s₀.transactions)
    (hK : template.invoiceId = K) :
    Triple (· = { s₀ with issued := s₀.issued + 1 })
      (post now (BillRun.adjustment (Uuid.ofSerial s₀.issued) template credit value)
        { invoice := some K, allowed := [.generating] })
      (fun _ s => s.Coherent ∧ template ∈ s.transactions ∧ s₀.issued ≤ s.issued)
      (fun s => s₀.issued ≤ s.issued) := by
  obtain ⟨fl, fi, fb⟩ := hc.1.fits template ht
  subst hK
  obtain ⟨l, hl, hlk⟩ := List.mem_map.1 (hc.1.sound.transaction_key ht)
  simp only [Prod.mk.injEq] at hlk
  have hinv : ∀ K, some template.invoiceId = some K → ∀ i ∈ s₀.invoices, i.id = K →
      i.billRunId = template.billRunId ∧ i.customerReference = template.customerReference ∧
        i.financialYear = template.chargeFinancialYear := by
    intro K e i hi hid
    rw [← Option.some.inj e] at hid
    refine ⟨hc.1.sound.invoice_billRun
      (List.mem_map_of_mem (f := fun i : Invoice => (i.id, i.billRunId)) hi)
      (hid ▸ hc.1.sound.transaction_invoice_key ht), fi i hi hid⟩
  refine (post_shaped now (BillRun.adjustment (Uuid.ofSerial s₀.issued) template credit value)
    { invoice := some template.invoiceId, allowed := [.generating] }
    (hc.1.issue _ (Nat.le_succ _)) (hc.2.congr rfl rfl rfl)
    hc.1.sound.fresh_transaction
    (by show Uuid.serialBase + s₀.issued < Uuid.serialBase + (s₀.issued + 1); omega)
    fb hinv fun _ => ⟨_, rfl, l, hl, hlk.2.1, fl l hl hlk.1⟩).mono (fun _ h => h)
    (fun _ _ h => ⟨⟨h.1, h.2.1⟩, ?_, Nat.le_trans (Nat.le_succ _) h.2.2.1⟩)
    fun _ h => Nat.le_trans (Nat.le_succ _) h
  rw [h.2.2.2.1]
  exact List.mem_append_left _ ht

theorem applyMinimumCharge_coherent (now : Instant) (inv : Invoice) (floor : Int64) :
    Preserves Coherent (BillRun.applyMinimumCharge now inv floor) := by
  unfold BillRun.applyMinimumCharge
  dsimp only
  split
  · exact .of_keeps (.pure _)
  refine fun n => Triple.of_eq fun s₀ h₀ => Triple.get_bind ?_
  split
  · exact Triple.throw fun _ e => by rw [e]; exact h₀.2
  rename_i template htemplate
  obtain ⟨ht, hK⟩ := mem_transactionsOfInvoice.1 (List.mem_of_find?_eq_some htemplate)
  refine Triple.bind ((Triple.forM (fun _ s => (s.Coherent ∧ template ∈ s.transactions) ∧
      n ≤ s.issued) fun side _ => Triple.of_eq fun s h => Triple.fresh_bind ?_).mono
    (fun _ e => by rw [e]; exact ⟨⟨h₀.1, ht⟩, h₀.2⟩) (fun _ _ h => h) fun _ h => h)
    fun _ => Triple.pure fun _ h => ⟨h.1.1, h.2⟩
  exact Triple.bind ((post_adjustment_coherent now side.1 _ h.1.1 h.1.2 hK).mono (fun _ h => h)
    (fun _ _ h' => ⟨⟨h'.1, h'.2.1⟩, Nat.le_trans h.2 h'.2.2⟩) fun _ h' => Nat.le_trans h.2 h')
    fun _ => Triple.pure fun _ h => h

theorem applyMinimumCharges_coherent (now : Instant) (floor : Int64) (invs : List Invoice) :
    Preserves Coherent (BillRun.applyMinimumCharges now floor invs) := by
  induction invs with
  | nil => exact .of_keeps (.pure _)
  | cons inv rest ih =>
    rw [BillRun.applyMinimumCharges]
    exact .bind (applyMinimumCharge_coherent _ _ _) fun _ => .bind ih fun _ => .of_keeps (.pure _)

theorem summarise_coherent (now : Instant) (b : BillRun) (th : Thresholds) :
    Preserves Coherent (BillRun.summarise now b th) := by
  unfold BillRun.summarise
  extract_lets jp
  have hjp : ∀ charged, Preserves Coherent (jp charged) := fun _ => .of_keeps <|
    .bind .get fun _ => .bind (.forM fun _ _ => Coherent.inPlace.keeps_mapInvoice fun _ => rfl)
      fun _ => .bind (Coherent.inPlace.keeps_guarded fun _ => rfl) fun _ => .require _ _
  refine .bind (.of_keeps (removeAdjustments_coherent _ _)) fun _ => ?_
  split
  · exact .bind (.of_keeps .get) fun _ => .bind (applyMinimumCharges_coherent _ _ _) hjp
  · exact .bind (.of_keeps (.pure _)) hjp

theorem generate_coherent (env : Env) (ref : BillRunRef) :
    Keeps Coherent (BillRun.generate env ref) :=
  .generate (fun _ _ => Coherent.inPlace.rewrites.setStatus _ _ _ _)
    (fun _ _ => summarise_coherent _ _ _) Coherent.inPlace.issue

/-! ## Deletions -/

theorem removeLicence_coherent (now : Instant) (X L : Uuid) :
    Keeps Coherent (Deletion.removeLicence now X L) := by
  unfold Deletion.removeLicence
  refine fun n => Triple.of_eq fun s₀ h₀ => Triple.get_bind ?_
  split
  case h_2 => exact Triple.throw fun _ e => by rw [e]; exact h₀
  rename_i lic hlic
  -- the tallies move in place, so the licence found is still there when it goes
  have hJ := Coherent.inPlace.and (InPlace.licence lic)
  refine Triple.bind ((hJ.rewrites.subtract now X _ n).mono
    (fun _ e => by rw [e]; exact ⟨⟨h₀.1, (mem_of_licenceOn? hlic).1⟩, h₀.2⟩) (fun _ _ h => h)
    fun _ h => ⟨h.1.1, h.2⟩) fun _ => Triple.bind ((hJ.rewrites.addInvoiceTally _ _ _ n).mono
      (fun _ h => h) (fun _ _ h => h) fun _ h => ⟨h.1.1, h.2⟩)
    fun _ => Triple.of_eq fun s₁ h₁ => Triple.modify_bind (Triple.get_bind ?_)
  obtain ⟨⟨hc, hl⟩, hn⟩ := h₁
  have hfit := hc.1.deleteLicence lic.id
  have hfill := hc.2.deleteLicence hc.1.sound hl
  split
  · rename_i hcount
    exact Triple.pure fun _ e => by
      rw [e]
      exact ⟨⟨hfit, by simpa using hfill.fill (exists_of_licenceCount_pos hcount)⟩, hn⟩
  · exact Triple.modify_bind (Triple.pure fun _ e => by
      rw [e]
      exact ⟨⟨hfit.deleteInvoice _, by simpa using hfill.deleteInvoice hfit.sound lic.invoiceId⟩, hn⟩)

theorem removeInvoice_coherent (now : Instant) (X K : Uuid) :
    Keeps Coherent (Deletion.removeInvoice now X K) :=
  .removeInvoice (fun _ => Coherent.inPlace.rewrites.addBillRunTally _ _ _ _)
    fun _ => .modify fun _ h => ⟨h.deleteInvoice _, Nat.le_refl _⟩

theorem cascade_coherent (env : Env) (ref : BillRunRef) (prior : Status)
    {remove : Op (Option Uuid)} (hrem : Keeps Coherent remove) :
    Keeps Coherent (Deletion.cascade env ref prior remove) :=
  .cascade (fun _ _ => Coherent.inPlace.rewrites.setStatus _ _ _ _) (.of_keeps hrem)
    (fun _ => .of_keeps (Coherent.inPlace.rewrites.resummarise _ _ _ _)) Coherent.inPlace.issue

theorem send_leaves_transmit (now : Instant) (ref : BillRunRef) :
    Triple (fun _ => True) (BillRun.send now ref) (fun task _ => task = .transmit ref)
      (fun _ => True) :=
  .bind (.always _) fun _ => .bind (.always _) fun _ => .bind (.always _) fun _ =>
    .pure fun _ _ => rfl

end Rows

/-! ## Requests -/

section Step

variable (env : Env) {s₀ : Store}

theorem rebill_copyStart (h₀ : s₀.Coherent) (now : Instant) (ref : BillRunRef) (invoice : Uuid)
    (actor : String) :
    Triple (· = s₀) (Rebill.rebill now ref invoice actor)
      (fun res s => ∃ rebilled target,
        res.2.2 = .copyInvoice rebilled target.id res.1.id res.2.1.id actor ∧
          CopyStart s rebilled target res.1.id res.2.1.id) Coherent := by
  refine (rebill_shaped now ref invoice actor h₀).mono (fun _ h => h) (fun res s₁ h => ?_)
    fun _ h => h
  obtain ⟨cancel, again, task⟩ := res
  obtain ⟨target, rebilled, hchk, hc₁, hc₂, htask, hb, hi, hfit, hfill⟩ := h
  simp only at hc₁ hc₂ htask hi hfill
  subst hc₁ hc₂ htask
  obtain ⟨htarget, hed, hinv, -, -, -, source, hsrc, -, hreg, hrgn, hrs⟩ := hchk
  have hmem := List.mem_of_find?_eq_some hinv
  have hiss := h₀.1.sound.invoices_issued _
    (List.mem_map_of_mem (f := fun i : Invoice => (i.id, i.billRunId)) hmem)
  refine ⟨rebilled, target, rfl, hfit, hfill, ?copied, ?apart, ?target, hed,
    ⟨source, ?source, id_of_billRun? hsrc, hreg, hrgn, hrs⟩, ?copies⟩
  case copied =>
    rw [hi]
    exact List.mem_append_left _ hmem
  case apart =>
    simp only [List.mem_cons, List.not_mem_nil, or_false, not_or]
    exact ⟨hiss.ne_ofSerial_of_le (Nat.le_succ _), hiss.ne_ofSerial⟩
  case target =>
    rw [hb]
    exact List.mem_of_find?_eq_some htarget
  case source =>
    rw [hb]
    exact List.mem_of_find?_eq_some hsrc
  case copies =>
    intro d hd
    rw [hi]
    simp only [List.mem_cons, List.not_mem_nil, or_false] at hd
    rcases hd with rfl | rfl
    · exact ⟨_, List.mem_append_right _ (List.mem_cons_of_mem _ List.mem_cons_self), rfl, rfl,
        rfl, rfl⟩
    · exact ⟨_, List.mem_append_right _ List.mem_cons_self, rfl, rfl, rfl, rfl⟩

theorem rebill_run_coherent (h₀ : s₀.Coherent) (slug : String) (X invoice : Uuid)
    (actor : String) :
    Triple (· = s₀) ((Request.rebill slug X invoice actor).run env)
      (Request.Finishes env Coherent) Coherent := by
  refine Triple.bind ((refIn_billRun slug X).mono (fun _ h => h) (fun _ _ h => h)
    fun _ e => by rw [e]; exact h₀) fun ref => Triple.of_eq fun _ hs => ?_
  rw [hs.1]
  refine Triple.bind (rebill_copyStart h₀ env.now ref invoice actor) fun res =>
    Triple.of_eq fun s₁ h => ?_
  obtain ⟨cancel, again, task⟩ := res
  obtain ⟨rebilled, target, htask, hstart⟩ := h
  simp only at htask hstart
  subst htask
  refine Triple.pure fun s e => ?_
  subst s
  exact Triple.bind ((copyLines_fills hstart env.now actor).mono (fun _ h => h)
    (fun _ _ h => h) fun _ h => h.elim) fun _ => Triple.pure fun _ h => h

theorem Store.Coherent.step (h₀ : s₀.Coherent) (r : Request) : (r.step env s₀).Coherent := by
  refine Request.step_of env r ?_
  have hstart : ∀ s, s = s₀ → s.Coherent := fun _ e => by rw [e]; exact h₀
  have hnone : ∀ {α : Type} (slug : String) (X : Uuid) {op : BillRunRef → Op α},
      (∀ ref, Keeps Coherent (op ref)) →
      Triple (· = s₀) (Request.refIn slug X >>= fun ref => op ref >>= fun _ => pure none)
        (Request.Finishes env Coherent) Coherent := fun slug X _ hop =>
    answered_none env slug X h₀ fun ref _ =>
      (hop ref).triple.mono hstart (fun _ _ h => h) fun _ h => h
  cases r <;> simp only [Request.run]
  case create slug actor region ruleset =>
    exact Triple.bind ((regimeNamed_keeps slug).triple.mono hstart (fun _ _ h => h) fun _ h => h)
      fun _ => Triple.bind (create_coherent _ _ _ _ _ _).triple fun _ => Triple.pure fun _ h => h
  case record slug X actor p => exact hnone slug X fun ref => record_coherent env ref actor p
  case generate slug X => exact hnone slug X fun ref => generate_coherent env ref
  case approve slug X => exact hnone slug X fun ref => Coherent.inPlace.rewrites.approve env.now ref
  case delete slug X => exact hnone slug X fun ref => delete_coherent env.now ref
  case send slug X =>
    refine answered_work env slug X h₀ fun ref _ =>
      ((Coherent.inPlace.send env.now ref).triple.conj (send_leaves_transmit env.now ref)).mono
        (fun _ e => ⟨hstart _ e, trivial⟩) (fun task s h => ?_) fun _ h => h.1
    rw [h.2]
    exact (Coherent.inPlace.rewrites.transmit env ref).triple.mono (fun _ e => by rw [e]; exact h.1)
      (fun _ _ h => h) fun _ h => h
  case deleteLicence slug X licence =>
    refine answered_work env slug X h₀ fun ref _ =>
      (deleteLicence_outcome ref licence h₀.1.sound).mono (fun _ h => h) (fun task s h => ?_)
        hstart
    obtain ⟨e, a, -, -, htask⟩ := h
    rw [e, htask]
    exact Triple.bind ((cascade_coherent env ref a (removeLicence_coherent _ _ _)).triple.mono
      hstart (fun _ _ h => h) fun _ h => h) fun _ => Triple.pure fun _ h => h
  case deleteInvoice slug X invoice =>
    refine answered_work env slug X h₀ fun ref _ =>
      (deleteInvoice_outcome ref invoice h₀.1.sound).mono (fun _ h => h) (fun task s h => ?_)
        hstart
    obtain ⟨e, a, -, -, htask⟩ := h
    rw [e, htask]
    exact Triple.bind ((cascade_coherent env ref a (removeInvoice_coherent _ _ _)).triple.mono
      hstart (fun _ _ h => h) fun _ h => h) fun _ => Triple.pure fun _ h => h
  case rebill slug X invoice actor => exact rebill_run_coherent env h₀ slug X invoice actor
  case recover threshold batch =>
    exact Triple.bind ((Coherent.inPlace.rewrites.recover _ _ _).triple.mono hstart (fun _ _ h => h)
      fun _ h => h) fun _ => Triple.pure fun _ h => h

end Step

theorem Reachable.coherent {ok : Env → Prop} {s : Store} (h : Reachable ok s) : s.Coherent := by
  induction h with
  | seeded t => exact coherent_seeded t
  | step env r _ _ ih => exact ih.step env r

/-! ## The shape in the words of the rows -/

namespace Store

/-- Every line hangs from its licence, invoice and bill run: its licence is on its invoice and
bill run and has the number of line attribute 1, its invoice is on its bill run for its customer
and year, its bill run is of its regime, region and ruleset. Every licence has a line and every
invoice a licence; invoices are unique by bill run, customer, year and kind, licences by invoice
and number, and client identifiers within a regime. -/
structure WellFormed (s : Store) : Prop where
  licenceOfLine : ∀ t ∈ s.transactions, ∃ l ∈ s.licences, l.id = t.licenceId ∧
    l.invoiceId = t.invoiceId ∧ l.billRunId = t.billRunId ∧ l.licenceNumber = t.lineAttr 1
  invoiceOfLine : ∀ t ∈ s.transactions, ∃ i ∈ s.invoices, i.id = t.invoiceId ∧
    i.billRunId = t.billRunId ∧ i.customerReference = t.customerReference ∧
    i.financialYear = t.chargeFinancialYear
  billRunOfLine : ∀ t ∈ s.transactions, ∃ b ∈ s.billRuns, b.id = t.billRunId ∧
    b.regimeId = t.regimeId ∧ b.region = t.region ∧ b.ruleset = t.ruleset
  linedLicences : ∀ l ∈ s.licences, ∃ t ∈ s.transactions, t.licenceId = l.id
  licensedInvoices : ∀ i ∈ s.invoices, ∃ l ∈ s.licences, l.invoiceId = i.id
  uniqueInvoices : (s.invoices.map Invoice.key).Nodup
  uniqueLicences : (s.licences.map Licence.key).Nodup
  uniqueClients : (s.transactions.filterMap Transaction.clientKey).Nodup

variable {s : Store}

theorem WellFormed.of_coherent (h : s.Coherent) : s.WellFormed where
  licenceOfLine t ht := by
    obtain ⟨l, hl, e⟩ := List.mem_map.1 (h.1.sound.transaction_key ht)
    simp only [Prod.mk.injEq] at e
    exact ⟨l, hl, e.1, e.2.1, e.2.2, (h.1.fits t ht).1 l hl e.1⟩
  invoiceOfLine t ht := by
    obtain ⟨i, hi, e⟩ := List.mem_map.1 (h.1.sound.transaction_invoice_key ht)
    simp only [Prod.mk.injEq] at e
    exact ⟨i, hi, e.1, e.2, (h.1.fits t ht).2.1 i hi e.1⟩
  billRunOfLine t ht := by
    obtain ⟨b, hb, e⟩ := List.mem_map.1
      (h.1.sound.invoice_parent _ (h.1.sound.transaction_invoice_key ht))
    exact ⟨b, hb, e, (h.1.fits t ht).2.2 b hb e⟩
  linedLicences l hl := (h.2.licences l hl).imp fun _ hu => ⟨hu.1, hu.2.1⟩
  licensedInvoices i hi := h.2.invoices i hi List.not_mem_nil
  uniqueInvoices := h.1.uniqueInvoices
  uniqueLicences := h.1.uniqueLicences
  uniqueClients := h.1.uniqueClients

end Store

/-- In every reachable ledger, whatever the surroundings, every line hangs from its licence,
invoice and bill run and carries what they say, no licence lacks a line nor invoice a licence,
and natural keys and client identifiers are unique. -/
theorem Reachable.wellFormed {ok : Env → Prop} {s : Store} (h : Reachable ok s) : s.WellFormed :=
  WellFormed.of_coherent h.coherent

theorem wellFormed_after_create :
    Reachable (fun _ => True)
      (Request.step { now := ⟨0⟩ } (.create "wrls" "system" "A" "sroc") (Store.seeded ⟨0⟩)) ∧
    (Request.step { now := ⟨0⟩ } (.create "wrls" "system" "A" "sroc")
      (Store.seeded ⟨0⟩)).WellFormed :=
  have h := @Reachable.step (fun _ => True) _ { now := ⟨0⟩ } (.create "wrls" "system" "A" "sroc")
    trivial (Reachable.seeded ⟨0⟩)
  ⟨h, Reachable.wellFormed h⟩

end ChargeLedger
