import ChargeLedger.Proofs.Pruning
import ChargeLedger.Proofs.SentExactly
import ChargeLedger.Proofs.Unexpected
import ChargeLedger.Proofs.StatusSteps

/-!
# What a bill run files, from request to request

`Store.Filed` says what a bill run files: from its generation on, the summary of its invoices;
once it is sent, exactly its billable invoices carry a transaction reference, each made from the
bill run's region, the sign of the invoice's net and a number. Every request, with the work it
leaves, keeps this of every bill run whatever the surroundings (`Store.Filing.step`), so it holds
of every reachable ledger (`Reachable.filing`).

A request changes no bill run but the one it is about, so only that one needs a look. Most
requests leave it as it was or in a status that files nothing. A send stamps its billable
invoices (`Store.sent_filed`), and the transmission after it only moves it on through sent
statuses. A removal from a generated bill run writes its summary again (`Store.Pruned.filedAt`).
A rebill adds two copies that carry nothing, and every line it copies onto the bill run leaves it
initialised.
-/

set_option autoImplicit false

namespace ChargeLedger

open Op Store

namespace Store

variable {s s' : Store} {X : Uuid} {b : BillRun}

/-! ## Writes that keep what a bill run files -/

theorem FiledAt.issue (h : s.FiledAt X) (n : Nat) : ({ s with issued := n } : Store).FiledAt X :=
  h.of_part rfl

theorem Filed.append_blank (h : s.Filed b) {c : Invoice} (hc : c.tally.net = 0)
    (hr : c.transactionReference = none) :
    ({ s with invoices := s.invoices ++ [c] } : Store).Filed b where
  summary hs := by rw [h.summary hs, summaryOf_append_blank s hc]
  referenced hs i hi := by
    obtain ⟨hi, hX⟩ := mem_invoicesOf.1 hi
    rcases List.mem_append.1 hi with hi | hi
    · exact h.referenced hs i (mem_invoicesOf.2 ⟨hi, hX⟩)
    · rw [List.mem_singleton.1 hi]
      simp [hr, Invoice.isBillable, billable, hc]
  letters hs i hi x hx := by
    obtain ⟨hi, hX⟩ := mem_invoicesOf.1 hi
    rcases List.mem_append.1 hi with hi | hi
    · exact h.letters hs i (mem_invoicesOf.2 ⟨hi, hX⟩) x hx
    · rw [List.mem_singleton.1 hi, hr] at hx
      cases hx

theorem FiledAt.append_blank (h : s.FiledAt X) {c : Invoice} (hc : c.tally.net = 0)
    (hr : c.transactionReference = none) :
    ({ s with invoices := s.invoices ++ [c] } : Store).FiledAt X :=
  fun b hb => (h b hb).append_blank hc hr

theorem FiledAt.guarded (h : s.FiledAt X) {Y : Uuid} {allowed : List Status}
    {f : BillRun → BillRun} (hf : ∀ b, (f b).id = b.id)
    (hnone : ∀ b, (f b).status.summarised = false) : (s.guarded Y allowed f).2.FiledAt X := by
  by_cases hY : Y = X
  · subst hY
    cases hg : (s.guarded Y allowed f).1
    · rwa [guarded_false hg]
    · obtain ⟨b, -, -, hb'⟩ := billRun?_taken hf hg
      intro b' hb''
      rw [hb', Option.some.injEq] at hb''
      subst hb''
      exact Filed.of_status (hnone b)
  · exact h.of_part (confined_guarded hf X (Ne.symm hY)).symm

/-- A pruning that leaves the bill run in a status that is not sent, with the summary of what
remains when that status files one, leaves what the bill run files. -/
theorem Pruned.filedAt {now : Instant} {δ : Tally} {st : Status} {sm : BillRun → Summary}
    (h : Pruned now X δ st sm s s') (hsent : st.sent = false)
    (hsm : st.summarised = true → ∀ c, sm c = s'.summaryOf X) : s'.FiledAt X := by
  intro b' hb'
  have hX : b'.id = X := id_of_billRun? hb'
  cases hb : s.billRun? X with
  | none =>
    rw [billRun?_congr h.billRuns, billRun?_mapBillRun (f := fun c => { c with
      tally := c.tally - δ, status := st, summary := sm c, updatedAt := now }) (fun _ => rfl),
      hb] at hb'
    cases hb'
  | some b =>
    rw [h.billRun? hb, Option.some.injEq] at hb'
    subst hb'
    exact ⟨fun hs => by rw [hX]; exact hsm hs b,
      fun hs => absurd (hsent.symm.trans hs) Bool.false_ne_true,
      fun hs => absurd (hsent.symm.trans hs) Bool.false_ne_true⟩

theorem Pruned.filedAt_removal {now : Instant} {δ : Tally} {a : Status} {n : Nat}
    (ha : a.editable = true)
    (h : Pruned now X δ (if n = 0 then .initialised else a)
      (fun c => if a = .generated then s'.summaryOf X else c.summary) s s') : s'.FiledAt X := by
  refine h.filedAt ?_ fun hsum c => ?_
  · split
    · rfl
    · cases a <;> simp_all [Status.editable, Status.sent]
  · -- of the statuses taking changes only generated is summarised
    have hgen : a = .generated := by
      split at hsum
      · cases hsum
      · cases a <;> simp_all [Status.editable, Status.summarised]
    simp [hgen]

end Store

/-! ## Statuses that file nothing -/

theorem setStatus_filed (Y : Uuid) (allowed : List Status) {target : Status} (now : Instant)
    (ht : target.summarised = false) (X : Uuid) :
    Keeps (·.FiledAt X) (setStatus Y allowed target now) :=
  .modifyGet fun _ h => ⟨h.guarded (fun _ => rfl) (fun _ => ht), Nat.le_of_eq guarded_issued.symm⟩

theorem recover_filed (now : Instant) (threshold batch : Int) (X : Uuid) :
    Keeps (·.FiledAt X) (Recovery.recover now threshold batch) :=
  .recover fun Y => setStatus_filed Y _ now rfl X

/-! ## Sending -/

theorem Invoice.lineage_stamp (refs : List (Uuid × String)) (now : Instant) (i : Invoice) :
    (i.stamp refs now).lineage = i.lineage := by
  unfold Invoice.stamp
  split <;> rfl

namespace Store

variable {s : Store} {b : BillRun}

theorem Sound.mem_billable_of_id (hs : s.Sound) {X : Uuid} {i : Invoice} (hi : i ∈ s.invoices)
    (hk : i.id ∈ (s.billableInvoices X).map (·.id)) : i ∈ s.billableInvoices X := by
  obtain ⟨inv, hinv, e⟩ := List.mem_map.1 hk
  have hmem : inv ∈ s.invoices := (mem_invoicesOf.1 (List.mem_filter.1 hinv).1).1
  rwa [hs.invoice_eq hmem hi e] at hinv

theorem lookup_billable (hs : s.Sound) {G : Region} {t : Int} {X : Uuid} {i : Invoice}
    (hi : i ∈ s.invoices) {x : String}
    (hx : (BillRun.referencesFrom G t (s.billableInvoices X)).lookup i.id = some x) :
    ∃ j < (s.billableInvoices X).length, x = G.name ++
      (if i.tally.net < 0 then "C" else "I") ++ TransactionFile.padded 7 (t + j) ++ "T" := by
  have hids := hs.invoiceIds_nodup
  have hkey : i.id ∈ (s.billableInvoices X).map (·.id) := by
    by_contra hk
    rw [BillRun.lookup_referencesFrom_eq_none G t hk] at hx
    cases hx
  obtain ⟨j, hj, rfl⟩ := List.mem_iff_getElem.1 (hs.mem_billable_of_id hi hkey)
  rw [BillRun.lookup_referencesFrom G (billable_ids_nodup hids X) t j hj, Option.some.injEq] at hx
  exact ⟨j, hj, hx.symm⟩

/-- What sending bill run `b` leaves it filing: the summary of its invoices, which stamping
leaves as it was; a reference on each billable invoice, made from its region, the sign of the
invoice's net and a number; and none on the others. -/
theorem sent_filed (hs : s.Sound) (hb : s.billRun? b.id = some b) (happ : b.status = .approved)
    (h₀ : s.Filed b) (hblank : s.Unnumbered b.id) {c : Counter} (now : Instant)
    (hfloor : 1 ≤ c.transactionNumber.toInt)
    (hroom : c.RoomFor (s.billableInvoices b.id).length) : (s.sent b c now).FiledAt b.id := by
  have hids := hs.invoiceIds_nodup
  intro b' hb'
  rw [sent_billRun? hb, Option.some.injEq] at hb'
  subst hb'
  have hof : ∀ i ∈ (s.sent b c now).invoicesOf b.id, ∃ i₀ ∈ s.invoicesOf b.id,
      i = i₀.stamp (BillRun.referencesFrom b.region c.transactionNumber.toInt
        (s.billableInvoices b.id)) now ∧ i₀.transactionReference = none := by
    intro i hi
    obtain ⟨hi, hX⟩ := mem_invoicesOf.1 hi
    rw [sent_invoices] at hi
    obtain ⟨i₀, hi₀, rfl⟩ := List.mem_map.1 hi
    rw [Invoice.stamp_billRunId] at hX
    exact ⟨i₀, mem_invoicesOf.2 ⟨hi₀, hX⟩, rfl, hblank.2 i₀ hi₀ hX⟩
  refine ⟨fun _ => ?_, fun _ i hi => ?_, fun _ i hi x hx => ?_⟩
  · show b.summary = _
    rw [h₀.summary (by rw [happ]; rfl)]
    refine (summaryOf_congr ?_ b.id).symm
    rw [sent_invoices, List.map_map]
    exact List.map_congr_left fun i _ => by simp [Invoice.lineage_stamp]
  · obtain ⟨i₀, hi₀, rfl, hnone⟩ := hof i hi
    have hbill : (i₀.stamp (BillRun.referencesFrom b.region c.transactionNumber.toInt
        (s.billableInvoices b.id)) now).isBillable = i₀.isBillable := by
      simp [Invoice.isBillable]
    rw [Invoice.stamp_transactionReference, hnone, Option.or_none, hbill]
    cases hB : i₀.isBillable
    · -- an invoice that is not billable is handed no reference
      have hk : i₀.id ∉ (s.billableInvoices b.id).map (·.id) := fun hk => by
        have hinvB := (List.mem_filter.1 (hs.mem_billable_of_id (mem_invoicesOf.1 hi₀).1 hk)).2
        rw [hB] at hinvB
        cases hinvB
      rw [BillRun.lookup_referencesFrom_eq_none _ _ hk]
      rfl
    · obtain ⟨j, hj, e⟩ := List.mem_iff_getElem.1
        (show i₀ ∈ s.billableInvoices b.id from List.mem_filter.2 ⟨hi₀, hB⟩)
      rw [← e, BillRun.lookup_referencesFrom _ (billable_ids_nodup hids b.id)]
      rfl
  · obtain ⟨i₀, hi₀, rfl, hnone⟩ := hof i hi
    rw [Invoice.stamp_transactionReference, hnone, Option.or_none] at hx
    obtain ⟨j, hj, rfl⟩ := lookup_billable hs (mem_invoicesOf.1 hi₀).1 hx
    -- the number is below the largest, since the counter has room for every billable invoice
    have hmax : Int64.maxValue.toInt = 2 ^ 63 - 1 := by decide
    have hn : (Int64.ofInt (c.transactionNumber.toInt + j)).toInt =
        c.transactionNumber.toInt + j :=
      Int64.toInt_ofInt_of_le (by omega) (by have := hroom.1; omega)
    refine ⟨Int64.ofInt (c.transactionNumber.toInt + j), ?_⟩
    simp only [BillRun.transactionReference, hn, Invoice.stamp_tally]
    rfl

end Store

variable {s₀ : Store}

theorem send_filed (now : Instant) (ref : BillRunRef) (hs : s₀.Sound) (hh : s₀.Handed)
    (hu : s₀.Unsent) (h₀ : s₀.FiledAt ref.billRunId) :
    Triple (· = s₀) (BillRun.send now ref)
      (fun task s => task = .transmit ref ∧ s.FiledAt ref.billRunId) (·.FiledAt ref.billRunId) := by
  have hids := hs.invoiceIds_nodup
  refine Triple.bind ((billRunOf_found ref).mono (fun _ h => h) (fun _ _ h => h)
    fun _ e => e ▸ h₀) fun b => Triple.of_eq fun s h => ?_
  obtain ⟨e, hb⟩ := h
  subst s
  refine Triple.require_bind (fun _ _ e => e ▸ h₀) fun happ => ?_
  have happ : b.status = .approved := eq_of_beq happ
  have hid : b.id = ref.billRunId := (id_of_billRunIn? hb).1
  have hrow : s₀.billRun? b.id = some b := by
    rw [hid]
    exact hs.billRun?_of_billRunIn? hb
  have hbm := List.mem_of_find?_eq_some hrow
  obtain ⟨c, hc, hfl⟩ := hh.counting hbm
  have hblank : s₀.Unnumbered b.id := hu b hbm (by rw [happ]; rfl)
  rw [← hid] at h₀ ⊢
  by_cases hroom : c.RoomFor (s₀.billableInvoices b.id).length
  · refine Triple.bind (Triple.atomically fun s' e => ?_) fun _ => Triple.pure fun _ h => ⟨rfl, h⟩
    subst e
    exact (assignReferences_returns now ref hrow happ hc ⟨hfl.1, hfl.2.1⟩ hroom hids).mono
      (fun _ h => h) (fun _ _ e => e ▸ sent_filed hs hrow happ (h₀ b hrow) hblank now hfl.1 hroom)
      fun _ h => h.elim
  · -- without room the numbering fails and the block puts the ledger back
    refine Triple.bind (Triple.atomically fun s' e => ?_) fun _ => Triple.absurd _
    subst e
    exact (assignReferences_fails now ref hc ⟨hfl.1, hfl.2.1⟩ hroom hids).mono (fun _ h => h)
      (fun _ _ h => h.elim) fun _ _ => h₀.of_part rfl

theorem transmit_filed (env : Env) (ref : BillRunRef) :
    Triple (·.FiledAt ref.billRunId) (BillRun.transmit env ref) (fun _ => (·.FiledAt ref.billRunId))
      (·.FiledAt ref.billRunId) := by
  unfold BillRun.transmit
  refine Triple.bind (transition_filed env.now ref.billRunId (by decide) (by decide)) fun _ => ?_
  refine Triple.bind (billRunOf_found ref) fun b => Triple.of_eq fun s h => ?_
  obtain ⟨hs, hb⟩ := h
  rw [(id_of_billRunIn? hb).1]
  split
  · exact Triple.bind ((transition_filed env.now ref.billRunId (by decide) (by decide)).mono
      (fun _ e => e ▸ hs) (fun _ _ h => h) fun _ h => h) fun _ => Triple.pure fun _ h => h
  · refine Triple.get_bind ?_
    split
    split
    · exact Triple.throw fun _ e => e ▸ hs
    · exact Triple.bind ((transition_filed env.now ref.billRunId (by decide) (by decide)).mono
        (fun _ e => e ▸ hs) (fun _ _ h => h) fun _ h => h) fun _ => Triple.pure fun _ h => h

/-! ## Rebilling -/

theorem post_filed (now : Instant) (t : Transaction) (d : Option Uuid) {X : Uuid}
    (ht : t.billRunId = X) : Preserves (·.FiledAt X) (post now t { invoice := d }) := by
  intro n
  refine Triple.of_eq fun s₀ h₀ => (post_statusOf now t _).mono (fun _ e => e)
    (fun _ s h => ⟨?_, Nat.le_trans h₀.2 h.2.2⟩) fun s h => Nat.le_trans h₀.2 h.2
  obtain ⟨c, -, hc, hst⟩ := statusOf_taken (f := BillRun.posted now t.tally) (fun _ => rfl) h.1
  refine FiledAt.of_statusOf fun a ha => ?_
  rw [congrFun h.2.1 X, ← ht, hst, Option.some.injEq] at ha
  subst ha
  have hed : c.status = .initialised ∨ c.status = .generated := by simpa using hc
  rcases hed with e | e <;> simp [BillRun.posted, e, Status.summarised]

theorem copyLines_filed (now : Instant) (rebilled : Invoice) (X cancelId rebillId : Uuid)
    (actor : String) : Keeps (·.FiledAt X) (Rebill.copyLines now rebilled X cancelId rebillId actor) :=
  .copyLines (fun _ _ dest _ => post_filed now _ (some dest.1) rfl) fun _ m h _ => h.issue m

theorem rebill_filed (now : Instant) (ref : BillRunRef) (invoiceId : Uuid) (actor : String)
    (X : Uuid) :
    Triple (·.FiledAt X) (Rebill.rebill now ref invoiceId actor)
      (fun r s => s.FiledAt X ∧ ∃ rebilled cancelId rebillId,
        r.2.2 = .copyInvoice rebilled ref.billRunId cancelId rebillId actor) (·.FiledAt X) := by
  refine Triple.of_eq fun s₀ h₀ => ?_
  unfold Rebill.rebill
  refine Triple.bind ((check_spec ref invoiceId).mono (fun _ h => h) (fun _ _ h => h)
    fun _ e => e ▸ h₀) fun r => Triple.of_eq fun s h => ?_
  obtain ⟨target, rebilled⟩ := r
  obtain ⟨rfl, htarget, -⟩ := h
  have hid := (id_of_billRunIn? htarget).1
  refine Triple.fresh_bind (Triple.fresh_bind (Triple.bind (Triple.atomically fun s₁ e => ?_)
    fun _ => Triple.pure fun _ h => ⟨h, _, _, _, by rw [hid]⟩))
  subst e
  refine Triple.bind ((insertCopy_spec _).mono (fun _ h => h) (fun _ _ h => h)
    fun _ _ => h₀.of_part rfl) fun _ => Triple.of_eq fun _ h => ?_
  subst h
  exact (insertCopy_spec _).mono (fun _ h => h)
    (fun _ _ h => by
      subst h
      refine FiledAt.append_blank (FiledAt.append_blank ?_ Tally.net_zero rfl) Tally.net_zero rfl
      exact h₀.of_part rfl)
    fun _ _ => h₀.of_part rfl

/-! ## Deleting a licence or an invoice -/

theorem deleteLicence_found (ref : BillRunRef) (L : Uuid) (hs : s₀.Sound) :
    Triple (· = s₀) (Deletion.deleteLicence ref L)
      (fun task s => s = s₀ ∧ ∃ b lic, s₀.billRun? ref.billRunId = some b ∧
        b.status.editable = true ∧ s₀.licenceOn? ref.billRunId L = some lic ∧
        task = .removeLicence ref b.status L) (· = s₀) := by
  refine Triple.bind (editableBillRun_found ref hs) fun b => Triple.of_eq fun _ h => ?_
  obtain ⟨rfl, hb, hed⟩ := h
  refine Triple.get_bind (Triple.require_bind (fun _ _ e => e) fun hsome => Triple.pure fun _ e => ?_)
  obtain ⟨lic, hlic⟩ := Option.isSome_iff_exists.1 hsome
  exact ⟨e, b, lic, hb, hed, id_of_billRun? hb ▸ hlic, rfl⟩

theorem deleteInvoice_found (ref : BillRunRef) (I : Uuid) (hs : s₀.Sound) :
    Triple (· = s₀) (Deletion.deleteInvoice ref I)
      (fun task s => s = s₀ ∧ ∃ b inv, s₀.billRun? ref.billRunId = some b ∧
        b.status.editable = true ∧ s₀.invoiceOn? ref.billRunId I = some inv ∧
        task = .removeInvoice ref b.status I) (· = s₀) := by
  refine Triple.bind (editableBillRun_found ref hs) fun b => Triple.of_eq fun _ h => ?_
  obtain ⟨rfl, hb, hed⟩ := h
  refine Triple.get_bind (Triple.require_bind (fun _ _ e => e) fun hsome => Triple.pure fun _ e => ?_)
  obtain ⟨inv, hinv⟩ := Option.isSome_iff_exists.1 hsome
  exact ⟨e, b, inv, hb, hed, id_of_billRun? hb ▸ hinv, rfl⟩

theorem deleteLicence_filed (env : Env) (ref : BillRunRef) (L : Uuid) (hs : s₀.Sound)
    (h₀ : s₀.FiledAt ref.billRunId) :
    Triple (· = s₀) (Deletion.deleteLicence ref L)
      (fun task s => Triple (· = s) (task.run env) (fun _ => (·.FiledAt ref.billRunId))
        (·.FiledAt ref.billRunId)) (·.FiledAt ref.billRunId) := by
  refine (deleteLicence_found ref L hs).mono (fun _ h => h) (fun task s h => ?_) fun _ e => e ▸ h₀
  obtain ⟨rfl, b, lic, hb, hed, hlic, rfl⟩ := h
  refine Triple.bind ((removeLicence_cascade env ref hs hb hlic).mono (fun _ h => h)
    (fun _ _ h => ?_) fun _ h => h.elim) fun _ => Triple.pure fun _ h => h
  rw [← id_of_billRun? hb]
  exact Pruned.filedAt_removal hed h.bill

theorem deleteInvoice_filed (env : Env) (ref : BillRunRef) (I : Uuid) (hs : s₀.Sound)
    (h₀ : s₀.FiledAt ref.billRunId) :
    Triple (· = s₀) (Deletion.deleteInvoice ref I)
      (fun task s => Triple (· = s) (task.run env) (fun _ => (·.FiledAt ref.billRunId))
        (·.FiledAt ref.billRunId)) (·.FiledAt ref.billRunId) := by
  refine (deleteInvoice_found ref I hs).mono (fun _ h => h) (fun task s h => ?_) fun _ e => e ▸ h₀
  obtain ⟨rfl, b, inv, hb, hed, hinv, rfl⟩ := h
  refine Triple.bind ((removeInvoice_cascade env ref hs hb hinv).mono (fun _ h => h)
    (fun _ _ h => ?_) fun _ h => h.elim) fun _ => Triple.pure fun _ h => h
  rw [← id_of_billRun? hb]
  exact Pruned.filedAt_removal hed h.bill

/-! ## One request -/

section Step

variable (env : Env)

theorem filed_after_create (hc : s₀.Consistent) (slug actor region ruleset : String) :
    Triple (· = s₀) ((Request.create slug actor region ruleset).run env)
      (Request.Finishes env (·.FiledAt (Uuid.ofSerial s₀.issued)))
      (·.FiledAt (Uuid.ofSerial s₀.issued)) := by
  have hnone := hc.sound.statusOf_ofSerial
  have h₀ : s₀.FiledAt (Uuid.ofSerial s₀.issued) :=
    FiledAt.of_statusOf fun a ha => by rw [hnone] at ha; cases ha
  refine Triple.bind ((regimeNamed_spec slug).mono (fun _ h => h) (fun _ _ h => h)
    fun _ e => e ▸ h₀) fun reg => Triple.of_eq fun _ e => ?_
  subst e
  refine Triple.bind ((create_spec _ _ _ _ _ _).mono (fun _ h => h) (fun b s h => ?_)
    fun _ e => e ▸ h₀) fun _ => Triple.pure fun _ h => h
  obtain ⟨rfl, hid, -, hinit, -⟩ := h
  have hst := statusOf_append (hid ▸ hnone)
  rw [hid, hinit] at hst
  exact FiledAt.of_statusOf fun a ha => by
    rw [Option.some.inj (ha.symm.trans hst)]
    rfl

theorem filed_after_record (slug : String) (X : Uuid) (actor : String) (p : Payload)
    (h₀ : s₀.FiledAt X) :
    Triple (· = s₀) ((Request.record slug X actor p).run env)
      (Request.Finishes env (·.FiledAt X)) (·.FiledAt X) :=
  answered_none env slug X h₀ fun ref hX => by
    subst hX
    exact (record_outcome env ref actor p).mono (fun _ h => h)
      (fun _ _ h => FiledAt.of_statusOf fun a ha => by
        rw [h.2, Option.some.injEq] at ha
        rw [← ha]
        rfl)
      fun _ h => h₀.of_part h

theorem filed_after_generate (hc : s₀.Consistent) (hco : s₀.Coherent) (slug : String) (X : Uuid)
    (h₀ : s₀.FiledAt X) :
    Triple (· = s₀) ((Request.generate slug X).run env)
      (Request.Finishes env (·.FiledAt X)) (·.FiledAt X) :=
  answered_none env slug X h₀ fun ref hX => by
    subst hX
    exact generate_filed env ref hc hco h₀

theorem filed_after_approve (slug : String) (X : Uuid) (h₀ : s₀.FiledAt X) :
    Triple (· = s₀) ((Request.approve slug X).run env)
      (Request.Finishes env (·.FiledAt X)) (·.FiledAt X) :=
  answered_none env slug X h₀ fun ref hX => by
    subst hX
    exact approve_filed env.now ref h₀

theorem filed_after_send (hs : s₀.Sound) (hh : s₀.Handed) (hu : s₀.Unsent) (slug : String)
    (X : Uuid) (h₀ : s₀.FiledAt X) :
    Triple (· = s₀) ((Request.send slug X).run env)
      (Request.Finishes env (·.FiledAt X)) (·.FiledAt X) :=
  answered_work env slug X h₀ fun ref hX => by
    subst hX
    refine (send_filed env.now ref hs hh hu h₀).mono (fun _ h => h) (fun task s h => ?_)
      fun _ h => h
    rw [h.1]
    exact (transmit_filed env ref).mono (fun _ e => e ▸ h.2) (fun _ _ h => h) fun _ h => h

theorem filed_after_delete (slug : String) (X : Uuid) (h₀ : s₀.FiledAt X) :
    Triple (· = s₀) ((Request.delete slug X).run env)
      (Request.Finishes env (·.FiledAt X)) (·.FiledAt X) :=
  answered_none env slug X h₀ fun ref hX => by
    subst hX
    exact (delete_outcome env.now ref).mono (fun _ h => h)
      (fun _ _ h => FiledAt.of_statusOf fun a ha => by rw [h.2] at ha; cases ha)
      fun _ h => h₀.of_part h

theorem filed_after_deleteLicence (hs : s₀.Sound) (slug : String) (X L : Uuid)
    (h₀ : s₀.FiledAt X) :
    Triple (· = s₀) ((Request.deleteLicence slug X L).run env)
      (Request.Finishes env (·.FiledAt X)) (·.FiledAt X) :=
  answered_work env slug X h₀ fun ref hX => by
    subst hX
    exact deleteLicence_filed env ref L hs h₀

theorem filed_after_deleteInvoice (hs : s₀.Sound) (slug : String) (X I : Uuid)
    (h₀ : s₀.FiledAt X) :
    Triple (· = s₀) ((Request.deleteInvoice slug X I).run env)
      (Request.Finishes env (·.FiledAt X)) (·.FiledAt X) :=
  answered_work env slug X h₀ fun ref hX => by
    subst hX
    exact deleteInvoice_filed env ref I hs h₀

theorem filed_after_rebill (slug : String) (X invoice : Uuid) (actor : String)
    (h₀ : s₀.FiledAt X) :
    Triple (· = s₀) ((Request.rebill slug X invoice actor).run env)
      (Request.Finishes env (·.FiledAt X)) (·.FiledAt X) := by
  refine Triple.bind ((refIn_billRun slug X).mono (fun _ h => h) (fun _ _ h => h)
    fun _ e => e ▸ h₀) fun ref => Triple.of_eq fun _ hs => ?_
  obtain ⟨rfl, rfl⟩ := hs
  refine Triple.bind ((rebill_filed env.now ref invoice actor ref.billRunId).mono
    (fun _ e => e ▸ h₀) (fun _ _ h => h) fun _ h => h) fun res => Triple.of_eq fun s₁ h => ?_
  obtain ⟨h₁, rebilled, cancelId, rebillId, htask⟩ := h
  obtain ⟨_, _, task⟩ := res
  simp only at htask
  subst htask
  refine Triple.pure fun _ e => ?_
  subst e
  exact Triple.bind ((copyLines_filed env.now rebilled ref.billRunId cancelId rebillId
    actor).triple.mono (fun _ e => e ▸ h₁) (fun _ _ h => h) fun _ h => h) fun _ =>
    Triple.pure fun _ h => h

theorem filed_after_recover (threshold batch : Int) (X : Uuid) (h₀ : s₀.FiledAt X) :
    Triple (· = s₀) ((Request.recover threshold batch).run env)
      (Request.Finishes env (·.FiledAt X)) (·.FiledAt X) :=
  Triple.bind ((recover_filed env.now threshold batch X).triple.mono (fun _ e => e ▸ h₀)
    (fun _ _ h => h) fun _ h => h) fun _ => Triple.pure fun _ h => h

end Step

/-! ## Every reachable ledger -/

theorem step_filedAt_target {env : Env} (hc : s₀.Consistent) (hco : s₀.Coherent)
    (hh : s₀.Handed) (hu : s₀.Unsent) (r : Request) (h₀ : s₀.FiledAt (r.target s₀)) :
    (r.step env s₀).FiledAt (r.target s₀) := by
  refine Request.step_of (Q := (·.FiledAt (r.target s₀))) env r ?_
  cases r with
  | create slug actor region ruleset => exact filed_after_create env hc slug actor region ruleset
  | record slug X actor p => exact filed_after_record env slug X actor p h₀
  | generate slug X => exact filed_after_generate env hc hco slug X h₀
  | approve slug X => exact filed_after_approve env slug X h₀
  | send slug X => exact filed_after_send env hc.sound hh hu slug X h₀
  | delete slug X => exact filed_after_delete env slug X h₀
  | deleteLicence slug X L => exact filed_after_deleteLicence env hc.sound slug X L h₀
  | deleteInvoice slug X I => exact filed_after_deleteInvoice env hc.sound slug X I h₀
  | rebill slug X invoice actor => exact filed_after_rebill env slug X invoice actor h₀
  | recover threshold batch => exact filed_after_recover env threshold batch _ h₀

/-- One request, with the work it leaves, keeps every bill run filing what it must. -/
theorem Store.Filing.step (hc : s₀.Consistent) (hco : s₀.Coherent) (hh : s₀.Handed)
    (hu : s₀.Unsent) (h₀ : s₀.Filing) (env : Env) (r : Request) : (r.step env s₀).Filing := by
  intro X
  by_cases hrec : ∃ threshold batch, r = .recover threshold batch
  · obtain ⟨threshold, batch, rfl⟩ := hrec
    exact Request.step_of env _ (filed_after_recover env threshold batch X (h₀ X))
  · by_cases hX : X = r.target s₀
    · subst hX
      exact step_filedAt_target hc hco hh hu r (h₀ _)
    · -- any other request leaves every bill run but its own as it was
      have hwithin := step_within env r hc fun t b e => absurd ⟨t, b, e⟩ hrec
      exact (h₀ X).of_part (hwithin.2 X hX).symm

theorem Store.filing_seeded (t : Instant) : (seeded t).Filing := fun X b hb => by
  have hb₀ : (seeded t).billRuns = [] := rfl
  rw [billRun?, hb₀] at hb
  cases hb

/-- In every reachable ledger every bill run files what its status promises: a summarised bill
run the summary of its invoices, and a sent one a reference on exactly its billable invoices,
each made from its region, the sign of its net and a number. -/
theorem Reachable.filing {ok : Env → Prop} {s : Store} (h : Reachable ok s) : s.Filing := by
  induction h with
  | seeded t => exact filing_seeded t
  | step env r _ hs ih =>
    obtain ⟨hh, hu⟩ := hs.handed
    exact ih.step hs.consistent hs.coherent hh hu env r

end ChargeLedger
