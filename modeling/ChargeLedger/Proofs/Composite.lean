import ChargeLedger.Proofs.Posting
import ChargeLedger.Ledger.Request

/-!
# Operations as their writes

Every operation of the ledger reads the store, checks what it read and writes through a handful
of writes, in a fixed order: a bill run's status, tally or summary under a guard on its status,
an invoice's or a licence's tally, flags or reference, rows added or taken away, counters moved
on and identifiers drawn. Reads, checks and faults change nothing. So an invariant is kept by
an operation as soon as it is kept by each write the operation makes, and the lemmas below say
so once for every operation: `Op.Keeps.generate` takes what the status writes and the
summarising block keep, `Op.Keeps.post` what the writes of a posting keep, and so on. An
invariant is then carried through the ledger by its lemmas about single writes.

A write to the bill run a request names is asked of that bill run only, so that invariants of
one bill run (`Store.Within`) use the same lemmas.
-/

set_option autoImplicit false

namespace ChargeLedger

open Op Store

/-! ## Reads and checks -/

theorem billRunOf_keeps {I : Store → Prop} (ref : BillRunRef) : Keeps I (billRunOf ref) := by
  refine .bind .get fun s => .bind (.readRow _ _) fun r => ?_
  cases r with
  | some b => exact .pure b
  | none => exact .throw _

theorem conflict_fails {P : Store → Prop} (id : Uuid) (want : Status) :
    Triple P (BillRun.conflict id want) (fun _ _ => False) P := by
  refine Triple.of_eq fun s₀ hs₀ => Triple.get_bind ?_
  refine (Triple.bind Triple.readRow fun r => ?_).mono (fun _ h => h) (fun _ _ h => h)
    fun _ h => h ▸ hs₀
  cases r <;> exact Triple.throw fun _ h => h.2

theorem conflict_keeps {I : Store → Prop} (id : Uuid) (want : Status) :
    Keeps I (BillRun.conflict id want) :=
  fun _ => (conflict_fails id want).mono (fun _ h => h) (fun _ _ h => h.elim) fun _ h => h

theorem regimeNamed_keeps {I : Store → Prop} (slug : String) : Keeps I (Request.regimeNamed slug) := by
  refine .bind .get fun s => ?_
  split
  · exact .pure _
  · exact .throw _

theorem refIn_keeps {I : Store → Prop} (slug : String) (billRun : Uuid) :
    Keeps I (Request.refIn slug billRun) :=
  .bind (regimeNamed_keeps slug) fun _ => .pure _

theorem ofExcept_keeps {I : Store → Prop} {α : Type} (r : Except Fault α) :
    Keeps I (Op.ofExcept r) := by
  cases r with
  | ok a => exact .pure a
  | error e => exact .throw e

theorem id_of_billRunIn? {s : Store} {R X : Uuid} {b : BillRun} (h : s.billRunIn? R X = some b) :
    b.id = X ∧ b.regimeId = R := by
  simpa using List.find?_some h

theorem billRunOf_found {P : Store → Prop} (ref : BillRunRef) :
    Triple P (billRunOf ref) (fun b s => P s ∧ s.billRunIn? ref.regimeId ref.billRunId = some b)
      P := by
  refine Triple.of_eq fun s₀ hs₀ => Triple.get_bind ?_
  refine (Triple.bind Triple.readRow fun r => ?_).mono (fun _ h => h) (fun _ _ h => h)
    fun _ e => e ▸ hs₀
  cases r with
  | none => exact Triple.throw fun _ h => h.2
  | some b =>
    refine Triple.pure fun s h => ?_
    obtain ⟨e, rfl⟩ := h
    exact ⟨hs₀, e.symm⟩

theorem Op.Keeps.billRunOf_bind {β : Type} {I : Store → Prop} {ref : BillRunRef}
    {k : BillRun → Op β} (h : ∀ b, b.id = ref.billRunId → Keeps I (k b)) :
    Keeps I (billRunOf ref >>= k) := fun n =>
  Triple.bind (billRunOf_found ref) fun b => Triple.of_eq fun _ hs =>
    (h b (id_of_billRunIn? hs.2).1 n).mono (fun _ e => e ▸ hs.1) (fun _ _ h => h) fun _ h => h

variable {I : Store → Prop} {now : Instant} {ref : BillRunRef}

theorem Op.Keeps.fresh (hissue : ∀ s m, I s → s.issued ≤ m → I { s with issued := m }) :
    Keeps I Store.fresh :=
  .modifyGet fun s h => ⟨hissue s _ h (Nat.le_succ _), Nat.le_succ _⟩

/-! ## Operations on a bill run -/

theorem Op.Keeps.transition {X : Uuid} {source target : Status}
    (hset : Keeps I (setStatus X [source] target now)) :
    Keeps I (BillRun.transition now X source target) := by
  refine .bind hset fun ok => ?_
  cases ok
  · exact conflict_keeps X source
  · exact .pure ()

theorem Op.Keeps.approve
    (hset : ∀ allowed target, Keeps I (setStatus ref.billRunId allowed target now)) :
    Keeps I (BillRun.approve now ref) :=
  Keeps.billRunOf_bind fun _ hb => hb ▸ .transition (hset _ _)

theorem Op.Keeps.transmit {env : Env}
    (hset : ∀ allowed target, Keeps I (setStatus ref.billRunId allowed target env.now)) :
    Keeps I (BillRun.transmit env ref) := by
  refine .bind (.transition (hset _ _)) fun _ => Keeps.billRunOf_bind fun b hb => ?_
  rw [← hb] at hset
  split
  · exact .bind (.transition (hset _ _)) fun _ => .pure _
  · refine .bind .get fun _ => ?_
    split
    split
    · exact .throw _
    · exact .bind (.transition (hset _ _)) fun _ => .pure _

theorem Op.Keeps.send (hnext : ∀ q R G, Keeps I (next q R G now))
    (hreference : ∀ K r, Keeps I (setReference K r now))
    (hfile : ∀ number file,
      Keeps I (assignFile ref.billRunId number file (file.map fun _ => now) .approved .pending now))
    (hissue : ∀ s m, I s → s.issued ≤ m → I { s with issued := m }) :
    Keeps I (BillRun.send now ref) := by
  refine Keeps.billRunOf_bind fun b hb => .bind (.require _ _) fun _ =>
    .bind (.atomic ?_ hissue) fun _ => .pure _
  rw [← hb] at hfile
  have hnumber : ∀ q, Keeps I (BillRun.nextNumber now ref b q) := fun _ =>
    .bind (hnext _ _ _) fun _ => .bind (.require _ _) fun _ => .pure _
  unfold BillRun.assignReferences
  refine .bind .get fun _ => .bind (.forM fun _ _ => .bind (hnumber _) fun _ => hreference _ _)
    fun _ => .bind (hnumber _) fun _ => ?_
  extract_lets assign
  have hassign : ∀ file, Keeps I (assign file) := fun _ =>
    .bind (hfile _ _) fun ok => by
      cases ok
      · exact conflict_keeps _ _
      · exact .pure ()
  split
  · exact .bind (.pure _) hassign
  · exact .bind (hnext _ _ _) fun _ => .bind (.pure _) hassign

theorem Op.Keeps.delete
    (hset : ∀ allowed target, Keeps I (setStatus ref.billRunId allowed target now))
    (hdelete : Keeps I (deleteBillRun ref.billRunId))
    (hissue : ∀ s m, I s → s.issued ≤ m → I { s with issued := m }) :
    Keeps I (BillRun.delete now ref) := by
  refine Keeps.billRunOf_bind fun b hb => .bind (.require _ _) fun _ => ?_
  rw [← hb] at hset hdelete
  refine .atomic (.bind (hset _ _) fun ok => ?_) hissue
  cases ok
  · exact .bind (conflict_keeps _ _) fun _ => hdelete
  · exact hdelete

theorem Op.Keeps.recover {threshold batch : Int}
    (hset : ∀ X, Keeps I (setStatus X [.generating] .initialised now)) :
    Keeps I (Recovery.recover now threshold batch) := by
  refine .bind .get fun _ => ?_
  dsimp only
  split
  · exact .bind (.throw _) fun _ => .forM fun _ _ => .bind (hset _) fun _ => .pure ()
  · exact .forM fun _ _ => .bind (hset _) fun _ => .pure ()

/-! ## Posting and recording a line -/

theorem Op.Keeps.refusal (X : Uuid) : Keeps I (Posting.refusal X) :=
  fun _ => Triple.of_eq fun _ hs =>
    (refusal_fails X hs).mono (fun _ h => h) (fun _ _ h => h.elim) fun _ h => h

/-- A posting moves the bill run's tally, then the invoice's and the licence's, and adds the
line; it keeps what these four writes keep. -/
theorem Op.Keeps.post {t : Transaction} {how : Posting}
    (hbill : Keeps I (addBillRunTally t.billRunId t.tally how.allowed now))
    (hinvoice : ∀ K, Keeps I (addInvoiceTally K t.tally now))
    (hupsert : Keeps I
      (upsertInvoice t.billRunId t.customerReference t.chargeFinancialYear t.tally now))
    (hlicence : ∀ K, Keeps I (upsertLicence t.billRunId K t.licenceNumber t.tally now))
    (hinsert : ∀ K L, Keeps I (insertTransaction
      { t with invoiceId := K, licenceId := L, createdAt := now, updatedAt := now })) :
    Keeps I (ChargeLedger.post now t how) := by
  unfold ChargeLedger.post
  extract_lets delta line invoice
  have hline : ∀ K, Keeps I (line K) := fun K => by
    simp only [line]
    refine .bind (hlicence K) fun L => ?_
    have hfin : Keeps I (insertTransaction
        { t with invoiceId := K, licenceId := L, createdAt := now, updatedAt := now } >>= fun _ =>
          Pure.pure { t with invoiceId := K, licenceId := L, createdAt := now, updatedAt := now }) :=
      .bind (hinsert K L) fun _ => .pure _
    -- a client id already taken fails before the line is added
    split
    · refine .bind .get fun _ => ?_
      split
      · exact .bind (.throw _) fun _ => hfin
      · exact hfin
    · exact hfin
  have hchosen : Keeps I (invoice ()) := by
    simp only [invoice]
    split
    · exact .bind (hinvoice _) fun _ => .bind (.require _ _) fun _ => .bind (.pure _) hline
    · exact .bind hupsert hline
  refine .bind hbill fun ok => ?_
  cases ok
  · exact .bind (.refusal _) fun _ => hchosen
  · exact hchosen

theorem Op.Keeps.record {env : Env} {actor : String} {payload : Payload}
    (hpost : ∀ id b c priced, Preserves I (ChargeLedger.post env.now
      (Transaction.ofPayload id ref.regimeId actor b payload.normalise c priced) {}))
    (hissue : ∀ s m, I s → s.issued ≤ m → I { s with issued := m }) :
    Keeps I (ChargeLedger.record env ref actor payload) := by
  unfold ChargeLedger.record
  extract_lets p issues jp
  clear_value issues
  have hjp : ∀ c, Keeps I (jp c) := fun _ =>
    .bind (billRunOf_keeps ref) fun _ => .bind (.require _ _) fun _ =>
      .bind (.require _ _) fun _ => .bind (.require _ _) fun _ =>
      .bind (ofExcept_keeps _) fun _ => .bind (.fresh hissue) fun _ =>
      .atomically (hpost _ _ _ _) hissue
  refine .bind (.require _ _) fun _ => ?_
  split
  · exact .bind (.pure _) hjp
  · exact .throw _

/-! ## Generating -/

theorem Op.Keeps.removeAdjustments {X : Uuid}
    (hbill : ∀ δ, Keeps I (addBillRunTally X δ [.generating] now))
    (hinvoice : ∀ K δ, Keeps I (addInvoiceTally K δ now))
    (hlicence : ∀ L δ, Keeps I (addLicenceTally L δ now))
    (hdelete : ∀ ids, Keeps I (deleteTransactions ids)) :
    Keeps I (BillRun.removeAdjustments now X) := by
  unfold BillRun.removeAdjustments
  refine .bind .get fun _ => ?_
  dsimp only
  split
  · exact .bind (hbill _) fun _ => .bind (.forM fun _ _ => .bind (hinvoice _ _) fun _ =>
      .bind (hlicence _ _) fun _ => .pure ()) fun _ => hdelete _
  · exact .pure ()

theorem Op.Keeps.applyMinimumCharges {floor : Int64}
    (hpost : ∀ id template credit value K, Keeps I (ChargeLedger.post now
      (BillRun.adjustment id template credit value) { invoice := some K, allowed := [.generating] }))
    (hissue : ∀ s m, I s → s.issued ≤ m → I { s with issued := m }) (invs : List Invoice) :
    Keeps I (BillRun.applyMinimumCharges now floor invs) := by
  induction invs with
  | nil => exact .pure _
  | cons inv rest ih =>
    rw [BillRun.applyMinimumCharges]
    refine .bind ?_ fun _ => .bind ih fun _ => .pure _
    unfold BillRun.applyMinimumCharge
    dsimp only
    split
    · exact .pure _
    · refine .bind .get fun _ => ?_
      split
      · exact .throw _
      · exact .bind (.forM fun _ _ => .bind (.fresh hissue) fun _ =>
          .bind (hpost _ _ _ _ _) fun _ => .pure ()) fun _ => .pure _

theorem Op.Keeps.summarise {b : BillRun} {th : Thresholds}
    (hremove : Keeps I (BillRun.removeAdjustments now b.id))
    (happly : ∀ invs, Keeps I (BillRun.applyMinimumCharges now th.minimumCharge invs))
    (hflags : ∀ K flags, Keeps I (setFlags K flags now))
    (hsummary : ∀ summary, Keeps I (setSummary b.id summary .generating .generated now)) :
    Keeps I (BillRun.summarise now b th) := by
  unfold BillRun.summarise
  extract_lets jp
  have hjp : ∀ charged, Keeps I (jp charged) := fun _ =>
    .bind .get fun _ => .bind (.forM fun _ _ => hflags _ _) fun _ =>
      .bind (hsummary _) fun _ => .require _ _
  refine .bind hremove fun _ => ?_
  split
  · exact .bind .get fun _ => .bind (happly _) hjp
  · exact .bind (.pure _) hjp

/-- Generating moves the bill run to generating, runs its block all or nothing, and moves it
back when the block fails. -/
theorem Op.Keeps.generate {env : Env}
    (hset : ∀ allowed target, Keeps I (setStatus ref.billRunId allowed target env.now))
    (hsummarise : ∀ b : BillRun, b.id = ref.billRunId →
      Preserves I (BillRun.summarise env.now b (env.thresholds.lookup ref.regimeSlug)))
    (hissue : ∀ s m, I s → s.issued ≤ m → I { s with issued := m }) :
    Keeps I (BillRun.generate env ref) := by
  refine Keeps.billRunOf_bind fun b hb => ?_
  rw [← hb] at hset
  refine .bind (.require _ _) fun _ => .bind (.require _ _) fun _ => .bind (.require _ _) fun _ =>
    .bind .get fun _ => .bind (.require _ _) fun _ => .bind (.transition (hset _ _)) fun _ => ?_
  exact .bind (.tryCatch (.atomically (hsummarise b hb) hissue) fun e =>
    .bind (hset _ _) fun _ => .throw e) fun _ => billRunOf_keeps ref

/-! ## Deleting licences and invoices -/

theorem Op.Keeps.removeLicence {X L : Uuid}
    (hbill : ∀ δ, Keeps I (addBillRunTally X δ [.pending] now))
    (hinvoice : ∀ K δ, Keeps I (addInvoiceTally K δ now))
    (hlicence : ∀ L, Keeps I (deleteLicence L))
    (hdelete : ∀ K, Keeps I (deleteInvoice K)) :
    Keeps I (Deletion.removeLicence now X L) := by
  unfold Deletion.removeLicence Deletion.subtract
  refine .bind .get fun _ => ?_
  split
  · dsimp only
    refine .bind (.bind (hbill _) fun _ => .require _ _) fun _ => .bind (hinvoice _ _) fun _ =>
      .bind (hlicence _) fun _ => .bind .get fun _ => ?_
    split
    · exact .pure _
    · exact .bind (hdelete _) fun _ => .pure _
  · exact .throw _

theorem Op.Keeps.removeInvoice {X K : Uuid}
    (hbill : ∀ δ, Keeps I (addBillRunTally X δ [.pending] now))
    (hdelete : ∀ K, Keeps I (deleteInvoice K)) :
    Keeps I (Deletion.removeInvoice now X K) := by
  unfold Deletion.removeInvoice Deletion.subtract
  refine .bind .get fun _ => ?_
  split
  · exact .bind (.bind (hbill _) fun _ => .require _ _) fun _ => .bind (hdelete _) fun _ => .pure _
  · exact .throw _

theorem Op.Keeps.resummarise {env : Env} {slug : String} {X : Uuid} {left : Option Uuid}
    (hflags : ∀ K flags, Keeps I (setFlags K flags env.now))
    (hsummary : ∀ summary, Keeps I (setSummary X summary .pending .pending env.now)) :
    Keeps I (Deletion.resummarise env slug X left) := by
  unfold Deletion.resummarise
  extract_lets jp
  have hjp : ∀ r, Keeps I (jp r) := fun _ =>
    .bind .get fun _ => .bind (hsummary _) fun _ => .pure ()
  cases left with
  | none => exact hjp ()
  | some K =>
    refine .bind .get fun _ => ?_
    split
    · exact .bind (hflags _ _) hjp
    · exact .bind (.throw _) hjp

theorem Op.Keeps.cascade {env : Env} {prior : Status} {remove : Op (Option Uuid)}
    (hset : ∀ allowed target, Keeps I (setStatus ref.billRunId allowed target env.now))
    (hremove : Preserves I remove)
    (hresummarise : ∀ left,
      Preserves I (Deletion.resummarise env ref.regimeSlug ref.billRunId left))
    (hissue : ∀ s m, I s → s.issued ≤ m → I { s with issued := m }) :
    Keeps I (Deletion.cascade env ref prior remove) := by
  unfold Deletion.cascade
  refine .bind (hset _ _) fun _ => .bind (.require _ _) fun _ => ?_
  refine .bind (.tryCatch (.bind (.atomically (.bind hremove fun left => ?_) hissue)
    fun _ => .pure _) fun _ => .pure _) fun outcome => ?_
  · split
    · exact hresummarise left
    · exact .of_keeps (.pure ())
  · refine .bind .get fun _ => .bind (hset _ _) fun _ => ?_
    cases outcome with
    | none => exact .pure ()
    | some e => exact .throw e

/-! ## Copying lines and running work -/

theorem Op.Keeps.copyLines {rebilled : Invoice} {target cancelId rebillId : Uuid} {actor : String}
    (hpost : ∀ id u (dest : Uuid × Bool), dest ∈ [(cancelId, true), (rebillId, false)] →
      Preserves I (ChargeLedger.post now (Rebill.duplicate id u target dest.2 actor)
        { invoice := some dest.1 }))
    (hissue : ∀ s m, I s → s.issued ≤ m → I { s with issued := m }) :
    Keeps I (Rebill.copyLines now rebilled target cancelId rebillId actor) := by
  unfold Rebill.copyLines
  exact .atomically (.bind (.of_keeps .get) fun _ => .forM fun _ _ =>
    .bind (.of_keeps .get) fun _ => .forM fun _ _ => .forM fun _ hdest =>
      .bind (.of_keeps (.fresh hissue)) fun _ => .bind (hpost _ _ _ hdest) fun _ => .of_keeps (.pure ()))
    hissue

/-- The work a request leaves is a transmission, a copying or a cascade of a removal. -/
theorem Op.Keeps.work {env : Env} {task : Task}
    (htransmit : ∀ ref, Keeps I (BillRun.transmit env ref))
    (hcopy : ∀ rebilled target cancelId rebillId actor,
      Keeps I (Rebill.copyLines env.now rebilled target cancelId rebillId actor))
    (hlicence : ∀ (ref : BillRunRef) prior L,
      Keeps I (Deletion.cascade env ref prior (Deletion.removeLicence env.now ref.billRunId L)))
    (hinvoice : ∀ (ref : BillRunRef) prior K,
      Keeps I (Deletion.cascade env ref prior (Deletion.removeInvoice env.now ref.billRunId K))) :
    Keeps I (task.run env) := by
  cases task with
  | transmit ref => exact htransmit ref
  | copyInvoice rebilled target cancelId rebillId actor =>
    exact .bind (hcopy _ _ _ _ _) fun _ => .pure _
  | removeLicence ref prior licence => exact .bind (hlicence ref prior licence) fun _ => .pure _
  | removeInvoice ref prior invoice => exact .bind (hinvoice ref prior invoice) fun _ => .pure _

end ChargeLedger
