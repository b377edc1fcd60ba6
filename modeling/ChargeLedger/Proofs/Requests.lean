import ChargeLedger.Proofs.Removal
import ChargeLedger.Ledger.Request

/-!
# Every request keeps the ledger consistent

A request runs, and the work it leaves runs right after it on the store it left. Every request
keeps `Store.Consistent`, whether it returns or fails, and so does every piece of work run on a
store it is ready for. The only work with a need is copying the lines of a rebilled invoice: it
posts onto the two copies the rebill made, so they must be on the bill run it copies onto
(`Task.Ready`), which a rebill that returns leaves them. So one request with its work keeps the
ledger consistent (`step_consistent`), and every store that requests lead to from a seeded store
is consistent (`Reachable.consistent`).
-/

set_option autoImplicit false

namespace ChargeLedger

open Op Store

/-- What a piece of work needs of the store it runs in: the copies that copying lines posts to
are on the bill run it copies onto. -/
def Task.Ready (task : Task) (s : Store) : Prop :=
  match task with
  | .copyInvoice _ target cancelId rebillId _ =>
    ∀ k ∈ [(cancelId, target), (rebillId, target)], k ∈ s.invoiceKeys
  | _ => True

def Task.billRun : Task → Uuid
  | .transmit ref => ref.billRunId
  | .copyInvoice _ target _ _ _ => target
  | .removeLicence ref _ _ => ref.billRunId
  | .removeInvoice ref _ _ => ref.billRunId

namespace Store

variable {s : Store}

theorem Consistent.insertInvoice (h : s.Consistent) (i : Invoice)
    (hnew : i.id ∉ s.invoiceKeys.map (·.1)) (hissued : s.Issued i.id)
    (hparent : i.billRunId ∈ s.billRunIds) (htally : i.tally = 0) :
    Consistent { s with invoices := s.invoices ++ [i] } := by
  have fresh : ∀ j ∈ s.invoices, j.id ≠ i.id := by simpa [invoiceKeys] using hnew
  have lines : ∀ t ∈ s.transactions, t.invoiceId ≠ i.id := fun t ht e => hnew (by
    rw [← e]
    exact List.mem_map_of_mem (f := Prod.fst) (h.sound.transaction_invoice_key ht))
  have hb := h.exact.insertInvoice i fresh lines rfl
  rw [htally, Pi.single_zero, add_zero] at hb
  exact ⟨h.sound.insertInvoice i hnew hissued hparent, hb⟩

theorem Consistent.seeded (t : Instant) : (Store.seeded t).Consistent := by
  have hb : (Store.seeded t).billRuns = [] := rfl
  have hi : (Store.seeded t).invoices = [] := rfl
  have hl : (Store.seeded t).licences = [] := rfl
  have ht : (Store.seeded t).transactions = [] := rfl
  refine ⟨⟨?_, ?_, ?_, ?_, ?_, ?_, ?_, ?_, ?_, ?_, ?_⟩, ⟨?_, ?_, ?_⟩⟩ <;>
    simp [billRunIds, invoiceKeys, licenceKeys, transactionKeys, hb, hi, hl, ht]

end Store

/-! ## Recording a line -/

variable {s₀ : Store}

theorem record_within (env : Env) (ref : BillRunRef) (actor : String) (payload : Payload) :
    Keeps (Within ref.billRunId s₀) (record env ref actor payload) := by
  unfold record
  extract_lets p issues jp
  clear_value p issues
  have hjp : ∀ c, Keeps (Within ref.billRunId s₀) (jp c) := by
    intro c
    refine Keeps.billRunOf_bind fun b hb => .bind (.require _ _) fun _ =>
      .bind (.require _ _) fun _ => .bind (.require _ _) fun _ =>
      .bind (ofExcept_keeps _) fun priced => .fresh_bind fun n s h hn => ?_
    refine Triple.atomically fun s₁ e => ?_
    subst e
    have hw₁ : Within ref.billRunId s₀ { s with issued := s.issued + 1 } := h.issue (Nat.le_succ _)
    have hn₁ : n ≤ s.issued + 1 := Nat.le_succ_of_le hn
    refine (post_spec env.now
      (Transaction.ofPayload (Uuid.ofSerial s.issued) ref.regimeId actor b p c priced) {} hw₁.1
      h.1.sound.fresh_transaction
      (by show Uuid.serialBase + s.issued < Uuid.serialBase + (s.issued + 1); omega)
      fun _ e => nomatch e).mono (fun _ h => h)
      (fun _ _ h' => ⟨⟨h'.2.consistent, hw₁.2.trans (hb ▸ (h'.2.confined : Confined b.id _ _))⟩,
        Nat.le_trans hn₁ h'.2.issued⟩)
      fun _ h' => ⟨hw₁.issue h', Nat.le_trans hn₁ h'⟩
  refine .bind (.require _ _) fun _ => ?_
  split
  · exact .bind (.pure _) hjp
  · exact .bind (.throw _) hjp

theorem record_keeps (env : Env) (ref : BillRunRef) (actor : String) (payload : Payload) :
    Keeps Consistent (record env ref actor payload) :=
  .of_within fun _ => record_within env ref actor payload

/-! ## Rebilling an invoice -/

/-- What the checks of a rebill found in `s`: the target the request names, taking changes, and
the invoice, no cancel copy and not copied yet, on a billed bill run other than the target, of
the target's regime, region and ruleset. -/
def Rebill.Checked (s : Store) (ref : BillRunRef) (invoiceId : Uuid) (target : BillRun)
    (rebilled : Invoice) : Prop :=
  s.billRunIn? ref.regimeId ref.billRunId = some target ∧ target.status.editable = true ∧
    s.invoice? invoiceId = some rebilled ∧ rebilled.kind ≠ .cancel ∧
    s.copiesOf rebilled.id = [] ∧ rebilled.billRunId ≠ target.id ∧
    ∃ source, s.billRun? rebilled.billRunId = some source ∧ source.status = .billed ∧
      source.regimeId = target.regimeId ∧ source.region = target.region ∧
      source.ruleset = target.ruleset

theorem check_spec (ref : BillRunRef) (invoiceId : Uuid) :
    Triple (· = s₀) (Rebill.check ref invoiceId)
      (fun r s => s = s₀ ∧ Rebill.Checked s₀ ref invoiceId r.1 r.2) (· = s₀) := by
  unfold Rebill.check
  refine Triple.bind (billRunOf_found ref) fun target => Triple.of_eq fun s h => ?_
  obtain ⟨rfl, htarget⟩ := h
  refine Triple.get_bind ?_
  split
  · rename_i rebilled hinv
    refine Triple.bind Triple.readRow fun r => Triple.of_eq fun s h => ?_
    obtain ⟨hr, rfl⟩ := h
    split
    · rename_i source
      refine Triple.require_bind (fun _ _ h => h) fun hR => ?_
      refine Triple.require_bind (fun _ _ h => h) fun hbilled => ?_
      refine Triple.require_bind (fun _ _ h => h) fun hother => ?_
      refine Triple.require_bind (fun _ _ h => h) fun hkind => ?_
      refine Triple.require_bind (fun _ _ h => h) fun hcopies => ?_
      refine Triple.require_bind (fun _ _ h => h) fun hregion => ?_
      refine Triple.require_bind (fun _ _ h => h) fun hruleset => ?_
      refine Triple.require_bind (fun _ _ h => h) fun hed => ?_
      refine Triple.pure fun _ h => ⟨h, htarget, hed, hinv, by simpa using hkind,
        List.isEmpty_iff.1 hcopies, by simpa using hother, source, hr.symm, by simpa using hbilled,
        by simpa using hR, by simpa using hregion, by simpa using hruleset⟩
    · exact Triple.throw fun _ h => h
  · exact Triple.throw fun _ h => h

theorem insertCopy_spec (inv : Invoice) :
    Triple (· = s₀) (Rebill.insertCopy inv)
      (fun _ s => s = { s₀ with invoices := s₀.invoices ++ [inv] }) (· = s₀) := by
  unfold Rebill.insertCopy Store.insertInvoice
  refine Triple.modifyGet_bind ?_
  split
  · exact Triple.require fun _ e => ⟨nofun, fun _ => e⟩
  · exact Triple.require fun _ e => ⟨fun _ => e, nofun⟩

theorem insertCopies_within {s : Store} {X : Uuid} (hw : Within X s₀ s) (hX : X ∈ s.billRunIds)
    {c₁ c₂ : Invoice} (h₁ : c₁.id = Uuid.ofSerial s.issued) (h₂ : c₂.id = Uuid.ofSerial (s.issued + 1))
    (hX₁ : c₁.billRunId = X) (hX₂ : c₂.billRunId = X) (ht₁ : c₁.tally = 0) (ht₂ : c₂.tally = 0)
    {n : Nat} (hn : n ≤ s.issued) :
    Triple (· = { s with issued := s.issued + 1 + 1 })
      (Store.atomically (Rebill.insertCopy c₁ >>= fun _ => Rebill.insertCopy c₂))
      (fun _ s' => (Within X s₀ s' ∧ n ≤ s'.issued) ∧
        ∀ k ∈ [(c₁.id, c₁.billRunId), (c₂.id, c₂.billRunId)], k ∈ s'.invoiceKeys)
      (fun s' => Within X s₀ s' ∧ n ≤ s'.issued) := by
  refine Triple.atomically fun s₂ e => ?_
  subst e
  have hc := hw.1
  have hw₂ : Within X s₀ { s with issued := s.issued + 1 + 1 } := hw.issue (by omega)
  have hc₃ := hw₂.1.insertInvoice c₁ (h₁ ▸ hc.sound.fresh_invoice (Nat.le_refl _))
    (by simp only [Issued, h₁, Uuid.ofSerial]; omega) (hX₁ ▸ hX) ht₁
  have hfresh₂ : c₂.id ∉ ((s.invoices ++ [c₁]).map fun i => (i.id, i.billRunId)).map (·.1) := by
    intro hmem
    simp only [List.map_append, List.map_map, List.mem_append] at hmem
    rcases hmem with hmem | hmem
    · exact hc.sound.fresh_invoice (Nat.le_succ s.issued) (by
        rw [← h₂]
        simpa [invoiceKeys] using hmem)
    · simp [h₁, h₂, Uuid.ofSerial] at hmem
  have hc₄ := hc₃.insertInvoice c₂ hfresh₂ (by simp only [Issued, h₂, Uuid.ofSerial]; omega)
    (hX₂ ▸ hX) ht₂
  have hn₂ : n ≤ s.issued + 1 + 1 := by omega
  refine (Triple.bind ((insertCopy_spec c₁).mono (fun _ h => h) (fun _ _ h => h)
    fun _ e => congrArg Store.issued e) fun _ => Triple.of_eq fun s₃ e => ?_).mono
    (fun _ h => h) (fun _ _ h => h) fun _ h => ⟨hw₂.issue (Nat.le_of_eq h.symm), h ▸ hn₂⟩
  subst e
  refine (insertCopy_spec c₂).mono (fun _ h => h) (fun _ s' e => ?_) fun _ e => by
    subst e
    rfl
  subst e
  refine ⟨⟨⟨hc₄, hw₂.2.trans ((hX₁ ▸ confined_insertInvoice c₁).trans
    (hX₂ ▸ confined_insertInvoice c₂))⟩, hn₂⟩, fun k hk => ?_⟩
  simp only [List.mem_cons, List.not_mem_nil, or_false] at hk
  rcases hk with rfl | rfl <;> simp [invoiceKeys]

theorem rebill_within (now : Instant) (ref : BillRunRef) (invoiceId : Uuid) (actor : String)
    (n : Nat) :
    Triple (fun s => Within ref.billRunId s₀ s ∧ n ≤ s.issued) (Rebill.rebill now ref invoiceId actor)
      (fun r s => (Within ref.billRunId s₀ s ∧ n ≤ s.issued) ∧ r.2.2.Ready s ∧
        r.2.2.billRun = ref.billRunId)
      (fun s => Within ref.billRunId s₀ s ∧ n ≤ s.issued) := by
  unfold Rebill.rebill
  refine Triple.of_eq fun s₁ ⟨hw, hn⟩ => Triple.bind ((check_spec ref invoiceId).mono
    (fun _ h => h) (fun _ _ h => h) fun _ e => e ▸ ⟨hw, hn⟩) fun r => ?_
  obtain ⟨target, rebilled⟩ := r
  refine Triple.of_eq fun s h => ?_
  obtain ⟨rfl, htarget, -⟩ := h
  have hid := (id_of_billRunIn? htarget).1
  have hX : ref.billRunId ∈ s.billRunIds :=
    hid ▸ List.mem_map_of_mem (List.mem_of_find?_eq_some htarget)
  refine Triple.fresh_bind (Triple.fresh_bind ?_)
  exact Triple.bind (insertCopies_within hw hX rfl rfl hid hid rfl rfl hn) fun _ =>
    Triple.pure fun _ h => ⟨h.1, h.2, hid⟩

theorem copyLines_within (now : Instant) (rebilled : Invoice) (target cancelId rebillId : Uuid)
    (actor : String) :
    Keeps (fun s => Within target s₀ s ∧
        ∀ k ∈ [(cancelId, target), (rebillId, target)], k ∈ s.invoiceKeys)
      (Rebill.copyLines now rebilled target cancelId rebillId actor) := by
  unfold Rebill.copyLines
  refine .atomically (.bind (.of_keeps .get) fun _ => .forM fun _ _ => .bind (.of_keeps .get)
    fun _ => .forM fun t _ => .forM fun dest hdest => fresh_post_within now
      (fun id => Rebill.duplicate id t target dest.2 actor) _ _ (fun _ => rfl) (fun _ => rfl)
      fun I e => ?_) fun _ _ h hm => ⟨h.1.issue hm, h.2⟩
  cases e
  simp only [List.mem_cons, List.not_mem_nil, or_false] at hdest
  rcases hdest with rfl | rfl <;> simp

/-! ## Requests that leave work -/

theorem send_ready (now : Instant) (ref : BillRunRef) :
    Triple (fun _ => True) (BillRun.send now ref)
      (fun task s => task.Ready s ∧ task.billRun = ref.billRunId) (fun _ => True) :=
  .bind (.always _) fun _ => .bind (.always _) fun _ => .bind (.always _) fun _ =>
    .pure fun _ _ => ⟨True.intro, rfl⟩

theorem deleteLicence_ready (ref : BillRunRef) (licence : Uuid) :
    Triple (fun _ => True) (Deletion.deleteLicence ref licence)
      (fun task s => task.Ready s ∧ task.billRun = ref.billRunId) (fun _ => True) :=
  .bind (.always _) fun _ => .bind (.always _) fun _ => .bind (.always _) fun _ =>
    .pure fun _ _ => ⟨True.intro, rfl⟩

theorem deleteInvoice_ready (ref : BillRunRef) (invoice : Uuid) :
    Triple (fun _ => True) (Deletion.deleteInvoice ref invoice)
      (fun task s => task.Ready s ∧ task.billRun = ref.billRunId) (fun _ => True) :=
  .bind (.always _) fun _ => .bind (.always _) fun _ => .bind (.always _) fun _ =>
    .pure fun _ _ => ⟨True.intro, rfl⟩

theorem editableBillRun_keeps {I : Store → Prop} (ref : BillRunRef) :
    Keeps I (Deletion.editableBillRun ref) :=
  .bind (billRunOf_keeps ref) fun _ => .bind (.require _ _) fun _ => .pure _

theorem deleteLicence_keeps {I : Store → Prop} (ref : BillRunRef) (licence : Uuid) :
    Keeps I (Deletion.deleteLicence ref licence) :=
  .bind (editableBillRun_keeps ref) fun _ => .bind .get fun _ => .bind (.require _ _) fun _ =>
    .pure _

theorem deleteInvoice_keeps {I : Store → Prop} (ref : BillRunRef) (invoice : Uuid) :
    Keeps I (Deletion.deleteInvoice ref invoice) :=
  .bind (editableBillRun_keeps ref) fun _ => .bind .get fun _ => .bind (.require _ _) fun _ =>
    .pure _

theorem leaves_ready {x : Op Task} {X : Uuid} (hk : Keeps Consistent x)
    (hr : Triple (fun _ => True) x (fun task s => task.Ready s ∧ task.billRun = X) (fun _ => True)) :
    Triple Consistent (x >>= fun task => pure (some task))
      (fun task s => s.Consistent ∧ ∀ t : Task, task = some t → t.Ready s) Consistent :=
  Triple.bind (hk.triple.conj hr |>.mono (fun _ h => ⟨h, True.intro⟩) (fun _ _ h => h)
    fun _ h => h.1) fun _ => Triple.pure fun _ h => ⟨h.1, fun _ e => Option.some.inj e ▸ h.2.1⟩

theorem leaves_none {α : Type} {x : Op α} (hk : Keeps Consistent x) :
    Triple Consistent (x >>= fun _ => pure none)
      (fun task s => s.Consistent ∧ ∀ t : Task, task = some t → t.Ready s) Consistent :=
  Triple.bind hk.triple fun _ => Triple.pure fun _ h => ⟨h, fun _ e => nomatch e⟩

/-! ## One request after another -/

theorem run_spec (env : Env) (r : Request) :
    Triple Consistent (r.run env)
      (fun task s => s.Consistent ∧ ∀ t : Task, task = some t → t.Ready s) Consistent := by
  cases r <;> simp only [Request.run]
  case create slug actor region ruleset =>
    exact .bind (regimeNamed_keeps slug).triple fun r =>
      leaves_none (create_keeps env.now r.id r.slug actor region ruleset)
  case record slug id actor p =>
    exact .bind (refIn_keeps slug id).triple fun _ => leaves_none (record_keeps _ _ _ _)
  case generate slug id =>
    exact .bind (refIn_keeps slug id).triple fun _ => leaves_none (generate_keeps _ _)
  case approve slug id =>
    exact .bind (refIn_keeps slug id).triple fun _ => leaves_none (approve_keeps _ _)
  case send slug id =>
    exact .bind (refIn_keeps slug id).triple fun _ => leaves_ready (send_keeps _ _) (send_ready _ _)
  case delete slug id =>
    exact .bind (refIn_keeps slug id).triple fun _ => leaves_none (delete_keeps _ _)
  case deleteLicence slug id licence =>
    exact .bind (refIn_keeps slug id).triple fun _ =>
      leaves_ready (deleteLicence_keeps _ _) (deleteLicence_ready _ _)
  case deleteInvoice slug id invoice =>
    exact .bind (refIn_keeps slug id).triple fun _ =>
      leaves_ready (deleteInvoice_keeps _ _) (deleteInvoice_ready _ _)
  case rebill slug id invoice actor =>
    refine .bind (refIn_keeps slug id).triple fun _ => Triple.of_eq fun s₀ hs => ?_
    refine Triple.bind ((rebill_within _ _ _ _ 0).mono
      (by rintro _ rfl; exact ⟨Within.refl hs _, Nat.zero_le _⟩) (fun _ _ h => h) fun _ h => h.1.1)
      fun r => ?_
    obtain ⟨_, _, task⟩ := r
    exact Triple.pure fun _ h => ⟨h.1.1.1, fun _ e => Option.some.inj e ▸ h.2.1⟩
  case recover threshold batch => exact leaves_none (recover_keeps _ _ _)

theorem Task.run_within (env : Env) (task : Task) :
    Triple (fun s => Within task.billRun s₀ s ∧ task.Ready s) (task.run env)
      (fun _ => Within task.billRun s₀) (Within task.billRun s₀) := by
  cases task with
  | transmit ref =>
    exact (transmit_within env ref).triple.mono (fun _ h => h.1) (fun _ _ h => h) fun _ h => h
  | copyInvoice rebilled target cancelId rebillId actor =>
    exact ((Keeps.bind (copyLines_within _ _ _ _ _ _) fun _ => .pure _) 0).mono
      (fun _ h => ⟨h, Nat.zero_le _⟩) (fun _ _ h => h.1.1) fun _ h => h.1.1
  | removeLicence ref prior licence =>
    exact (Keeps.bind (cascade_within env ref prior (removeLicence_removal _ _ _)) fun _ =>
      .pure _).triple.mono (fun _ h => h.1) (fun _ _ h => h) fun _ h => h
  | removeInvoice ref prior invoice =>
    exact (Keeps.bind (cascade_within env ref prior (removeInvoice_removal _ _ _)) fun _ =>
      .pure _).triple.mono (fun _ h => h.1) (fun _ _ h => h) fun _ h => h

theorem Task.run_spec (env : Env) (task : Task) :
    Triple (fun s => s.Consistent ∧ task.Ready s) (task.run env) (fun _ s => s.Consistent)
      (fun s => s.Consistent) :=
  Triple.of_eq fun _ hs => (Task.run_within env task).mono
    (by rintro _ rfl; exact ⟨Within.refl hs.1 _, hs.2⟩) (fun _ _ h => h.1) fun _ h => h.1

/-- One request, with the work it leaves, keeps the ledger consistent. -/
theorem step_consistent (env : Env) (r : Request) {s : Store} (h : s.Consistent) :
    (Request.step env r s).Consistent := by
  have hrun := (run_spec env r).apply h
  unfold Request.step
  revert hrun
  cases r.run env s with
  | ok res s' =>
    intro hrun
    cases res with
    | none => exact hrun.1
    | some task =>
      dsimp only
      have hwork := (Task.run_spec env task).apply ⟨hrun.1, hrun.2 task rfl⟩
      unfold Task.perform
      revert hwork
      cases task.run env s' <;> exact id
  | error e s' => exact id

/-- Every store that requests lead to from a seeded store is consistent. -/
theorem Reachable.consistent {ok : Env → Prop} {s : Store} (h : Reachable ok s) :
    s.Consistent := by
  induction h with
  | seeded t => exact Consistent.seeded t
  | step env r _ _ ih => exact step_consistent env r ih

/-- A store reached in surroundings that `ok` allows is reached in any that allow more. -/
theorem Reachable.mono {ok ok' : Env → Prop} (hok : ∀ env, ok env → ok' env) {s : Store}
    (h : Reachable ok s) : Reachable ok' s := by
  induction h with
  | seeded t => exact .seeded t
  | step env r henv _ ih => exact .step env r (hok env henv) ih

end ChargeLedger
