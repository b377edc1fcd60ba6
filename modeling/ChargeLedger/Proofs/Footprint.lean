import ChargeLedger.Proofs.Requests

/-!
# Each request changes one bill run

A request is about one bill run: the one it names, or the one it makes. Whatever it writes,
and whatever the work it leaves writes after it, lies in that bill run's part: every other bill
run keeps its row, its invoices, licences and lines (`Store.Confined`).

Writes go by identifier. A change confined to `X` since a sound store keeps on `X` every
invoice, licence and line that was on `X` there (`Confined.invoice_on` and its kin), so an
identifier read from a sound store still names rows of `X` when it is written to, however much
of `X` changed in between. The frames below are stated from a store pinned at the start of a
block, where the block's reads are made.
-/

set_option autoImplicit false

namespace ChargeLedger

namespace Store

variable {s₀ s s' : Store} {X B : Uuid}

/-! ## Statuses off the changed bill run -/

theorem billRun?_eq_part (s : Store) (B : Uuid) : s.billRun? B = (s.part B).billRuns.head? := by
  simp [billRun?, part]

theorem statusOf_of_part (hp : s'.part B = s.part B) : s'.statusOf B = s.statusOf B := by
  rw [statusOf, statusOf, billRun?_eq_part, billRun?_eq_part, hp]

theorem Confined.statusOf (h : Confined X s s') (hB : B ≠ X) : s'.statusOf B = s.statusOf B :=
  statusOf_of_part (h B hB).symm

theorem staleIn_nil (h : ∀ b ∈ s.billRuns, b.status ≠ .generating) (cutoff : Instant)
    (limit : Nat) : s.staleIn .generating cutoff limit = [] := by
  have hnone : s.billRuns.filter (fun b => b.status == .generating &&
      decide (b.updatedAt.storedText < cutoff.storedText)) = [] :=
    List.filter_eq_nil_iff.2 fun b hb => by simp [h b hb]
  unfold staleIn
  rw [hnone, sortBy, List.mergeSort_nil, List.take_nil]

end Store

open Op Store

variable {s₀ : Store}

/-! ## Requests that make a bill run or touch none -/

theorem create_spec (now : Instant) (regimeId : Uuid) (slug actor region ruleset : String) :
    Triple (· = s₀) (BillRun.create now regimeId slug actor region ruleset)
      (fun b s => s = { s₀ with issued := s₀.issued + 1, billRuns := s₀.billRuns ++ [b] } ∧
        b.id = Uuid.ofSerial s₀.issued ∧ b.regimeId = regimeId ∧ b.status = .initialised ∧
        b.tally = 0 ∧ b.billRunNumber = none ∧ b.fileReference = none) (· = s₀) := by
  unfold BillRun.create
  extract_lets region' ruleset' issues
  clear_value region' ruleset' issues
  refine Triple.require_bind (fun _ _ h => h) fun _ => ?_
  split
  · refine Triple.get_bind (Triple.bind Triple.readRow fun _ => Triple.of_eq fun s h => ?_)
    obtain ⟨-, rfl⟩ := h
    refine Triple.require_bind (fun _ _ h => h) fun _ =>
      Triple.fresh_bind (Triple.modify_bind (Triple.pure fun _ e => ?_))
    exact ⟨e, rfl, rfl, rfl, rfl, rfl, rfl⟩
  · exact Triple.throw fun _ h => h

theorem create_within (now : Instant) (regimeId : Uuid) (slug actor region ruleset : String)
    (hc : s₀.Consistent) :
    Triple (· = s₀) (BillRun.create now regimeId slug actor region ruleset)
      (fun b s => b.id = Uuid.ofSerial s₀.issued ∧ Within b.id s₀ s) (· = s₀) :=
  (create_spec now regimeId slug actor region ruleset).mono (fun _ h => h)
    (fun _ _ ⟨e, hid, _, _, htally, _⟩ => ⟨hid, e ▸ hc.insertBillRun _ hid htally,
      e ▸ Confined.trans (fun _ _ => rfl) (confined_insertBillRun _)⟩) fun _ h => h

theorem recover_idle (now : Instant) (threshold batch : Int)
    (h : ∀ b ∈ s₀.billRuns, b.status ≠ .generating) :
    Triple (· = s₀) (Recovery.recover now threshold batch) (fun _ s => s = s₀) (fun _ => False) := by
  unfold Recovery.recover
  refine Triple.get_bind ?_
  simp only [staleIn_nil h, List.all_nil, Bool.not_true]
  exact Triple.pure fun _ e => e

/-! ## Requests on the bill run they name -/

def Request.target (s : Store) : Request → Uuid
  | .create .. => Uuid.ofSerial s.issued
  | .record _ X _ _ | .generate _ X | .approve _ X | .send _ X | .delete _ X
  | .deleteLicence _ X _ | .deleteInvoice _ X _ | .rebill _ X _ _ => X
  | .recover .. => Uuid.nil

theorem regimeNamed_spec {P : Store → Prop} (slug : String) :
    Triple P (Request.regimeNamed slug) (fun _ => P) P := by
  refine Triple.of_eq fun s₀ hs => Triple.get_bind ?_
  split
  · exact Triple.pure fun _ e => e ▸ hs
  · exact Triple.throw fun _ e => e ▸ hs

theorem refIn_billRun {P : Store → Prop} (slug : String) (X : Uuid) :
    Triple P (Request.refIn slug X) (fun ref s => P s ∧ ref.billRunId = X) P :=
  Triple.bind (regimeNamed_spec slug) fun _ => Triple.pure fun _ h => ⟨h, rfl⟩

/-- What a request's answer leaves, seen from its start `s₀`: only bill run `X` changed, and the
work left, if any, is ready and writes to `X`. -/
def Answered (s₀ : Store) (X : Uuid) (task : Option Task) (s : Store) : Prop :=
  Within X s₀ s ∧ ∀ t : Task, task = some t → t.Ready s ∧ t.billRun = X

theorem named_leaves_none {α : Type} (slug : String) (X : Uuid) {op : BillRunRef → Op α}
    (h : ∀ ref : BillRunRef, ref.billRunId = X → Keeps (Within X s₀) (op ref)) :
    Triple (Within X s₀) (Request.refIn slug X >>= fun ref => op ref >>= fun _ => pure none)
      (Answered s₀ X) (Within X s₀) :=
  Triple.bind (refIn_billRun slug X) fun ref => Triple.of_eq fun _ hs =>
    Triple.bind ((h ref hs.2).triple.mono (fun _ e => e ▸ hs.1) (fun _ _ h => h) fun _ h => h)
      fun _ => Triple.pure fun _ h => ⟨h, fun _ e => nomatch e⟩

theorem named_leaves_work (slug : String) (X : Uuid) {op : BillRunRef → Op Task}
    (h : ∀ ref : BillRunRef, ref.billRunId = X → Triple (Within X s₀) (op ref)
      (fun task s => Within X s₀ s ∧ task.Ready s ∧ task.billRun = X) (Within X s₀)) :
    Triple (Within X s₀) (Request.refIn slug X >>= fun ref => op ref >>= fun task => pure (some task))
      (Answered s₀ X) (Within X s₀) :=
  Triple.bind (refIn_billRun slug X) fun ref => Triple.of_eq fun _ hs =>
    Triple.bind ((h ref hs.2).mono (fun _ e => e ▸ hs.1) (fun _ _ h => h) fun _ h => h)
      fun _ => Triple.pure fun _ h => ⟨h.1, fun _ e => Option.some.inj e ▸ h.2⟩

theorem Op.Keeps.leaving {X : Uuid} {x : Op Task} (hk : Keeps (Within X s₀) x)
    (hr : Triple (fun _ => True) x (fun task s => task.Ready s ∧ task.billRun = X) (fun _ => True)) :
    Triple (Within X s₀) x (fun task s => Within X s₀ s ∧ task.Ready s ∧ task.billRun = X)
      (Within X s₀) :=
  (hk.triple.conj hr).mono (fun _ h => ⟨h, True.intro⟩) (fun _ _ h => h) fun _ h => h.1

theorem run_within (env : Env) (r : Request) (hc : s₀.Consistent)
    (hgen : ∀ threshold batch, r = .recover threshold batch →
      ∀ b ∈ s₀.billRuns, b.status ≠ .generating) :
    Triple (· = s₀) (r.run env) (Answered s₀ (r.target s₀)) (Within (r.target s₀) s₀) := by
  have hstart : ∀ X, ∀ s, s = s₀ → Within X s₀ s := fun X _ e => e ▸ Within.refl hc X
  cases r <;> simp only [Request.run, Request.target]
  case create slug actor region ruleset =>
    refine Triple.bind ((regimeNamed_spec slug).mono (fun _ h => h) (fun _ _ h => h)
      (hstart _)) fun r => Triple.of_eq fun _ e => ?_
    subst e
    exact Triple.bind ((create_within _ _ _ _ _ _ hc).mono (fun _ h => h) (fun _ _ h => h)
      (hstart _)) fun b => Triple.pure fun _ h => ⟨h.1 ▸ h.2, fun _ e => absurd e.symm (Option.some_ne_none _)⟩
  case record slug X actor p =>
    exact (named_leaves_none slug X fun ref hX => hX ▸ record_within _ _ _ _).mono (hstart X)
      (fun _ _ h => h) fun _ h => h
  case generate slug X =>
    exact (named_leaves_none slug X fun ref hX => hX ▸ generate_within _ _).mono (hstart X)
      (fun _ _ h => h) fun _ h => h
  case approve slug X =>
    exact (named_leaves_none slug X fun ref hX => hX ▸ approve_within _ _).mono (hstart X)
      (fun _ _ h => h) fun _ h => h
  case send slug X =>
    exact (named_leaves_work slug X fun ref hX => hX ▸ (send_within _ _).leaving
      (send_ready _ _)).mono (hstart X) (fun _ _ h => h) fun _ h => h
  case delete slug X =>
    exact (named_leaves_none slug X fun ref hX => hX ▸ delete_within _ _).mono (hstart X)
      (fun _ _ h => h) fun _ h => h
  case deleteLicence slug X licence =>
    exact (named_leaves_work slug X fun ref hX => hX ▸ (deleteLicence_keeps _ _).leaving
      (deleteLicence_ready _ _)).mono (hstart X) (fun _ _ h => h) fun _ h => h
  case deleteInvoice slug X invoice =>
    exact (named_leaves_work slug X fun ref hX => hX ▸ (deleteInvoice_keeps _ _).leaving
      (deleteInvoice_ready _ _)).mono (hstart X) (fun _ _ h => h) fun _ h => h
  case rebill slug X invoice actor =>
    refine Triple.bind ((refIn_billRun slug X).mono (fun _ h => h) (fun _ _ h => h) (hstart X))
      fun ref => Triple.of_eq fun _ hs => ?_
    refine Triple.bind ((rebill_within _ _ _ _ 0).mono
      (fun _ e => ⟨hs.2 ▸ hstart X _ (e.trans hs.1), Nat.zero_le _⟩) (fun _ _ h => h)
      fun _ h => hs.2 ▸ h.1) fun r => ?_
    obtain ⟨_, _, task⟩ := r
    exact Triple.pure fun _ h => ⟨hs.2 ▸ h.1.1, fun _ e => Option.some.inj e ▸ hs.2 ▸ h.2⟩
  case recover threshold batch =>
    exact Triple.bind ((recover_idle _ _ _ (hgen _ _ rfl)).mono (fun _ h => h) (fun _ _ h => h)
      fun _ h => h.elim) fun _ => Triple.pure fun _ e =>
      ⟨hstart _ _ e, fun _ e => absurd e.symm (Option.some_ne_none _)⟩

/-- One request, with the work it leaves, changes nothing but the bill run it is about. -/
theorem step_within (env : Env) (r : Request) {s : Store} (hc : s.Consistent)
    (hgen : ∀ threshold batch, r = .recover threshold batch →
      ∀ b ∈ s.billRuns, b.status ≠ .generating) : Within (r.target s) s (r.step env s) := by
  have hrun := (run_within env r hc hgen).apply rfl
  unfold Request.step
  revert hrun
  cases r.run env s with
  | ok res s' =>
    intro hrun
    cases res with
    | none => exact hrun.1
    | some task =>
      dsimp only
      obtain ⟨hready, hX⟩ := hrun.2 task rfl
      have hwork := (Task.run_within env task).apply ⟨hX ▸ hrun.1, hready⟩
      unfold Task.perform
      revert hwork
      cases task.run env s' <;> exact fun h => hX ▸ h
  | error e s' => exact id

end ChargeLedger
