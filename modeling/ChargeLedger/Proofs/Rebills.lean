import ChargeLedger.Proofs.Billed
import ChargeLedger.Proofs.Lineage

/-!
# Copies name billed invoices

A rebill puts two copies of an invoice of a billed bill run onto another bill run: a cancel copy
and a rebill copy, both naming the invoice. `Store.RebillGraph` is what that leaves in the
ledger. Primary invoices name nothing. Every copy names an invoice that is no cancel copy, bills
the copy's customer for the copy's year, and lies on another bill run, billed, of the regime,
region and ruleset of the copy's bill run. An invoice has at most one copy of each kind, and its
copies share one bill run.

The graph holds in every reachable store. The checks of a rebill vouch for the copies it adds;
every other request keeps what invoices are (`Lineage`) and leaves billed bill runs alone
(`step_keeps_billed`), so the invoice a copy names and the bill run it is on stay.
-/

set_option autoImplicit false

namespace ChargeLedger

open Op Store

namespace Store

/-- `i` rightly copies `x`. -/
def CopyOf (s : Store) (i x : Invoice) : Prop :=
  x.kind ≠ .cancel ∧ x.customerReference = i.customerReference ∧
    x.financialYear = i.financialYear ∧ x.billRunId ≠ i.billRunId ∧
    ∃ bx ∈ s.billRuns, bx.id = x.billRunId ∧ bx.status = .billed ∧
      ∃ bi ∈ s.billRuns, bi.id = i.billRunId ∧ bi.regimeId = bx.regimeId ∧
        bi.region = bx.region ∧ bi.ruleset = bx.ruleset

/-- How the invoices of a store copy one another. -/
structure RebillGraph (s : Store) : Prop where
  primary : ∀ i ∈ s.invoices, i.kind = .primary → i.rebilledInvoiceId = none
  copies : ∀ i ∈ s.invoices, i.kind ≠ .primary →
    ∃ x ∈ s.invoices, i.rebilledInvoiceId = some x.id ∧ s.CopyOf i x
  once : ∀ i ∈ s.invoices, ∀ j ∈ s.invoices, ∀ x, i.rebilledInvoiceId = some x →
    j.rebilledInvoiceId = some x → i.billRunId = j.billRunId ∧ (i.kind = j.kind → i = j)

/-- Every billed bill run of `s` is still in `s'`, with every invoice it had. -/
def KeepsBilled (s s' : Store) : Prop :=
  ∀ b ∈ s.billRuns, b.status = .billed →
    b ∈ s'.billRuns ∧ ∀ x ∈ s.invoices, x.billRunId = b.id → x ∈ s'.invoices

variable {s s' : Store}

theorem Invoice.lineage_eq {i j : Invoice} (e : i.lineage = j.lineage) :
    i.id = j.id ∧ i.billRunId = j.billRunId ∧ i.customerReference = j.customerReference ∧
      i.financialYear = j.financialYear ∧ i.kind = j.kind ∧
      i.rebilledInvoiceId = j.rebilledInvoiceId := by
  simpa [Invoice.lineage] using e

theorem Sound.invoice_eq (hs : s.Sound) {i j : Invoice} (hi : i ∈ s.invoices)
    (hj : j ∈ s.invoices) (e : i.id = j.id) : i = j := by
  have hnd := hs.invoices_nodup
  rw [invoiceKeys, List.map_map] at hnd
  exact List.inj_on_of_nodup_map hnd hi hj e

theorem copiesOf_eq_nil {I : Uuid} (h : s.copiesOf I = []) :
    ∀ j ∈ s.invoices, j.rebilledInvoiceId ≠ some I := by
  intro j hj hre
  have hlen := congrArg List.length h
  rw [copiesOf, sortBy, List.length_mergeSort, List.length_nil, List.length_eq_zero_iff,
    List.filter_eq_nil_iff] at hlen
  simp at hlen
  exact hlen j hj hre

theorem Lineage.place_of_id (hl : Lineage s s') (hs : s.Sound) {b b' : BillRun}
    (hb : b ∈ s.billRuns) (hb' : b' ∈ s'.billRuns) (hid : b'.id = b.id) : b'.place = b.place := by
  rcases hl.billRuns b' hb' with ⟨b₀, hb₀, e⟩ | hnew
  · -- identifiers tell the bill runs of `s` apart
    have hid₀ : b₀.id = b.id := (congrArg Prod.fst e).trans hid
    have hrow : b₀ = b := Option.some.inj
      ((hs.billRun?_of_mem hb₀).symm.trans (hid₀ ▸ hs.billRun?_of_mem hb))
    rw [← e, hrow]
  · exact absurd (hid ▸ List.mem_map_of_mem hb) hnew

theorem KeepsBilled.of_part
    (h : ∀ b ∈ s.billRuns, b.status = .billed → s'.part b.id = s.part b.id) :
    KeepsBilled s s' := by
  intro b hb hbill
  have hp := h b hb hbill
  refine ⟨?_, fun x hx hxb => ?_⟩
  · have hmem : b ∈ (s.part b.id).billRuns := by simp [part, hb]
    rw [← hp] at hmem
    simp only [part, List.mem_filter] at hmem
    exact hmem.1
  · have hmem : x ∈ (s.part b.id).invoices := by simp [part, hx, hxb]
    rw [← hp] at hmem
    simp only [part, List.mem_filter] at hmem
    exact hmem.1

theorem KeepsBilled.of_confined {X : Uuid} (h : Confined X s s')
    (hX : ∀ b ∈ s.billRuns, b.id = X → b.status ≠ .billed) : KeepsBilled s s' :=
  of_part fun b hb hbill => (h b.id fun e => hX b hb e hbill).symm

theorem CopyOf.congr {i x : Invoice} (h : s.CopyOf i x) (hb : s'.billRuns = s.billRuns) :
    s'.CopyOf i x := by
  rwa [CopyOf, hb]

theorem CopyOf.of_lineage {i i' x : Invoice} (h : s.CopyOf i x) (hs : s.Sound) (hs' : s'.Sound)
    (hl : Lineage s s') (hk : KeepsBilled s s') (hi' : i' ∈ s'.invoices)
    (e : i.lineage = i'.lineage) : s'.CopyOf i' x := by
  obtain ⟨hxk, hxc, hxy, hxb, bx, hbx, hbxid, hbxst, bi, hbi, hbiid, hreg, hrgn, hrs⟩ := h
  obtain ⟨-, hbr, hcu, hyr, -, -⟩ := Invoice.lineage_eq e
  obtain ⟨bi', hbi', hbi'id⟩ : ∃ bi' ∈ s'.billRuns, bi'.id = i'.billRunId := by
    have hk' := hs'.invoice_parent (i'.id, i'.billRunId) (List.mem_map_of_mem hi')
    simpa [billRunIds] using hk'
  have hplace := hl.place_of_id hs hbi hbi' (hbi'id.trans (hbr.symm.trans hbiid.symm))
  simp only [BillRun.place, Prod.mk.injEq] at hplace
  exact ⟨hxk, hxc.trans hcu, hxy.trans hyr, hbr ▸ hxb, bx, (hk bx hbx hbxst).1, hbxid, hbxst,
    bi', hbi', hbi'id, hplace.2.1.trans hreg, hplace.2.2.1.trans hrgn, hplace.2.2.2.trans hrs⟩

theorem RebillGraph.of_invoices_nil (h : s.invoices = []) : s.RebillGraph := by
  refine ⟨?_, ?_, ?_⟩ <;> simp [h]

theorem RebillGraph.congr (h : s.RebillGraph) (hb : s'.billRuns = s.billRuns)
    (hi : s'.invoices = s.invoices) : s'.RebillGraph := by
  obtain ⟨hp, hc, ho⟩ := h
  refine ⟨?_, ?_, ?_⟩ <;> rw [hi]
  · exact hp
  · exact fun i hi' hk => (hc i hi' hk).imp fun _ ⟨hx, hre, hcx⟩ => ⟨hx, hre, hcx.congr hb⟩
  · exact ho

theorem RebillGraph.of_lineage (h : s.RebillGraph) (hs : s.Sound) (hs' : s'.Sound)
    (hl : Lineage s s') (hk : KeepsBilled s s') : s'.RebillGraph where
  primary i' hi' hp := by
    rcases hl.invoices i' hi' with ⟨i, hi, e⟩ | ⟨-, hnone⟩
    · obtain ⟨-, -, -, -, hkind, hre⟩ := Invoice.lineage_eq e
      rw [← hre]
      exact h.primary i hi (hkind.trans hp)
    · exact hnone
  copies i' hi' hcopy := by
    -- a copy is no new invoice, so it was there before, naming what it names now
    obtain ⟨i, hi, e⟩ := (hl.invoices i' hi').resolve_right fun hn => hcopy hn.1
    obtain ⟨-, -, -, -, hkind, hre⟩ := Invoice.lineage_eq e
    obtain ⟨x, hx, hix, hcx⟩ := h.copies i hi (hkind ▸ hcopy)
    obtain ⟨bx, hbx, hbxid, hbxst, -⟩ := hcx.2.2.2.2
    exact ⟨x, ((hk bx hbx hbxst).2 x hx hbxid.symm), hre ▸ hix,
      hcx.of_lineage hs hs' hl hk hi' e⟩
  once i' hi' j' hj' x hix hjx := by
    obtain ⟨i, hi, ei⟩ := (hl.invoices i' hi').resolve_right fun hn => by simp [hn.2] at hix
    obtain ⟨j, hj, ej⟩ := (hl.invoices j' hj').resolve_right fun hn => by simp [hn.2] at hjx
    obtain ⟨hiid, hibr, -, -, hik, hire⟩ := Invoice.lineage_eq ei
    obtain ⟨hjid, hjbr, -, -, hjk, hjre⟩ := Invoice.lineage_eq ej
    obtain ⟨hbr, hkind⟩ := h.once i hi j hj x (hire.trans hix) (hjre.trans hjx)
    refine ⟨hibr.symm.trans (hbr.trans hjbr), fun hk' => hs'.invoice_eq hi' hj' ?_⟩
    rw [← hiid, ← hjid, hkind (hik.trans (hk'.trans hjk.symm))]

theorem RebillGraph.rebill (h : s.RebillGraph) {ref : BillRunRef}
    {invoiceId : Uuid} {target : BillRun} {rebilled : Invoice}
    (hchk : Rebill.Checked s ref invoiceId target rebilled) (c r : Uuid) (now : Instant)
    (hb : s'.billRuns = s.billRuns)
    (hi : s'.invoices = s.invoices ++ [Rebill.copy c rebilled target.id .cancel now,
      Rebill.copy r rebilled target.id .rebill now]) : s'.RebillGraph := by
  obtain ⟨htarget, -, hinv, hkind, hcopies, hother, source, hsrc, hbilled, hreg, hrgn, hrs⟩ := hchk
  have hfresh := copiesOf_eq_nil hcopies
  have hcopy : ∀ d k, s'.CopyOf (Rebill.copy d rebilled target.id k now) rebilled :=
    fun _ _ => ⟨hkind, rfl, rfl, hother, source, hb ▸ List.mem_of_find?_eq_some hsrc,
      id_of_billRun? hsrc, hbilled, target, hb ▸ List.mem_of_find?_eq_some htarget,
      rfl, hreg.symm, hrgn.symm, hrs.symm⟩
  have hx : rebilled ∈ s'.invoices := hi ▸ List.mem_append_left _ (List.mem_of_find?_eq_some hinv)
  refine ⟨fun i hi' hp => ?_, fun i hi' hk => ?_, fun i hi' j hj' x hix hjx => ?_⟩ <;>
    rw [hi, List.mem_append] at hi'
  · rcases hi' with hi' | hi'
    · exact h.primary i hi' hp
    · simp only [List.mem_cons, List.not_mem_nil, or_false] at hi'
      rcases hi' with rfl | rfl <;> cases hp
  · rcases hi' with hi' | hi'
    · obtain ⟨x, hx, hre, hcx⟩ := h.copies i hi' hk
      exact ⟨x, hi ▸ List.mem_append_left _ hx, hre, hcx.congr hb⟩
    · simp only [List.mem_cons, List.not_mem_nil, or_false] at hi'
      rcases hi' with rfl | rfl <;> exact ⟨rebilled, hx, rfl, hcopy _ _⟩
  · rw [hi, List.mem_append] at hj'
    -- an invoice named by a new copy had no copies, so no old invoice names it
    have hnew : ∀ k ∈ [Rebill.copy c rebilled target.id .cancel now,
        Rebill.copy r rebilled target.id .rebill now], k.rebilledInvoiceId = some rebilled.id := by
      simp [Rebill.copy]
    rcases hi' with hi' | hi' <;> rcases hj' with hj' | hj'
    · exact h.once i hi' j hj' x hix hjx
    · exact absurd (hix.trans ((hnew j hj').symm.trans hjx).symm) (hfresh i hi')
    · exact absurd (hjx.trans ((hnew i hi').symm.trans hix).symm) (hfresh j hj')
    · simp only [List.mem_cons, List.not_mem_nil, or_false] at hi' hj'
      rcases hi' with rfl | rfl <;> rcases hj' with rfl | rfl <;> simp [Rebill.copy]

end Store

variable {s₀ : Store}

theorem rebill_spec (now : Instant) (ref : BillRunRef) (invoiceId : Uuid) (actor : String) :
    Triple (· = s₀) (Rebill.rebill now ref invoiceId actor)
      (fun r s => ∃ target rebilled, Rebill.Checked s₀ ref invoiceId target rebilled ∧
        r.1 = Rebill.copy (Uuid.ofSerial s₀.issued) rebilled target.id .cancel now ∧
        r.2.1 = Rebill.copy (Uuid.ofSerial (s₀.issued + 1)) rebilled target.id .rebill now ∧
        s.billRuns = s₀.billRuns ∧ s.invoices = s₀.invoices ++ [r.1, r.2.1])
      (fun s => s.billRuns = s₀.billRuns ∧ s.invoices = s₀.invoices) := by
  unfold Rebill.rebill
  refine Triple.bind ((check_spec ref invoiceId).mono (fun _ h => h) (fun _ _ h => h)
    fun _ e => by rw [e]; exact ⟨rfl, rfl⟩) fun res => Triple.of_eq fun s h => ?_
  obtain ⟨target, rebilled⟩ := res
  obtain ⟨e, hchk⟩ := h
  subst s
  refine Triple.fresh_bind (Triple.fresh_bind (Triple.bind (Triple.atomically
    (Q := fun _ s => s.billRuns = s₀.billRuns ∧ s.invoices = s₀.invoices ++
      [Rebill.copy (Uuid.ofSerial s₀.issued) rebilled target.id .cancel now,
        Rebill.copy (Uuid.ofSerial (s₀.issued + 1)) rebilled target.id .rebill now])
    fun _ e => ?_) fun _ => Triple.pure fun _ h => ⟨target, rebilled, hchk, rfl, rfl, h⟩))
  subst e
  refine Triple.bind ((insertCopy_spec _).mono (fun _ h => h) (fun _ _ h => h)
    fun _ _ => ⟨rfl, rfl⟩) fun _ => Triple.of_eq fun _ h => ?_
  subst h
  exact (insertCopy_spec _).mono (fun _ h => h)
    (fun _ _ h => by subst h; exact ⟨rfl, List.append_assoc _ _ _⟩) fun _ _ => ⟨rfl, rfl⟩

section Step

variable (env : Env) (hc : s₀.Consistent)

theorem Request.finishes_of_keeps {I : Store → Prop} {x : Op (Option Task)} (h₀ : I s₀)
    (hx : Keeps I x) (hw : ∀ t : Task, Keeps I (t.run env)) :
    Triple (· = s₀) x (Request.Finishes env I) I :=
  hx.triple.mono (fun _ e => e ▸ h₀) (fun task _ h => by
    cases task with
    | none => exact h
    | some t => exact (hw t).triple.mono (fun _ e => e ▸ h) (fun _ _ h => h) fun _ h => h)
    fun _ h => h

include hc in
theorem run_lineage (r : Request) (hr : ∀ slug X invoice actor, r ≠ .rebill slug X invoice actor) :
    Triple (· = s₀) (r.run env) (Request.Finishes env (Lineage s₀)) (Lineage s₀) := by
  have h₀ := Lineage.refl s₀
  cases r <;> simp only [Request.run]
  case create slug actor region ruleset =>
    refine Triple.bind ((regimeNamed_spec slug).mono (fun _ h => h) (fun _ _ h => h)
      fun _ e => e ▸ h₀) fun reg => Triple.of_eq fun _ e => ?_
    subst e
    refine Triple.bind ((create_spec _ _ _ _ _ _).mono (fun _ h => h) (fun b s h => ?_)
      fun _ e => e ▸ h₀) fun _ => Triple.pure fun _ h => h
    obtain ⟨rfl, hid, -⟩ := h
    refine ⟨fun b' hb' => ?_, fun i hi => Or.inl ⟨i, hi, rfl⟩⟩
    rcases List.mem_append.1 hb' with hb' | hb'
    · exact Or.inl ⟨b', hb', rfl⟩
    · -- the new bill run's identifier was not handed out before
      rw [List.mem_singleton.1 hb']
      exact Or.inr fun hmem => (hc.sound.billRuns_issued _ hmem).ne_ofSerial hid
  case record slug X actor p =>
    exact Request.finishes_of_keeps env h₀ (.bind (refIn_keeps _ _) fun _ =>
      .bind (record_lineage _ _ _ _) fun _ => .pure _) (work_lineage env)
  case generate slug X =>
    exact Request.finishes_of_keeps env h₀ (.bind (refIn_keeps _ _) fun _ =>
      .bind (generate_lineage _ _) fun _ => .pure _) (work_lineage env)
  case approve slug X =>
    exact Request.finishes_of_keeps env h₀ (.bind (refIn_keeps _ _) fun _ =>
      .bind (approve_lineage _ _) fun _ => .pure _) (work_lineage env)
  case send slug X =>
    exact Request.finishes_of_keeps env h₀ (.bind (refIn_keeps _ _) fun _ =>
      .bind (send_lineage _ _) fun _ => .pure _) (work_lineage env)
  case delete slug X =>
    exact Request.finishes_of_keeps env h₀ (.bind (refIn_keeps _ _) fun _ =>
      .bind (delete_lineage _ _) fun _ => .pure _) (work_lineage env)
  case deleteLicence slug X licence =>
    exact Request.finishes_of_keeps env h₀ (.bind (refIn_keeps _ _) fun _ =>
      .bind (deleteLicence_keeps _ _) fun _ => .pure _) (work_lineage env)
  case deleteInvoice slug X invoice =>
    exact Request.finishes_of_keeps env h₀ (.bind (refIn_keeps _ _) fun _ =>
      .bind (deleteInvoice_keeps _ _) fun _ => .pure _) (work_lineage env)
  case rebill slug X invoice actor => exact absurd rfl (hr slug X invoice actor)
  case recover threshold batch =>
    exact Request.finishes_of_keeps env h₀ (.bind (recover_lineage _ _ _) fun _ => .pure _)
      (work_lineage env)

include hc in
theorem rebill_run_graph (h₀ : s₀.RebillGraph) (slug : String) (X invoice : Uuid)
    (actor : String) :
    Triple (· = s₀) ((Request.rebill slug X invoice actor).run env)
      (Request.Finishes env RebillGraph) RebillGraph := by
  refine Triple.bind ((refIn_billRun slug X).mono (fun _ h => h) (fun _ _ h => h)
    fun _ e => by rw [e]; exact h₀) fun ref => Triple.of_eq fun _ hs => ?_
  rw [hs.1]
  obtain ⟨-, hX⟩ := hs
  subst hX
  have hwithin := (@rebill_within s₀ env.now ref invoice actor 0).mono
    (fun s (e : s = s₀) => ⟨by rw [e]; exact Within.refl hc _, Nat.zero_le _⟩) (fun _ _ h => h)
    fun _ h => h
  refine Triple.bind (((rebill_spec env.now ref invoice actor).conj hwithin).mono
    (fun _ e => ⟨e, e⟩) (fun _ _ h => h) fun _ h => h₀.congr h.1.1 h.1.2)
    fun res => Triple.of_eq fun s₁ h => ?_
  obtain ⟨cancel, again, task⟩ := res
  obtain ⟨⟨target, rebilled, hchk, hc₁, hc₂, hb, hi⟩, ⟨hw, -⟩, hready, htask⟩ := h
  simp only at hc₁ hc₂ hi hready htask
  subst hc₁ hc₂
  have hg₁ : s₁.RebillGraph := h₀.rebill hchk _ _ env.now hb hi
  have hnot : ∀ b ∈ s₁.billRuns, b.id = ref.billRunId → b.status ≠ .billed := by
    intro b hb' hid hbill
    rw [hb] at hb'
    have hrow : b = target := Option.some.inj ((hc.sound.billRun?_of_mem hb').symm.trans
      (hid ▸ hc.sound.billRun?_of_billRunIn? hchk.1))
    rw [hrow] at hbill
    exact absurd (hbill ▸ hchk.2.1) (by decide)
  refine Triple.pure fun s e => ?_
  subst s
  show Triple (· = s₁) (task.run env) (fun _ => RebillGraph) RebillGraph
  have hend : ∀ s, Lineage s₁ s ∧ Within task.billRun s₁ s → s.RebillGraph := fun s h =>
    hg₁.of_lineage hw.1.sound h.2.1.sound h.1
      (KeepsBilled.of_confined (htask ▸ h.2.2) hnot)
  exact ((work_lineage env task).triple.conj (Task.run_within env task)).mono
    (fun _ e => by rw [e]; exact ⟨Lineage.refl _, Within.refl hw.1 _, hready⟩)
    (fun _ s h => hend s h) hend

include hc in
theorem Store.RebillGraph.step (h₀ : s₀.RebillGraph) (r : Request) : (r.step env s₀).RebillGraph := by
  by_cases hreb : ∃ slug X invoice actor, r = .rebill slug X invoice actor
  · obtain ⟨slug, X, invoice, actor, rfl⟩ := hreb
    exact Request.step_of env _ (rebill_run_graph env hc h₀ slug X invoice actor)
  · have hl := Request.step_of env r (run_lineage env hc r fun slug X invoice actor e =>
      hreb ⟨slug, X, invoice, actor, e⟩)
    refine h₀.of_lineage hc.sound (step_consistent env r hc).sound hl
      (KeepsBilled.of_part fun b hb hbill => step_keeps_billed env hc r ?_)
    rw [statusOf, hc.sound.billRun?_of_mem hb, Option.map_some, hbill]

end Step

/-- In every reachable store, whatever the surroundings: primary invoices copy nothing; every
cancel or rebill copy names an invoice that is no cancel copy, of the copy's customer and year,
on another bill run, billed, of the regime, region and ruleset of the copy's bill run; and an
invoice has at most one copy of each kind, with its copies on one bill run. -/
theorem Reachable.rebillGraph {ok : Env → Prop} {s : Store} (h : Reachable ok s) :
    s.RebillGraph := by
  induction h with
  | seeded t => exact RebillGraph.of_invoices_nil rfl
  | step env r _ hs ih => exact ih.step env hs.consistent r

theorem rebillGraph_after_create :
    Reachable (fun _ => True)
      (Request.step { now := ⟨0⟩ } (.create "wrls" "system" "A" "sroc") (Store.seeded ⟨0⟩)) ∧
    (Request.step { now := ⟨0⟩ } (.create "wrls" "system" "A" "sroc")
      (Store.seeded ⟨0⟩)).RebillGraph :=
  have h := @Reachable.step (fun _ => True) _ { now := ⟨0⟩ } (.create "wrls" "system" "A" "sroc")
    trivial (Reachable.seeded ⟨0⟩)
  ⟨h, Reachable.rebillGraph h⟩

end ChargeLedger
