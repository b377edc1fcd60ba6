import ChargeLedger.Proofs.Grouping
import ChargeLedger.Proofs.Pruning

/-!
# Deleting what was recorded

A deletion takes away a licence with exactly its lines, or an invoice with its licences and
lines, and moves its bill run, and the invoice left behind, by exactly what went
(`Store.LicenceDeletion`, `Store.InvoiceDeletion`). Lines recorded on a licence number new to
a bill run all land on one licence, which held no line before; deleting it leaves the lines as
they were. Every tally is a sum over the lines (`Store.Exact`), so every bill run, invoice and
licence is back at its tally (`Reachable.deletions_remove_subtree`).

A run of recording requests is followed request by request (`RecordedOn`): a request that fails
leaves the lines, invoices and statuses as they were; one that records adds its line on a
primary invoice and leaves the bill run initialised.
-/

set_option autoImplicit false

namespace ChargeLedger

open Op Store

namespace Store

variable {s s' : Store}

theorem statusOf_unstamped (s : Store) (X : Uuid) : s.unstamped.statusOf X = s.statusOf X := by
  unfold statusOf billRun? unstamped
  rw [List.find?_map, Option.map_map]
  rfl

/-- Every bill run, invoice and licence of `s` is in `s'` with the tally it had, and the lines are
as they were. -/
def Restored (s s' : Store) : Prop :=
  s'.transactions = s.transactions ∧
    (∀ b ∈ s.billRuns, ∃ b' ∈ s'.billRuns, b'.id = b.id ∧ b'.tally = b.tally) ∧
    (∀ i ∈ s.invoices, ∃ i' ∈ s'.invoices, i'.id = i.id ∧ i'.tally = i.tally) ∧
    (∀ l ∈ s.licences, ∃ l' ∈ s'.licences, l'.id = l.id ∧ l'.tally = l.tally)

theorem Coherent.restored (hc : s.Consistent) (hs : s.Coherent) (hc' : s'.Consistent)
    (ht : s'.transactions = s.transactions) (hb : ∀ b ∈ s.billRuns, b.id ∈ s'.billRunIds) :
    s.Restored s' := by
  refine ⟨ht, fun b hb₀ => ?_, fun i hi => ?_, fun l hl => ?_⟩
  · obtain ⟨b', hb', e⟩ := List.mem_map.1 (hb b hb₀)
    refine ⟨b', hb', e, ?_⟩
    rw [hc'.exact.billRun_tally hb', hc.exact.billRun_tally hb₀, ht, e]
  · -- an invoice has a licence, and a licence a line, which names the invoice in `s'` too
    obtain ⟨l, hl, hlI⟩ := hs.2.invoices i hi List.not_mem_nil
    obtain ⟨u, hu, hul, -⟩ := hs.2.licences l hl
    have huI : u.invoiceId = i.id := (hc.sound.lines_of_licence hl u hu hul).1.trans hlI
    obtain ⟨i', hi', e⟩ := List.mem_map.1 (hc'.sound.transaction_invoice_key (ht ▸ hu))
    simp only [Prod.mk.injEq] at e
    refine ⟨i', hi', e.1.trans huI, ?_⟩
    rw [hc'.exact.invoice_tally hi', hc.exact.invoice_tally hi, ht, e.1, huI]
  · obtain ⟨u, hu, hul, -⟩ := hs.2.licences l hl
    obtain ⟨l', hl', e⟩ := List.mem_map.1 (hc'.sound.transaction_key (ht ▸ hu))
    simp only [Prod.mk.injEq] at e
    refine ⟨l', hl', e.1.trans hul, ?_⟩
    rw [hc'.exact.licence_tally hl', hc.exact.licence_tally hl, ht, e.1, hul]

end Store

theorem record_step_outcome (env : Env) (slug : String) (X : Uuid) (actor : String)
    (p : Payload) {s₀ s : Store} (hc : s.Consistent) (hl : Lineage s₀ s) :
    Lineage s₀ (Request.step env (.record slug X actor p) s) ∧
      Lineage s (Request.step env (.record slug X actor p) s) ∧
      ((Request.step env (.record slug X actor p) s).unstamped = s.unstamped ∨
        ∃ ref t, ref.billRunId = X ∧
          LineRecorded ref p s t (Request.step env (.record slug X actor p) s)) := by
  refine Request.step_of env (.record slug X actor p)
    (answered_none (Q := fun s' => Lineage s₀ s' ∧ Lineage s s' ∧
      (s'.unstamped = s.unstamped ∨ ∃ ref t, ref.billRunId = X ∧ LineRecorded ref p s t s'))
      env slug X ⟨hl, Lineage.refl s, .inl rfl⟩ fun ref hX => ?_)
  have hkeep₀ : Keeps (Lineage s₀) (record env ref actor p) := record_lineage env ref actor p
  have hkeep : Keeps (Lineage s) (record env ref actor p) := record_lineage env ref actor p
  refine ((hkeep₀.triple.conj hkeep.triple).conj
    ((record_lands env ref actor p hc).conj (record_undone env ref actor p s))).mono
    (fun _ e => ⟨⟨e ▸ hl, e ▸ Lineage.refl s⟩, e, e⟩)
    (fun t _ h => ⟨h.1.1, h.1.2, .inr ⟨ref, t, hX, h.2.1⟩⟩)
    fun _ h => ⟨h.1.1, h.1.2, .inl h.2.2⟩

/-- Requests recording each payload of `ps`, in the surroundings paired with it, on bill run `X`
of the regime with slug `slug`, one after another. -/
def Request.records (slug : String) (X : Uuid) (actor : String) :
    List (Env × Payload) → Store → Store
  | [], s => s
  | e :: rest, s =>
    Request.records slug X actor rest (Request.step e.1 (.record slug X actor e.2) s)

/-- Lines recorded from `s₀` on bill run `X` for customer `c`, year `y` and licence number `n`:
the ledger is reachable, has the regimes it had, changed only `X` and no invoice changed what it
is; its lines are those of `s₀` followed by `news`, each of `X`, `c`, `y` and `n` and on an
invoice that is primary; once a line came, `X` is initialised. -/
structure RecordedOn (s₀ : Store) (X : Uuid) (c : String) (y : Int) (n : String)
    (news : List Transaction) (s : Store) : Prop where
  reachable : Reachable Env.Reliable s
  regimes : s.regimes = s₀.regimes
  confined : Confined X s₀ s
  lineage : Lineage s₀ s
  lines : s.transactions = s₀.transactions ++ news
  made : ∀ t ∈ news,
    t.billRunId = X ∧ t.customerReference = c ∧ t.chargeFinancialYear = y ∧ t.licenceNumber = n
  primary : ∀ t ∈ news, ∀ i ∈ s.invoices, i.id = t.invoiceId → i.kind = .primary
  initialised : news ≠ [] → s.statusOf X = some .initialised

/-- What a payload for customer `c`, year `y` and licence number `n`, in reliable surroundings,
is: its customer upper-cased and trimmed is `c`, its period starts in year `y`, and its licence
number trimmed is `n`. -/
def Payload.Names (c : String) (y : Int) (n : String) (e : Env × Payload) : Prop :=
  e.1.Reliable ∧ Case.upperText (Space.trim e.2.customerReference) = c ∧
    e.2.startYear = some y ∧ Space.trim e.2.licenceNumber = n

namespace RecordedOn

variable {s₀ s : Store} {X : Uuid} {c : String} {y : Int} {n : String} {news : List Transaction}

theorem start (h : Reachable Env.Reliable s₀) (X : Uuid) (c : String) (y : Int) (n : String) :
    RecordedOn s₀ X c y n [] s₀ where
  reachable := h
  regimes := rfl
  confined := Confined.refl X s₀
  lineage := Lineage.refl s₀
  lines := (List.append_nil _).symm
  made := fun _ h => absurd h List.not_mem_nil
  primary := fun _ h => absurd h List.not_mem_nil
  initialised := fun h => absurd rfl h

theorem step (h : RecordedOn s₀ X c y n news s) (slug : String) (actor : String)
    {e : Env × Payload} (he : Payload.Names c y n e) :
    ∃ news', RecordedOn s₀ X c y n news' (Request.step e.1 (.record slug X actor e.2) s) := by
  have hc := h.reachable.consistent
  obtain ⟨hlin₀, hlin, hout⟩ := record_step_outcome e.1 slug X actor e.2 hc h.lineage
  have hreach := h.reachable.step e.1 (.record slug X actor e.2) he.1
  have hregimes := (step_roster _ _ e.1 (.record slug X actor e.2) ⟨rfl, rfl⟩).1.trans h.regimes
  have hconf := h.confined.trans
    (step_within e.1 (.record slug X actor e.2) hc fun _ _ e => Request.noConfusion e).2
  rcases hout with hun | ⟨ref, t, hX, hland⟩
  · -- a failure leaves the lines, the invoices and the statuses
    have ht := congrArg Store.transactions hun
    have hi := congrArg Store.invoices hun
    refine ⟨news, hreach, hregimes, hconf, hlin₀, ht.trans h.lines, h.made, ?_, fun hne => ?_⟩
    · intro t ht' i hi' e'
      exact h.primary t ht' i (hi ▸ hi') e'
    · rw [← statusOf_unstamped, hun, statusOf_unstamped]
      exact h.initialised hne
  · refine ⟨news ++ [t], hreach, hregimes, hconf, hlin₀, ?_, ?_, ?_, fun _ => ?_⟩
    · rw [hland.stored, h.lines, List.append_assoc]
    · intro u hu
      rcases List.mem_append.1 hu with hu | hu
      · exact h.made u hu
      · rw [List.mem_singleton.1 hu]
        obtain ⟨-, hcust, hyear, hnum⟩ := he
        refine ⟨hland.made.billRun.trans hX, hland.made.customer.trans hcust,
          Option.some.inj (hland.made.year.symm.trans hyear), hland.made.number.trans hnum⟩
    · intro u hu
      rcases List.mem_append.1 hu with hu | hu
      · exact hlin.only_primary (h.primary u hu)
      · rw [List.mem_singleton.1 hu]
        exact hreach.consistent.sound.only_primary hland.primary
    · have hinit := hland.initialised
      rwa [hX] at hinit

theorem records (h : RecordedOn s₀ X c y n news s) (slug : String) (actor : String)
    (ps : List (Env × Payload)) (hps : ∀ e ∈ ps, Payload.Names c y n e) :
    ∃ news', RecordedOn s₀ X c y n news' (Request.records slug X actor ps s) := by
  induction ps generalizing s news with
  | nil => exact ⟨news, h⟩
  | cons e rest ih =>
    obtain ⟨news', h'⟩ := h.step slug actor (hps e List.mem_cons_self)
    exact ih h' fun e' he' => hps e' (List.mem_cons_of_mem e he')

/-- Deleting the licence of number `n` that the run recorded on: when `n` was new to `X`, every
line recorded is on that licence and no line there was before, so the deletion takes exactly
the lines recorded and every tally is as it was. -/
theorem delete_restores (h : RecordedOn s₀ X c y n news s) (h₀ : Reachable Env.Reliable s₀)
    {slug : String} {r : Regime} {b₀ : BillRun} (hr : s₀.regimeBySlug slug = some r)
    (hb₀ : s₀.billRunIn? r.id X = some b₀)
    (hnew : ∀ l ∈ s₀.licences, l.billRunId = X → l.licenceNumber ≠ n) {L : Uuid}
    (hL : ∃ t ∈ s.transactions, t.licenceId = L ∧ t.billRunId = X ∧ t.licenceNumber = n)
    (env : Env) : s₀.Restored (Request.step env (.deleteLicence slug X L) s) := by
  obtain ⟨t, ht, rfl, htX, htn⟩ := hL
  have hc₀ := h₀.consistent
  have hcoh₀ := h₀.coherent
  have hc := h.reachable.consistent
  have hfit := h.reachable.coherent.1
  -- no line there was is on the licence: its licence would be one of `X` numbered `n`
  have hold : ∀ u ∈ s₀.transactions, u.licenceId ≠ t.licenceId := by
    intro u hu e
    have hu' : u ∈ s.transactions := h.lines ▸ List.mem_append_left _ hu
    obtain ⟨hI, hn⟩ := (hfit.licenceId_eq_iff hu' ht).1 e
    have hX : u.billRunId = X :=
      (hc.sound.invoice_billRun (hI ▸ hc.sound.transaction_invoice_key hu')
        (hc.sound.transaction_invoice_key ht)).trans htX
    obtain ⟨l, hl, hlk⟩ := List.mem_map.1 (hc₀.sound.transaction_key hu)
    simp only [Prod.mk.injEq] at hlk
    exact hnew l hl (hlk.2.2.trans hX) (((hcoh₀.1.fits u hu).1 l hl hlk.1).trans (hn.trans htn))
  have htnew : t ∈ news := by
    rcases List.mem_append.1 (h.lines ▸ ht) with h' | h'
    · exact absurd rfl (hold t h')
    · exact h'
  have hsame : ∀ u ∈ news, u.licenceId = t.licenceId := by
    intro u hu
    have hu' : u ∈ s.transactions := h.lines ▸ List.mem_append_right _ hu
    obtain ⟨huX, huc, huy, hun⟩ := h.made u hu
    obtain ⟨htX', htc, hty, htn'⟩ := h.made t htnew
    have hI := (hfit.invoiceId_eq_iff hu' ht (huX.trans htX'.symm) (h.primary u hu)
      (h.primary t htnew)).2 ⟨huc.trans htc.symm, huy.trans hty.symm⟩
    exact (hfit.licenceId_eq_iff hu' ht).2 ⟨hI, hun.trans htn'.symm⟩
  obtain ⟨b, hb, hbst⟩ := Option.map_eq_some_iff.1 (h.initialised (List.ne_nil_of_mem htnew))
  have hplace := h.lineage.place_of_id hc₀.sound (List.mem_of_find?_eq_some hb₀)
    (List.mem_of_find?_eq_some hb) ((id_of_billRun? hb).trans (id_of_billRunIn? hb₀).1.symm)
  have hbR : b.regimeId = r.id := (congrArg (·.2.1) hplace).trans (id_of_billRunIn? hb₀).2
  obtain ⟨lic, hlic, hlick⟩ := List.mem_map.1 (hc.sound.transaction_key ht)
  simp only [Prod.mk.injEq] at hlick
  have hregime : s.regimeBySlug slug = some r := by
    unfold regimeBySlug at hr ⊢
    rw [h.regimes]
    exact hr
  have hfound : s.LicenceFound slug X t.licenceId r b lic := by
    refine ⟨hregime, billRunIn?_of_billRun? hb hbR, by rw [hbst]; rfl, ?_⟩
    rw [← hlick.1, ← htX, ← hlick.2.2]
    exact hc.sound.licenceOn?_of_mem hlic
  have hdel := (deleteLicence_step env hc.sound (Reachable.legible (fun _ h => h.2) h.reachable)
    slug X t.licenceId).1 r b lic hfound
  have hlines : (Request.step env (.deleteLicence slug X t.licenceId) s).transactions =
      s₀.transactions := by
    rw [hdel.cut.lines, h.lines, List.filter_append, hlick.1,
      List.filter_eq_self.2 fun u hu => bne_iff_ne.2 (hold u hu),
      List.filter_eq_nil_iff.2 fun u hu => by simp [hsame u hu], List.append_nil]
  have hids : (Request.step env (.deleteLicence slug X t.licenceId) s).billRunIds = s.billRunIds := by
    unfold billRunIds
    rw [hdel.bill.billRuns]
    refine billRunIds_mapBillRun ?_ _
    exact fun _ => rfl
  refine Coherent.restored hc₀ hcoh₀ (step_consistent env _ hc) hlines fun b' hb' => ?_
  rw [hids]
  by_cases hX : b'.id = X
  · rw [hX, ← id_of_billRun? hb]
    exact List.mem_map_of_mem (List.mem_of_find?_eq_some hb)
  · have hpart := congrArg Part.billRuns (h.confined b'.id hX)
    have hmem : b' ∈ (s₀.part b'.id).billRuns := List.mem_filter.2 ⟨hb', beq_self_eq_true _⟩
    rw [hpart] at hmem
    exact List.mem_map_of_mem (List.mem_filter.1 hmem).1

end RecordedOn

theorem Reachable.deletions_remove_subtree {s : Store} (h : Reachable Env.Reliable s) :
    (∀ env slug X L,
      s.LicenceDeletion env slug X L (Request.step env (.deleteLicence slug X L) s)) ∧
    (∀ env slug X I,
      s.InvoiceDeletion env slug X I (Request.step env (.deleteInvoice slug X I) s)) ∧
    (∀ (slug : String) (r : Regime) (X : Uuid) (b : BillRun) (c : String) (y : Int) (n : String)
        (actor : String) (ps : List (Env × Payload)) (L : Uuid) (env : Env),
      s.regimeBySlug slug = some r → s.billRunIn? r.id X = some b →
      (∀ l ∈ s.licences, l.billRunId = X → l.licenceNumber ≠ n) →
      (∀ e ∈ ps, Payload.Names c y n e) →
      (∃ t ∈ (Request.records slug X actor ps s).transactions,
        t.licenceId = L ∧ t.billRunId = X ∧ t.licenceNumber = n) →
      s.Restored (Request.step env (.deleteLicence slug X L) (Request.records slug X actor ps s))) := by
  have hs := h.consistent.sound
  have hl := Reachable.legible (fun _ h => h.2) h
  refine ⟨fun env slug X L => deleteLicence_step env hs hl slug X L,
    fun env slug X I => deleteInvoice_step env hs hl slug X I, ?_⟩
  intro slug r X b c y n actor ps L env hr hb hnew hps hL
  obtain ⟨news, hrun⟩ := (RecordedOn.start h X c y n).records slug actor ps hps
  exact hrun.delete_restores h hr hb hnew hL env

end ChargeLedger
