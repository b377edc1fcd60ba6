import ChargeLedger.Proofs.MinimumCharge
import ChargeLedger.Proofs.Durable

/-!
# Where recorded lines land

A line is recorded on the primary invoice of its customer and year on its bill run, made when
missing, and on the licence of its number on that invoice, made when missing. The customer is
upper-cased and trimmed first and the number trimmed; the year is the financial year the charge
period starts in. A ledger in shape has one primary invoice for a bill run, customer and year,
and one licence for an invoice and number (`Store.Fitted`). So over a run of records two lines
share an invoice exactly when they share customer and year, and a licence exactly when they
share the number as well (`Reachable.recorded_lines_grouped`).

One record stores its line after those there were, on a primary invoice, and leaves its bill
run initialised (`record_lands`). A run of records keeps every line it recorded, and their
invoices keep their kind, since records make only primary invoices (`LinesHeld.record`).
-/

set_option autoImplicit false

namespace ChargeLedger

open Op Store

namespace Payload

def startYear (p : Payload) : Option Int :=
  (ChargeDate.parse p.periodStart).toOption.map (·.financialYear)

theorem startYear_normalise (p : Payload) : p.normalise.startYear = p.startYear := by
  simp only [startYear, normalise]

theorem startYear_of_period? {p : Payload} {c : ChargePeriod} (h : p.period? = .ok c) :
    p.startYear = some c.financialYear := by
  unfold period? period at h
  cases hs : ChargeDate.parse p.periodStart with
  | error _ => cases he : ChargeDate.parse p.periodEnd <;> simp [hs, he] at h
  | ok d =>
    cases he : ChargeDate.parse p.periodEnd with
    | error _ => simp [hs, he] at h
    | ok e =>
      simp only [hs, he] at h
      split at h
      · rename_i heq
        simp only [Prod.mk.injEq, Option.some.injEq] at heq
        obtain ⟨rfl, -⟩ := heq
        cases h
        rw [startYear, hs]
        rfl
      · cases h

end Payload

namespace Store

variable {s : Store} {X : Uuid}

/-- The invoice of identifier `I` is a primary one. -/
def PrimaryInvoice (s : Store) (I : Uuid) : Prop :=
  ∃ i ∈ s.invoices, i.id = I ∧ i.kind = .primary

theorem Sound.only_primary (hs : s.Sound) {I : Uuid} (h : s.PrimaryInvoice I) :
    ∀ i ∈ s.invoices, i.id = I → i.kind = .primary := by
  obtain ⟨j, hj, hjid, hjk⟩ := h
  intro i hi e
  rw [hs.invoice_eq hi hj (e.trans hjid.symm)]
  exact hjk

theorem Lineage.only_primary {s' : Store} (h : Lineage s s') {I : Uuid}
    (hp : ∀ i ∈ s.invoices, i.id = I → i.kind = .primary) :
    ∀ i ∈ s'.invoices, i.id = I → i.kind = .primary := by
  intro i hi e
  rcases h.invoices i hi with ⟨i₀, hi₀, hl⟩ | ⟨hk, -⟩
  · obtain ⟨hid, -, -, -, hkind, -⟩ := Invoice.lineage_eq hl
    exact hkind ▸ hp i₀ hi₀ (hid.trans e)
  · exact hk

theorem statusOf_posted {now : Instant} {δ : Tally}
    (h : (s.guarded X [.initialised, .generated] (BillRun.posted now δ)).1 = true) :
    (s.guarded X [.initialised, .generated] (BillRun.posted now δ)).2.statusOf X =
      some .initialised := by
  obtain ⟨hmap, -⟩ := guarded_true h
  unfold guarded at h
  cases hb : s.billRun? X with
  | none => rw [hb] at h; cases h
  | some b =>
    simp only [hb] at h
    have hin : [Status.initialised, .generated].contains b.status = true := by
      by_contra hn
      rw [if_neg hn] at h
      cases h
    rw [hmap, statusOf, billRun?_mapBillRun (f := BillRun.posted now δ) (fun _ => rfl), hb]
    simp only [Option.map_some, id_of_billRun? hb, beq_self_eq_true, if_true, BillRun.posted]
    cases hst : b.status <;> simp [hst] at hin ⊢

variable {t u : Transaction}

theorem Fitted.licenceId_eq_iff (h : s.Fitted) (ht : t ∈ s.transactions) (hu : u ∈ s.transactions) :
    t.licenceId = u.licenceId ↔ t.invoiceId = u.invoiceId ∧ t.licenceNumber = u.licenceNumber := by
  constructor
  · intro e
    have hown := h.sound.licence_owner (e ▸ h.sound.transaction_key ht) (h.sound.transaction_key hu)
    obtain ⟨l, hl, hlk⟩ := List.mem_map.1 (h.sound.transaction_key ht)
    simp only [Prod.mk.injEq] at hown hlk
    exact ⟨hown.1, ((h.fits t ht).1 l hl hlk.1).symm.trans ((h.fits u hu).1 l hl (hlk.1.trans e))⟩
  · rintro ⟨hI, hn⟩
    exact h.licenceId_eq ht hu hI hn

/-- The rows line `t` hangs on, there and saying what it says: its primary invoice, of its bill
run, customer and year; its licence, on that invoice under its number; and its bill run, of its
region and ruleset. -/
structure RowsOf (s : Store) (t : Transaction) : Prop where
  invoice : ∃ i ∈ s.invoices, i.id = t.invoiceId ∧
    i.key = (t.billRunId, t.customerReference, t.chargeFinancialYear, .primary)
  licence : ∃ l ∈ s.licences, l.id = t.licenceId ∧ l.key = (t.invoiceId, t.licenceNumber)
  billRun : ∃ b ∈ s.billRuns, b.id = t.billRunId ∧ b.region = t.region ∧ b.ruleset = t.ruleset

theorem RowsOf.of_kept {s' : Store} (h : s.RowsOf t) (hk : RowsKept s s') : s'.RowsOf t := by
  obtain ⟨⟨i, hi, hid, hik⟩, ⟨l, hl, hlid, hlk⟩, ⟨b, hb, hbid, hreg, hrs⟩⟩ := h
  obtain ⟨i', hi', ei⟩ := hk.invoices i hi
  obtain ⟨l', hl', el⟩ := hk.licences l hl
  obtain ⟨b', hb', eb⟩ := hk.billRuns b hb
  obtain ⟨hid', hX, hc, hy, hkind, -⟩ := Invoice.lineage_eq ei
  simp only [Licence.lineage, BillRun.place, Prod.mk.injEq] at el eb
  refine ⟨⟨i', hi', hid'.trans hid, ?_⟩, ⟨l', hl', el.1.trans hlid, ?_⟩,
    ⟨b', hb', eb.1.trans hbid, eb.2.2.1.trans hreg, eb.2.2.2.trans hrs⟩⟩
  · rw [← hik, Invoice.key, Invoice.key, hX, hc, hy, hkind]
  · rw [← hlk, Licence.key, Licence.key, el.2.1, el.2.2.2]

theorem Fitted.rowsOf (h : s.Fitted) (ht : t ∈ s.transactions) (hp : s.PrimaryInvoice t.invoiceId) :
    s.RowsOf t := by
  obtain ⟨i, hi, hik⟩ := List.mem_map.1 (h.sound.transaction_invoice_key ht)
  obtain ⟨l, hl, hlk⟩ := List.mem_map.1 (h.sound.transaction_key ht)
  simp only [Prod.mk.injEq] at hik hlk
  obtain ⟨b, hb, hbid⟩ := List.mem_map.1 (h.sound.invoice_parent _ (List.mem_map_of_mem
    (f := fun i : Invoice => (i.id, i.billRunId)) hi))
  have hfi := (h.fits t ht).2.1 i hi hik.1
  have hfb := (h.fits t ht).2.2 b hb (hbid.trans hik.2)
  refine ⟨⟨i, hi, hik.1, ?_⟩, ⟨l, hl, hlk.1, ?_⟩, ⟨b, hb, hbid.trans hik.2, hfb.2⟩⟩
  · rw [Invoice.key, hik.2, hfi.1, hfi.2, h.sound.only_primary hp i hi hik.1]
  · rw [Licence.key, hlk.2.1, (h.fits t ht).1 l hl hlk.1]

theorem Fitted.invoiceId_eq_iff_of_rows (h : s.Fitted) (ht : s.RowsOf t) (hu : s.RowsOf u) :
    t.invoiceId = u.invoiceId ↔ t.billRunId = u.billRunId ∧
      t.customerReference = u.customerReference ∧ t.chargeFinancialYear = u.chargeFinancialYear := by
  obtain ⟨i, hi, hid, hik⟩ := ht.invoice
  obtain ⟨j, hj, hjd, hjk⟩ := hu.invoice
  have hsame : i.id = j.id ↔ i.key = j.key :=
    ⟨fun e => by rw [List.inj_on_of_nodup_map h.sound.invoiceIds_nodup hi hj e],
      fun e => by rw [List.inj_on_of_nodup_map h.uniqueInvoices hi hj e]⟩
  rw [← hid, ← hjd, hsame, hik, hjk]
  simp only [Prod.mk.injEq, and_true]

theorem Fitted.licenceId_eq_iff_of_rows (h : s.Fitted) (ht : s.RowsOf t) (hu : s.RowsOf u) :
    t.licenceId = u.licenceId ↔ t.invoiceId = u.invoiceId ∧ t.licenceNumber = u.licenceNumber := by
  obtain ⟨l, hl, hid, hlk⟩ := ht.licence
  obtain ⟨m, hm, hmd, hmk⟩ := hu.licence
  have hnodup : (s.licences.map (·.id)).Nodup := by
    simpa [licenceKeys, Function.comp_def] using h.sound.licences_nodup
  have hsame : l.id = m.id ↔ l.key = m.key :=
    ⟨fun e => by rw [List.inj_on_of_nodup_map hnodup hl hm e],
      fun e => by rw [List.inj_on_of_nodup_map h.uniqueLicences hl hm e]⟩
  rw [← hid, ← hmd, hsame, hlk, hmk, Prod.mk.injEq]

theorem Fitted.primaryInvoice_of (h : s.Fitted) (ht : t ∈ s.transactions)
    (hpt : ∀ i ∈ s.invoices, i.id = t.invoiceId → i.kind = .primary) :
    s.PrimaryInvoice t.invoiceId := by
  obtain ⟨i, hi, hik⟩ := List.mem_map.1 (h.sound.transaction_invoice_key ht)
  simp only [Prod.mk.injEq] at hik
  exact ⟨i, hi, hik.1, hpt i hi hik.1⟩

theorem Fitted.invoiceId_eq_iff (h : s.Fitted) (ht : t ∈ s.transactions) (hu : u ∈ s.transactions)
    (hX : t.billRunId = u.billRunId)
    (hpt : ∀ i ∈ s.invoices, i.id = t.invoiceId → i.kind = .primary)
    (hpu : ∀ i ∈ s.invoices, i.id = u.invoiceId → i.kind = .primary) :
    t.invoiceId = u.invoiceId ↔
      t.customerReference = u.customerReference ∧ t.chargeFinancialYear = u.chargeFinancialYear := by
  rw [h.invoiceId_eq_iff_of_rows (h.rowsOf ht (h.primaryInvoice_of ht hpt))
    (h.rowsOf hu (h.primaryInvoice_of hu hpu)), hX]
  exact and_iff_right rfl

end Store

/-! ## One record -/

theorem upsertInvoice_primary {P : Store → Prop} {E : Store → Prop} (X : Uuid) (customer : String)
    (year : Int) (δ : Tally) (now : Instant) :
    Triple P (upsertInvoice X customer year δ now) (fun I s => s.PrimaryInvoice I) E := by
  refine Triple.of_eq fun s₀ _ => Triple.fresh_bind (Triple.modifyGet ?_)
  rintro _ rfl
  split
  · rename_i i hi
    have hp := List.find?_some hi
    simp only [Bool.and_eq_true, beq_iff_eq] at hp
    exact ⟨_, List.mem_map_of_mem (List.mem_of_find?_eq_some hi), by simp, by simpa using hp.2⟩
  · exact ⟨_, List.mem_append_right _ (List.mem_singleton_self _), rfl, rfl⟩

theorem upsertLicence_keeps_primary {I : Uuid} (X J : Uuid) (number : String) (δ : Tally)
    (now : Instant) :
    Keeps (·.PrimaryInvoice I) (upsertLicence X J number δ now) :=
  .bind (.modifyGet fun _ h => ⟨h, Nat.le_succ _⟩) fun _ =>
    .modifyGet fun _ h => ⟨by split <;> exact h, by split <;> exact Nat.le_refl _⟩

/-- Where a posting that names no invoice leaves its line: stored as given, but for its invoice,
licence and times, on a primary invoice. -/
def Posting.Landed (now : Instant) (t stored : Transaction) (s : Store) : Prop :=
  (∃ I L, stored = { t with invoiceId := I, licenceId := L, createdAt := now, updatedAt := now }) ∧
    s.PrimaryInvoice stored.invoiceId

theorem post_lands (now : Instant) (t : Transaction) (how : Posting) (hhow : how.invoice = none)
    {P : Store → Prop} :
    Triple P (post now t how) (Posting.Landed now t) (fun _ => True) := by
  unfold post
  extract_lets delta line invoice
  have hline : ∀ I, Triple (·.PrimaryInvoice I) (line I) (Posting.Landed now t) (fun _ => True) := by
    intro I
    simp only [line]
    refine .bind ((upsertLicence_keeps_primary _ _ _ _ _).triple.mono (fun _ h => h)
      (fun _ _ h => h) fun _ _ => trivial) fun L => ?_
    generalize hst : ({ t with invoiceId := I, licenceId := L, createdAt := now, updatedAt := now } :
      Transaction) = stored
    have hfin : Triple (·.PrimaryInvoice I) (insertTransaction stored >>= fun _ => pure stored)
        (Posting.Landed now t) (fun _ => True) :=
      .bind (.modify fun _ h => h) fun _ => .pure fun _ h => ⟨⟨I, L, hst.symm⟩, hst ▸ h⟩
    cases t.clientId with
    | none => exact hfin
    | some c =>
      refine .bind (Q := fun _ s => s.PrimaryInvoice I) (.get fun _ h => h) fun _ => ?_
      split
      · exact .throw_bind fun _ _ => trivial
      · exact hfin
  have hinvoice : ∀ u, Triple (fun _ => True) (invoice u) (Posting.Landed now t) (fun _ => True) := by
    intro u
    simp only [invoice, hhow]
    exact .bind (upsertInvoice_primary _ _ _ _ _) hline
  refine .bind (Triple.always _) fun ok => ?_
  split
  · exact .bind (Triple.always _) hinvoice
  · exact hinvoice ()

/-- What a line recorded on the bill run `ref` names takes from its payload: the bill run, the
customer upper-cased and trimmed, the year its period starts in and the licence number trimmed. -/
structure Transaction.MadeFrom (t : Transaction) (ref : BillRunRef) (payload : Payload) : Prop where
  billRun : t.billRunId = ref.billRunId
  customer : t.customerReference = Case.upperText (Space.trim payload.customerReference)
  year : payload.startYear = some t.chargeFinancialYear
  number : t.licenceNumber = Space.trim payload.licenceNumber

/-- What recording `payload` on the bill run `ref` names leaves in `s`, from `s₀`: the line `t`
made from the payload and stored after the lines there were, on a primary invoice, and the bill
run initialised. -/
structure LineRecorded (ref : BillRunRef) (payload : Payload) (s₀ : Store) (t : Transaction)
    (s : Store) : Prop where
  stored : s.transactions = s₀.transactions ++ [t]
  made : t.MadeFrom ref payload
  primary : s.PrimaryInvoice t.invoiceId
  initialised : s.statusOf ref.billRunId = some .initialised

theorem record_lands {s₀ : Store} (env : Env) (ref : BillRunRef) (actor : String)
    (payload : Payload) (hc : s₀.Consistent) :
    Triple (· = s₀) (record env ref actor payload) (LineRecorded ref payload s₀)
      (fun _ => True) := by
  unfold record
  extract_lets p issues jp
  refine .require_bind (fun _ _ _ => trivial) fun _ => ?_
  cases hper : p.period? with
  | error _ => exact .throw_bind fun _ _ => trivial
  | ok c =>
  dsimp only
  rw [pure_bind]
  simp only [jp]
  refine .bind ((billRunOf_found ref).mono (fun _ h => h) (fun _ _ h => h) fun _ _ => trivial)
    fun b => Triple.of_eq fun s hs => ?_
  obtain ⟨rfl, hb⟩ := hs
  refine .require_bind (fun _ _ _ => trivial) fun _ => .require_bind (fun _ _ _ => trivial) fun _ =>
    .require_bind (fun _ _ _ => trivial) fun _ => ?_
  refine .bind ((ofExcept_keeps (I := (· = s)) _).triple.mono (fun _ h => h) (fun _ _ h => h)
    fun _ _ => trivial) fun priced => Triple.of_eq fun s' e => ?_
  subst e
  refine Triple.fresh_bind (Triple.atomically fun s₁ e => ?_)
  subst e
  have hpost := (post_spec env.now
    (Transaction.ofPayload (Uuid.ofSerial s'.issued) ref.regimeId actor b p c priced) {}
    (hc.issue (Nat.le_succ _)) hc.sound.fresh_transaction
    (by show Uuid.serialBase + s'.issued < Uuid.serialBase + (s'.issued + 1); omega)
    fun _ e => absurd e.symm (Option.some_ne_none _)).conj
      (post_lands (P := fun _ => True) env.now _ {} rfl)
  refine hpost.mono (fun _ h => ⟨h, trivial⟩) (fun stored s₂ h => ?_) fun _ _ => trivial
  obtain ⟨⟨hg, hposted⟩, ⟨I, L, rfl⟩, hprim⟩ := h
  have hX := (id_of_billRunIn? hb).1
  have hstatus : s₂.statusOf ref.billRunId = some .initialised := by
    rw [← hX, ← statusOf_posted hg]
    unfold statusOf billRun?
    rw [hposted.billRuns]
    rfl
  exact { stored := hposted.transactions
          made := ⟨hX, rfl,
            payload.startYear_normalise.symm.trans (Payload.startYear_of_period? hper), rfl⟩
          primary := hprim
          initialised := hstatus }

/-! ## A run of records -/

/-- A run of requests from `s₀` to `s` that recorded the lines `rs` one after another on the bill
run `ref` names, each with the payload it was recorded from and the line stored. Between the
records any requests that delete nothing may run, failed records among them. -/
inductive Recorded (ref : BillRunRef) (s₀ : Store) : List (Payload × Transaction) → Store → Prop
  | nil : Recorded ref s₀ [] s₀
  | record {rs : List (Payload × Transaction)} {s₁ s₂ : Store} (env : Env) (actor : String)
      (p : Payload) (t : Transaction) :
      Recorded ref s₀ rs s₁ → ChargeLedger.record env ref actor p s₁ = .ok t s₂ →
      Recorded ref s₀ (rs ++ [(p, t)]) s₂
  | step {rs : List (Payload × Transaction)} {s₁ : Store} (env : Env) (r : Request) :
      Recorded ref s₀ rs s₁ → r.deletes = false → Recorded ref s₀ rs (r.step env s₁)

/-- What a run of records leaves: a ledger in shape in which every line recorded is made from
its payload and hangs on rows that say what it says. -/
structure LinesHeld (ref : BillRunRef) (rs : List (Payload × Transaction)) (s : Store) : Prop where
  consistent : s.Consistent
  coherent : s.Coherent
  lines : ∀ x ∈ rs, x.2.MadeFrom ref x.1 ∧ s.RowsOf x.2

section Held

variable {ref : BillRunRef} {rs : List (Payload × Transaction)} {s₁ s₂ : Store}

theorem LinesHeld.record (h : LinesHeld ref rs s₁) {env : Env} {actor : String} {p : Payload}
    {t : Transaction} (hr : record env ref actor p s₁ = .ok t s₂) :
    LinesHeld ref (rs ++ [(p, t)]) s₂ := by
  have hcons : s₂.Consistent := (record_keeps env ref actor p).triple.of_ok h.consistent hr
  have hcoh : s₂.Coherent := (record_coherent env ref actor p).triple.of_ok h.coherent hr
  have hkept : RowsKept s₁ s₂ := (record_rows env ref actor p).triple.of_ok (RowsKept.refl s₁) hr
  have hland : LineRecorded ref p s₁ t s₂ :=
    (record_lands env ref actor p h.consistent).of_ok rfl hr
  refine ⟨hcons, hcoh, fun x hx => ?_⟩
  rcases List.mem_append.1 hx with hx | hx
  · exact (h.lines x hx).imp_right fun hrows => hrows.of_kept hkept
  · rw [List.mem_singleton.1 hx]
    exact ⟨hland.made, hcoh.1.rowsOf (hland.stored ▸ List.mem_append_right _
      (List.mem_singleton_self t)) hland.primary⟩

theorem LinesHeld.step (h : LinesHeld ref rs s₁) (env : Env) {r : Request} (hr : r.deletes = false) :
    LinesHeld ref rs (r.step env s₁) :=
  ⟨step_consistent env r h.consistent, h.coherent.step env r,
    fun x hx => (h.lines x hx).imp_right fun hrows => hrows.of_kept (step_rowsKept env r hr)⟩

theorem Recorded.linesHeld {s₀ s : Store} (hr : Recorded ref s₀ rs s) (hc : s₀.Consistent)
    (hs : s₀.Coherent) : LinesHeld ref rs s := by
  induction hr with
  | nil => exact ⟨hc, hs, fun _ h => absurd h List.not_mem_nil⟩
  | record env actor p t _ hrec ih => exact ih.record hrec
  | step env r _ hr ih => exact ih.step env hr

end Held

/-! ## How lines are grouped -/

/-- How recorded lines are grouped and what they carry. Two lines share an invoice exactly when
their payloads name one customer, upper-cased and trimmed, and start in one financial year, and
share a licence exactly when they name one licence number, trimmed, as well. Every line is on
the bill run, of the year its period starts in and with its trimmed licence number as its first
line attribute; and every line is of the region and ruleset of the bill run. -/
def Grouped (ref : BillRunRef) (rs : List (Payload × Transaction)) (s : Store) : Prop :=
  (∀ x ∈ rs, ∀ y ∈ rs,
    (x.2.invoiceId = y.2.invoiceId ↔
      Case.upperText (Space.trim x.1.customerReference) =
        Case.upperText (Space.trim y.1.customerReference) ∧ x.1.startYear = y.1.startYear) ∧
    (x.2.licenceId = y.2.licenceId ↔
      Case.upperText (Space.trim x.1.customerReference) =
        Case.upperText (Space.trim y.1.customerReference) ∧ x.1.startYear = y.1.startYear ∧
        Space.trim x.1.licenceNumber = Space.trim y.1.licenceNumber)) ∧
  (∀ x ∈ rs, x.2.billRunId = ref.billRunId ∧ x.1.startYear = some x.2.chargeFinancialYear ∧
    x.2.lineAttr 1 = Space.trim x.1.licenceNumber) ∧
  (rs ≠ [] → ∃ b, s.billRun? ref.billRunId = some b ∧
    ∀ x ∈ rs, x.2.region = b.region ∧ x.2.ruleset = b.ruleset)

theorem Reachable.recorded_lines_grouped {ok : Env → Prop} {s₀ s : Store} (h : Reachable ok s₀)
    {ref : BillRunRef} {rs : List (Payload × Transaction)} (hr : Recorded ref s₀ rs s) :
    Grouped ref rs s ∧ ∀ env actor p t s', record env ref actor p s = .ok t s' →
      s'.statusOf ref.billRunId = some .initialised := by
  have hheld := hr.linesHeld h.consistent h.coherent
  have hfit := hheld.coherent.1
  refine ⟨⟨fun x hx y hy => ?_, fun x hx => ?_, fun hne => ?_⟩, fun env actor p t s' hrec =>
    ((record_lands env ref actor p hheld.consistent).of_ok rfl hrec).initialised⟩
  · obtain ⟨hmx, hrx⟩ := hheld.lines x hx
    obtain ⟨hmy, hry⟩ := hheld.lines y hy
    have hinv : x.2.invoiceId = y.2.invoiceId ↔
        Case.upperText (Space.trim x.1.customerReference) =
          Case.upperText (Space.trim y.1.customerReference) ∧ x.1.startYear = y.1.startYear := by
      rw [hfit.invoiceId_eq_iff_of_rows hrx hry, hmx.billRun, hmy.billRun, hmx.customer,
        hmy.customer, hmx.year, hmy.year, Option.some_inj]
      exact and_iff_right rfl
    refine ⟨hinv, ?_⟩
    rw [hfit.licenceId_eq_iff_of_rows hrx hry, hinv, hmx.number, hmy.number, and_assoc]
  · obtain ⟨hm, -⟩ := hheld.lines x hx
    exact ⟨hm.billRun, hm.year, hm.number⟩
  · -- every line names the one bill run row of the identifier
    have hrun : ∀ x ∈ rs, ∃ b, s.billRun? ref.billRunId = some b ∧
        x.2.region = b.region ∧ x.2.ruleset = b.ruleset := fun x hx => by
      obtain ⟨hm, hrows⟩ := hheld.lines x hx
      obtain ⟨b, hb, hbid, hreg, hrs⟩ := hrows.billRun
      exact ⟨b, hbid.trans hm.billRun ▸ hfit.sound.billRun?_of_mem hb, hreg.symm, hrs.symm⟩
    obtain ⟨x, hx⟩ := List.exists_mem_of_ne_nil rs hne
    obtain ⟨b, hb, -⟩ := hrun x hx
    refine ⟨b, hb, fun y hy => ?_⟩
    obtain ⟨c, hc, hreg, hrs⟩ := hrun y hy
    rw [Option.some.inj (hc.symm.trans hb)] at hreg hrs
    exact ⟨hreg, hrs⟩

def tenPoundRules : Env :=
  { now := ⟨0⟩,
    rules := fun _ => .answered 200 "\x7b\"calculation\":\x7b\"chargeValue\":10\x7d\x7d" }

def srocLine : Payload :=
  { ruleset := "sroc", region := "A", customerReference := " c1 ", licenceNumber := "L1 ",
    chargePeriod := "01-APR-2021 - 31-MAR-2022", areaCode := "AR", lineDescription := "d",
    periodStart := "01-APR-2021", periodEnd := "31-MAR-2022", loss := "Low",
    regionalChargingArea := "R", chargeCategoryCode := "4.1.1", authorisedDays := 365,
    billableDays := 365 }

def Op.leaves {α : Type} (x : Op α) (s : Store) : Store :=
  match x s with
  | .ok _ s' => s'
  | .error _ s' => s'

theorem Op.leaves_of_ok {α : Type} {x : Op α} {s s' : Store} {a : α} (h : x s = .ok a s') :
    x.leaves s = s' := by
  unfold Op.leaves
  rw [h]

/-- An operation whose run has a value returns it. -/
theorem Op.exists_ok {α : Type} {x : Op α} {s : Store} (h : (EStateM.run' x s).isSome = true) :
    ∃ a s', x s = .ok a s' := by
  delta EStateM.run' EStateM.run at h
  cases hx : x s with
  | ok a s' => exact ⟨a, s', rfl⟩
  | error e s' =>
    rw [hx] at h
    exact (Bool.false_ne_true h).elim

def secondSrocLine : Payload :=
  { srocLine with customerReference := "C1", licenceNumber := "L2" }

theorem srocLines_grouped_across_generate :
    let ref : BillRunRef := ⟨Uuid.ofSerial 27, "wrls", Uuid.ofSerial 36⟩
    let s₀ := Request.step tenPoundRules (.create "wrls" "system" "A" "sroc") (Store.seeded ⟨0⟩)
    ∃ t₁ t₂ s, Reachable (fun _ => True) s₀ ∧
      Recorded ref s₀ [(srocLine, t₁), (secondSrocLine, t₂)] s ∧
      (Grouped ref [(srocLine, t₁), (secondSrocLine, t₂)] s ∧
        ∀ env actor p t s', record env ref actor p s = .ok t s' →
          s'.statusOf ref.billRunId = some .initialised) ∧
      t₁.invoiceId = t₂.invoiceId ∧ t₁.licenceId ≠ t₂.licenceId := by
  intro ref s₀
  have hreach : Reachable (fun _ => True) s₀ := .step _ _ trivial (.seeded ⟨0⟩)
  obtain ⟨t₁, s₁, hr₁⟩ := Op.exists_ok (x := record tenPoundRules ref "system" srocLine)
    (s := s₀) (by decide +kernel)
  have hok₂ : (EStateM.run' (record tenPoundRules ref "system" secondSrocLine)
      (Request.step tenPoundRules (.record "wrls" ref.billRunId "system" {})
        (Request.step tenPoundRules (.generate "wrls" ref.billRunId)
          ((record tenPoundRules ref "system" srocLine).leaves s₀)))).isSome = true := by
    decide +kernel
  rw [Op.leaves_of_ok hr₁] at hok₂
  obtain ⟨t₂, s, hr₂⟩ := Op.exists_ok hok₂
  have hrec : Recorded ref s₀ [(srocLine, t₁), (secondSrocLine, t₂)] s :=
    ((((Recorded.nil.record tenPoundRules "system" srocLine t₁ hr₁).step tenPoundRules
      (.generate "wrls" ref.billRunId) rfl).step tenPoundRules
        (.record "wrls" ref.billRunId "system" {}) rfl).record tenPoundRules "system"
          secondSrocLine t₂ hr₂)
  have hg := hreach.recorded_lines_grouped hrec
  have hpair := hg.1.1 (srocLine, t₁) (List.mem_cons_self ..) (secondSrocLine, t₂)
    (List.mem_cons_of_mem _ (List.mem_cons_self ..))
  have hcust : Case.upperText (Space.trim srocLine.customerReference) =
      Case.upperText (Space.trim secondSrocLine.customerReference) := by decide +kernel
  have hnum : Space.trim srocLine.licenceNumber ≠ Space.trim secondSrocLine.licenceNumber := by
    decide +kernel
  exact ⟨t₁, t₂, s, hreach, hrec, hg, hpair.1.2 ⟨hcust, rfl⟩, fun e => hnum (hpair.2.1 e).2.2⟩

end ChargeLedger
