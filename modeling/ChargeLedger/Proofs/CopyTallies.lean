import ChargeLedger.Proofs.Restoring
import ChargeLedger.Proofs.Mirroring

/-!
# A rebill copies an invoice exactly

A rebill adds a cancel copy and a rebill copy of an invoice to another bill run and leaves the
copying of its lines: licence by licence, each line goes to the cancel copy turned over and to
the rebill copy as it is. Each posting of the copying lands as the copy of its line
(`copyPost_lands`) and writes nothing but the bill run copied onto, so the licences of the
rebilled invoice keep their lines while it runs, and it goes over exactly the lines of the
invoice (`Store.Sound.licenceLines_perm`). It ends with the lines it added copying those lines
(`Store.copyLines_copies`).

The copies then carry the tallies `Reachable.rebill_copies_exactly` names: each licence of the
rebill copy, and the rebill copy itself, carry the tally of the licence of the same number of
the rebilled invoice and of the invoice; on the cancel copy they carry its mirror, so the cancel
copy's net is the opposite; the bill run copied onto grows by both copies, keeps its net, and
ends initialised.
-/

set_option autoImplicit false

namespace ChargeLedger

open Op Store

/-! ## One posting of the copying -/

/-- How a posting as `how` at `now` stores line `t`: as given but for the invoice and licence it
lands on and its times, and on the invoice `how` names, if it names one. -/
def Posting.Stored (now : Instant) (how : Posting) (t stored : Transaction) : Prop :=
  (∀ I, how.invoice = some I → stored.invoiceId = I) ∧
    stored = { t with invoiceId := stored.invoiceId, licenceId := stored.licenceId,
                      createdAt := now, updatedAt := now }

theorem post_stores (now : Instant) (t : Transaction) (how : Posting) {P : Store → Prop} :
    Triple P (post now t how) (fun stored _ => Posting.Stored now how t stored)
      (fun _ => True) := by
  unfold post
  extract_lets delta line invoice
  have hline : ∀ I, (∀ J, how.invoice = some J → I = J) →
      Triple (fun _ => True) (line I) (fun stored _ => Posting.Stored now how t stored)
        (fun _ => True) := by
    intro I hI
    simp only [line]
    refine .bind (Triple.always _) fun L => ?_
    generalize hst : ({ t with invoiceId := I, licenceId := L, createdAt := now, updatedAt := now } :
      Transaction) = stored
    have hfin : Triple (fun _ => True) (insertTransaction stored >>= fun _ => pure stored)
        (fun stored _ => Posting.Stored now how t stored) (fun _ => True) :=
      .bind (Q := fun _ _ => True) (.modify fun _ _ => trivial) fun _ => .pure fun _ _ => by
        subst hst
        exact ⟨hI, rfl⟩
    cases t.clientId with
    | none => exact hfin
    | some c =>
      refine .bind (Q := fun _ _ => True) (.get fun _ _ => trivial) fun _ => ?_
      split
      · exact .throw_bind fun _ _ => trivial
      · exact hfin
  have hinvoice : ∀ u, Triple (fun _ => True) (invoice u)
      (fun stored _ => Posting.Stored now how t stored) (fun _ => True) := by
    intro u
    simp only [invoice]
    cases hi : how.invoice with
    | some I =>
      refine .bind (Triple.always _) fun _ => .bind (Q := fun _ _ => True)
        (.require fun _ _ => ⟨fun _ => trivial, fun _ => trivial⟩) fun _ => ?_
      simp only [pure_bind]
      exact hline I fun J hJ => Option.some.inj (hi.symm.trans hJ)
    | none =>
      exact .bind (Triple.always _) fun I => hline I fun J hJ => absurd (hi ▸ hJ) (by simp)
  refine .bind (Triple.always _) fun ok => ?_
  split
  · exact .bind (Triple.always _) hinvoice
  · exact hinvoice ()

variable {s₀ s : Store} {X d : Uuid} {ks : List (Uuid × Uuid)}

/-- Drawing an identifier and posting the copy it names of line `u` onto invoice `d` of bill run
`X` keeps the ledger consistent with the invoices of `ks` on `X`, changes nothing but `X`, adds
that copy as the one new line and leaves `X` initialised. -/
theorem copyPost_lands (hw : Within X s₀ s) (hk : ∀ k ∈ ks, k ∈ s.invoiceKeys) (hd : (d, X) ∈ ks)
    (now : Instant) (u : Transaction) (flip : Bool) (actor : String) :
    Triple (· = s) (Store.fresh >>= fun id =>
        post now (Rebill.duplicate id u X flip actor) { invoice := some d } >>= fun _ => pure ())
      (fun _ s' => (Within X s₀ s' ∧ ∀ k ∈ ks, k ∈ s'.invoiceKeys) ∧
        (∃ t, s'.transactions = s.transactions ++ [t] ∧ t.CopyOf u X d flip actor now) ∧
        s'.statusOf X = some .initialised)
      (fun _ => True) := by
  refine Triple.fresh_bind ?_
  have hinv : ∀ I, some d = some I → ∀ i ∈ s.invoices, i.id = I → i.billRunId = X :=
    fun I e => Option.some.inj e ▸ hw.1.sound.invoice_on (hk _ hd)
  refine .bind (((post_spec now _ { invoice := some d } (hw.1.issue (Nat.le_succ _))
    hw.1.sound.fresh_transaction (by simp [Issued, Rebill.duplicate, Uuid.ofSerial]) hinv).conj
      (post_stores now _ _)).mono (fun _ h => ⟨h, h⟩) (fun _ _ h => h) fun _ _ => trivial)
    fun stored => .pure fun s' h => ?_
  obtain ⟨⟨hg, hposted⟩, hd', hst⟩ := h
  have hid : stored.id = Uuid.ofSerial s.issued := (congrArg Transaction.id hst).trans rfl
  refine ⟨⟨⟨hposted.consistent, (hw.2.trans fun _ _ => rfl).trans hposted.confined⟩,
    fun k hk' => hposted.keys k (hk k hk')⟩, ⟨stored, hposted.transactions, ?_⟩, ?_⟩
  · -- the stored line is the copy under its own identifier, on `d`
    unfold Transaction.CopyOf
    rw [hid]
    rw [hd' d rfl] at hst
    exact hst
  · -- the status is read off the bill run rows the posting left
    rw [← statusOf_posted hg]
    unfold statusOf billRun?
    rw [hposted.billRuns]
    rfl

/-! ## The copying -/

namespace Store

def licenceLines (s : Store) (I : Uuid) : List Transaction :=
  (s.licencesOf I).flatMap fun l => s.transactionsOfLicence l.id

/-- The lines of the licences of an invoice are the invoice's lines. -/
theorem Sound.licenceLines_perm (h : s.Sound) (I : Uuid) :
    (s.licenceLines I).Perm (s.transactions.filter (·.invoiceId == I)) := by
  have htx : s.transactions.Nodup :=
    List.Nodup.of_map (·.id) (by simpa [transactionKeys, Function.comp_def] using h.transactions_nodup)
  have hids : (s.licences.map (·.id)).Nodup := by
    simpa [licenceKeys, Function.comp_def] using h.licences_nodup
  have hlics : ((s.licencesOf I).map (·.id)).Nodup :=
    ((sortBy_perm _ _).map _).nodup_iff.2 (hids.sublist (List.filter_sublist.map _))
  have hlines : ∀ L, (s.transactionsOfLicence L).Nodup := fun _ =>
    (sortBy_perm _ _).nodup_iff.2 (htx.filter _)
  have hapart : (s.licencesOf I).Pairwise fun a b =>
      (s.transactionsOfLicence a.id).Disjoint (s.transactionsOfLicence b.id) :=
    (List.pairwise_map.1 hlics).imp fun hab => List.disjoint_left.2 fun _ ha hb =>
      hab ((mem_transactionsOfLicence.1 ha).2.symm.trans (mem_transactionsOfLicence.1 hb).2)
  refine (List.perm_ext_iff_of_nodup (List.nodup_flatMap.2 ⟨fun l _ => hlines l.id, hapart⟩)
    (htx.filter _)).2 fun t => ?_
  simp only [List.mem_flatMap, mem_transactionsOfLicence, mem_licencesOf,
    List.mem_filter, beq_iff_eq]
  constructor
  · rintro ⟨l, ⟨hl, hlI⟩, ht, htl⟩
    exact ⟨ht, (h.lines_of_licence hl t ht htl).1.trans hlI⟩
  · rintro ⟨ht, htI⟩
    obtain ⟨l, hl, e⟩ := List.mem_map.1 (h.transaction_key ht)
    simp only [Prod.mk.injEq] at e
    exact ⟨l, ⟨hl, e.2.1.trans htI⟩, ht, e.1.symm⟩

theorem Sound.lines_of_licence_filter (h : s.Sound) {l : Licence} (hl : l ∈ s.licences) :
    s.transactions.filter (·.licenceId == l.id) =
      (s.transactions.filter (·.billRunId == l.billRunId)).filter (·.licenceId == l.id) := by
  rw [List.filter_filter]
  refine List.filter_congr fun t ht => ?_
  by_cases e : t.licenceId = l.id
  · simp [e, (h.lines_of_licence hl t ht e).2]
  · simp [e]

theorem Confined.transactionsOfLicence (h : Confined X s₀ s) (hs₀ : s₀.Sound) (hs : s.Sound)
    {l : Licence} (hl : l ∈ s₀.licences) (hX : l.billRunId ≠ X) :
    s.transactionsOfLicence l.id = s₀.transactionsOfLicence l.id := by
  have hp := h l.billRunId hX
  have hl' : l ∈ s.licences := by
    have hmem : l ∈ (s₀.part l.billRunId).licences := List.mem_filter.2 ⟨hl, by simp⟩
    rw [hp] at hmem
    exact (List.mem_filter.1 hmem).1
  unfold Store.transactionsOfLicence
  rw [hs.lines_of_licence_filter hl', hs₀.lines_of_licence_filter hl]
  exact congrArg (fun ts => sortBy transactionOrder (ts.filter (·.licenceId == l.id)))
    (congrArg Part.transactions hp).symm

variable {c r : Uuid} {actor : String} {now : Instant} {us : List Transaction}

/-- The copying onto bill run `X`, into the cancel copy `c` and the rebill copy `r`, part way
from `s₀`: the ledger consistent, nothing but `X` changed and both copies on `X`; the lines `us`
copied, their copies the lines added after those of `s₀`; and `X` initialised once a line came. -/
structure CopiedSoFar (s₀ : Store) (X c r : Uuid) (actor : String) (now : Instant)
    (us : List Transaction) (s : Store) : Prop where
  within : Within X s₀ s
  copies : ∀ k ∈ [(c, X), (r, X)], k ∈ s.invoiceKeys
  added : ∃ ts, s.transactions = s₀.transactions ++ ts ∧ Copies X c r actor now us ts
  initialised : us ≠ [] → s.statusOf X = some .initialised

theorem CopiedSoFar.start (hs₀ : s₀.Consistent) (hk : ∀ k ∈ [(c, X), (r, X)], k ∈ s₀.invoiceKeys) :
    CopiedSoFar s₀ X c r actor now [] s₀ :=
  ⟨Within.refl hs₀ X, hk, ⟨[], (List.append_nil _).symm, .nil⟩, fun h => absurd rfl h⟩

theorem CopiedSoFar.line (h : CopiedSoFar s₀ X c r actor now us s) (u : Transaction) :
    Triple (· = s) ([(c, true), (r, false)].forM fun dest => Store.fresh >>= fun id =>
        post now (Rebill.duplicate id u X dest.2 actor) { invoice := some dest.1 } >>=
          fun _ => pure ())
      (fun _ => CopiedSoFar s₀ X c r actor now (us ++ [u])) (fun _ => True) := by
  obtain ⟨ts, hts, hcop⟩ := h.added
  refine Triple.bind (copyPost_lands h.within h.copies (by simp) now u true actor) fun _ =>
    Triple.of_eq fun s₁ h₁ => ?_
  obtain ⟨⟨hw₁, hk₁⟩, ⟨tc, htc, hc⟩, -⟩ := h₁
  refine Triple.bind (copyPost_lands hw₁ hk₁ (by simp) now u false actor) fun _ =>
    Triple.pure fun s₂ h₂ => ?_
  obtain ⟨⟨hw₂, hk₂⟩, ⟨tr, htr, hr⟩, hst⟩ := h₂
  exact ⟨hw₂, hk₂, ⟨ts ++ [tc, tr], by rw [htr, htc, hts]; simp, hcop.snoc hc hr⟩, fun _ => hst⟩

theorem CopiedSoFar.lines (vs : List Transaction) :
    Triple (CopiedSoFar s₀ X c r actor now us) (vs.forM fun u =>
        [(c, true), (r, false)].forM fun dest => Store.fresh >>= fun id =>
          post now (Rebill.duplicate id u X dest.2 actor) { invoice := some dest.1 } >>=
            fun _ => pure ())
      (fun _ => CopiedSoFar s₀ X c r actor now (us ++ vs)) (fun _ => True) := by
  induction vs generalizing us with
  | nil => exact Triple.pure fun _ h => by simpa using h
  | cons v vs ih =>
    refine Triple.bind (Triple.of_eq fun _ h => h.line v) fun _ => ih.mono (fun _ h => h)
      (fun _ _ h => ?_) fun _ h => h
    simpa using h

theorem CopiedSoFar.licences (hs₀ : s₀.Sound) (us : List Transaction) (lics : List Licence)
    (hlics : ∀ l ∈ lics, l ∈ s₀.licences ∧ l.billRunId ≠ X) :
    Triple (CopiedSoFar s₀ X c r actor now us) (lics.forM fun lic => MonadState.get >>= fun s =>
        (s.transactionsOfLicence lic.id).forM fun u =>
          [(c, true), (r, false)].forM fun dest => Store.fresh >>= fun id =>
            post now (Rebill.duplicate id u X dest.2 actor) { invoice := some dest.1 } >>=
              fun _ => pure ())
      (fun _ => CopiedSoFar s₀ X c r actor now
        (us ++ lics.flatMap fun l => s₀.transactionsOfLicence l.id)) (fun _ => True) := by
  induction lics generalizing us with
  | nil => exact Triple.pure fun _ h => by simpa using h
  | cons l lics ih =>
    obtain ⟨hl, hX⟩ := hlics l List.mem_cons_self
    refine Triple.bind (Q := fun _ => CopiedSoFar s₀ X c r actor now
        (us ++ s₀.transactionsOfLicence l.id)) (Triple.of_eq fun s h => Triple.get_bind ?_)
      fun _ => (ih _ fun l' h' => hlics l' (List.mem_cons_of_mem _ h')).mono (fun _ h => h)
        (fun _ _ h => ?_) fun _ h => h
    · rw [h.within.2.transactionsOfLicence hs₀ h.within.1.sound hl hX]
      exact (CopiedSoFar.lines _).mono (fun _ e => e ▸ h) (fun _ _ h => h) fun _ h => h
    · simpa using h

/-- The copying of the lines of `rebilled` onto bill run `X`, whose licences are elsewhere,
ends with all of them copied, licence by licence. -/
theorem copyLines_copies (rebilled : Invoice) (hs₀ : s₀.Consistent)
    (hk : ∀ k ∈ [(c, X), (r, X)], k ∈ s₀.invoiceKeys)
    (hlics : ∀ l ∈ s₀.licences, l.invoiceId = rebilled.id → l.billRunId ≠ X) :
    Triple (· = s₀) (Rebill.copyLines now rebilled X c r actor)
      (fun _ => CopiedSoFar s₀ X c r actor now (s₀.licenceLines rebilled.id)) (fun _ => True) := by
  unfold Rebill.copyLines
  refine Triple.atomically fun s e => ?_
  subst s
  have hstart : CopiedSoFar s₀ X c r actor now [] s₀ := CopiedSoFar.start hs₀ hk
  refine Triple.get_bind ((CopiedSoFar.licences hs₀.sound [] _ fun l hl => ?_).mono
    (fun _ e => e ▸ hstart) (fun _ _ h => by simpa [licenceLines] using h) fun _ _ => trivial)
  obtain ⟨hl', hlr⟩ := mem_licencesOf.1 hl
  exact ⟨hl', hlics l hl' hlr⟩

/-! ## Lines and the licences they sit on -/

theorem Fitted.onLicence_iff (h : s.Fitted) {l : Licence} (hl : l ∈ s.licences) {t : Transaction}
    (ht : t ∈ s.transactions) :
    t.licenceId = l.id ↔ t.licenceNumber = l.licenceNumber ∧ t.invoiceId = l.invoiceId := by
  constructor
  · intro e
    exact ⟨((h.fits t ht).1 l hl e.symm).symm, (h.sound.lines_of_licence hl t ht e).1⟩
  · rintro ⟨hn, hi⟩
    obtain ⟨m, hm, e⟩ := List.mem_map.1 (h.sound.transaction_key ht)
    simp only [Prod.mk.injEq] at e
    have hkey : m.key = l.key := by
      rw [Licence.key, Licence.key, e.2.1, (h.fits t ht).1 m hm e.1, hn, hi]
    rw [← e.1, List.inj_on_of_nodup_map h.uniqueLicences hm hl hkey]

theorem Fitted.licence_of_line (h : s.Fitted) {t : Transaction} (ht : t ∈ s.transactions) :
    ∃ l ∈ s.licences, l.id = t.licenceId ∧ l.invoiceId = t.invoiceId ∧
      l.licenceNumber = t.licenceNumber := by
  obtain ⟨l, hl, e⟩ := List.mem_map.1 (h.sound.transaction_key ht)
  simp only [Prod.mk.injEq] at e
  exact ⟨l, hl, e.1, e.2.1, (h.fits t ht).1 l hl e.1⟩

theorem Fitted.licence_tally (h : s.Fitted) (hx : s.Exact) {l : Licence} (hl : l ∈ s.licences) :
    l.tally = tallyWhere s.transactions
      fun t => (t.licenceNumber == l.licenceNumber) && t.invoiceId == l.invoiceId := by
  rw [hx.licence_tally hl, tallyBy_eq_tallyWhere, tallyWhere, tallyWhere]
  refine congrArg _ (congrArg _ (List.filter_congr fun t ht => Bool.eq_iff_iff.2 ?_))
  simp only [beq_iff_eq, Bool.and_eq_true]
  exact h.onLicence_iff hl ht

end Store

theorem Task.perform_of {Q : Store → Prop} {env : Env} {t : Task}
    (h : Triple (· = s) (t.run env) (fun _ => Q) Q) : Q (t.perform env s).1 := by
  have hdone := h.apply rfl
  unfold Task.perform
  revert hdone
  cases t.run env s <;> exact id

/-! ## A rebill accepted -/

theorem rebill_keeps_lines (now : Instant) (ref : BillRunRef) (invoiceId : Uuid) (actor : String) :
    Triple (· = s₀) (Rebill.rebill now ref invoiceId actor)
      (fun _ s => s.transactions = s₀.transactions ∧ s.licences = s₀.licences) (fun _ => True) := by
  unfold Rebill.rebill
  refine Triple.bind ((check_spec ref invoiceId).mono (fun _ h => h) (fun _ _ h => h)
    fun _ _ => trivial) fun res => Triple.of_eq fun s h => ?_
  obtain ⟨e, -⟩ := h
  subst s
  refine Triple.fresh_bind (Triple.fresh_bind (Triple.bind (Triple.atomically
    (Q := fun _ s => s.transactions = s₀.transactions ∧ s.licences = s₀.licences)
    fun _ e => ?_) fun _ => Triple.pure fun _ h => h))
  subst e
  refine Triple.bind ((insertCopy_spec _).mono (fun _ h => h) (fun _ _ h => h) fun _ _ => trivial)
    fun _ => Triple.of_eq fun _ h => ?_
  subst h
  exact (insertCopy_spec _).mono (fun _ h => h) (fun _ _ h => by subst h; exact ⟨rfl, rfl⟩)
    fun _ _ => trivial

/-- What a rebill of invoice `x` onto bill run `b` that returned leaves from `s` to `s₁` for
the copying: its cancel copy `C` and rebill copy `R` on `b`, under identifiers no line of `s`
names, the lines as they were, and the licences of `x` elsewhere than `b`. -/
structure RebillStart (s s₁ : Store) (x : Invoice) (b : BillRun) (C R : Uuid) : Prop where
  consistent : s₁.Consistent
  transactions : s₁.transactions = s.transactions
  keys : ∀ k ∈ [(C, b.id), (R, b.id)], k ∈ s₁.invoiceKeys
  fresh : ∀ t ∈ s.transactions, t.invoiceId ≠ C ∧ t.invoiceId ≠ R
  apart : C ≠ R
  elsewhere : ∀ l ∈ s₁.licences, l.invoiceId = x.id → l.billRunId ≠ b.id

variable {ref : BillRunRef} {invoiceId : Uuid} {actor : String} {C R x : Invoice} {task : Task}
  {s₁ : Store} {b : BillRun}

theorem rebill_starts (hcons : s.Consistent) (hcoh : s.Coherent) (now : Instant)
    (hr : Rebill.rebill now ref invoiceId actor s = .ok (C, R, task) s₁)
    (hx : x ∈ s.invoices) (hxid : x.id = invoiceId) (hb : b ∈ s.billRuns)
    (hbid : b.id = ref.billRunId) :
    task = .copyInvoice x b.id C.id R.id actor ∧ RebillStart s s₁ x b C.id R.id ∧
      ∃ bt : BillRun, bt.id = b.id ∧ CopyStart s₁ x bt C.id R.id := by
  obtain ⟨target, rebilled, hchk, hC, hR, htask, -, hinv, -, -⟩ :=
    (rebill_shaped now ref invoiceId actor hcoh).of_ok rfl hr
  simp only at hC hR htask hinv
  obtain ⟨htarget, -, hfind, -, -, hne, -⟩ := hchk
  have hxr : rebilled = x :=
    Option.some.inj (hfind.symm.trans (hxid ▸ hcons.sound.invoice?_of_mem hx))
  have hbt : target = b := Option.some.inj ((hcons.sound.billRun?_of_billRunIn? htarget).symm.trans
    (hbid ▸ hcons.sound.billRun?_of_mem hb))
  subst hxr hbt
  obtain ⟨rebilled', target', htask', hcs⟩ :=
    (rebill_copyStart hcoh now ref invoiceId actor).of_ok rfl hr
  simp only at htask' hcs
  rw [htask] at htask'
  injection htask' with hx' hb'
  subst hx'
  obtain ⟨hlines, hlics⟩ := (rebill_keeps_lines now ref invoiceId actor).of_ok rfl hr
  have hw := ((rebill_within now ref invoiceId actor 0).of_ok
    ⟨Within.refl hcons _, Nat.zero_le _⟩ hr).1.1
  refine ⟨htask, ⟨hw.1, hlines, ?keys, ?fresh, ?apart, ?elsewhere⟩, target', hb'.symm, hcs⟩
  case keys =>
    rw [invoiceKeys, hinv]
    simp [hC, hR, Rebill.copy]
  case fresh =>
    intro t ht
    have hmem : t.invoiceId ∈ s.invoiceKeys.map (·.1) :=
      List.mem_map_of_mem (hcons.sound.transaction_invoice_key ht)
    rw [hC, hR]
    refine ⟨fun e => ?_, fun e => ?_⟩
    · have e' : t.invoiceId = Uuid.ofSerial s.issued := e
      exact hcons.sound.fresh_invoice (Nat.le_refl _) (e' ▸ hmem)
    · have e' : t.invoiceId = Uuid.ofSerial (s.issued + 1) := e
      exact hcons.sound.fresh_invoice (Nat.le_succ _) (e' ▸ hmem)
  case apart =>
    rw [hC, hR]
    simp [Rebill.copy, Uuid.ofSerial]
  case elsewhere =>
    intro l hl hlx
    rw [hlics] at hl
    have hlb : l.billRunId = rebilled.billRunId := hcons.sound.invoice_billRun
      (hlx ▸ hcons.sound.licence_key hl) (List.mem_map_of_mem hx)
    rw [hlb]
    exact hne

theorem copyInvoice_done (env : Env) (hst : RebillStart s s₁ x b C.id R.id) {bt : BillRun}
    (hbt : bt.id = b.id) (hcs : CopyStart s₁ x bt C.id R.id) :
    CopiedSoFar s₁ b.id C.id R.id actor env.now (s₁.licenceLines x.id)
        ((Task.copyInvoice x b.id C.id R.id actor).perform env s₁).1 ∧
      ((Task.copyInvoice x b.id C.id R.id actor).perform env s₁).1.Coherent := by
  have hfill := copyLines_fills hcs env.now actor
  rw [hbt] at hfill
  refine Task.perform_of (Q := fun s₂ => CopiedSoFar s₁ b.id C.id R.id actor env.now
    (s₁.licenceLines x.id) s₂ ∧ s₂.Coherent) ?_
  unfold Task.run
  exact Triple.bind (((copyLines_copies x hst.consistent hst.keys hst.elsewhere).conj hfill).mono
    (fun _ e => ⟨e, e⟩) (fun _ _ h => h) fun _ h => h.2.elim) fun _ => Triple.pure fun _ h => h

/-! ## The tallies the copies carry -/

section Outcome

variable {s₂ : Store} {C R : Uuid} {now : Instant} (hst : RebillStart s s₁ x b C R)
  (hdone : CopiedSoFar s₁ b.id C R actor now (s₁.licenceLines x.id) s₂)
include hst

theorem RebillStart.lines_perm :
    (s₁.licenceLines x.id).Perm (s.transactions.filter (·.invoiceId == x.id)) := by
  rw [← hst.transactions]
  exact hst.consistent.sound.licenceLines_perm x.id

theorem RebillStart.mem_lines {u : Transaction} (hu : u ∈ s₁.licenceLines x.id) :
    u ∈ s.transactions ∧ u.invoiceId = x.id := by
  simpa using hst.lines_perm.subset hu

theorem RebillStart.line_of_licence (hcons : s.Consistent) (hcoh : s.Coherent) {l : Licence}
    (hl : l ∈ s.licences) (hlx : l.invoiceId = x.id) :
    ∃ u ∈ s₁.licenceLines x.id, u.licenceNumber = l.licenceNumber := by
  obtain ⟨u, hu, hul, -⟩ := hcoh.2.licences l hl
  have hux : u.invoiceId = x.id := (hcons.sound.lines_of_licence hl u hu hul).1.trans hlx
  exact ⟨u, hst.lines_perm.symm.subset (List.mem_filter.2 ⟨hu, by simp [hux]⟩),
    ((hcoh.1.fits u hu).1 l hl hul.symm).symm⟩

include hdone

theorem Store.CopiedSoFar.rebill_tally {p : Transaction → Bool}
    (hp : ∀ t u d flip, t.CopyOf u b.id d flip actor now → p t = p u) :
    tallyWhere s₂.transactions (fun t => p t && t.invoiceId == R) =
      tallyWhere s.transactions (fun t => p t && t.invoiceId == x.id) := by
  obtain ⟨ts, hts, hcop⟩ := hdone.added
  have h0 : tallyWhere s.transactions (fun t => p t && t.invoiceId == R) = 0 :=
    tallyWhere_eq_zero fun t ht => by simp [(hst.fresh t ht).2]
  rw [hts, hst.transactions, tallyWhere_append, h0, zero_add,
    hcop.tallyWhere_rebill hst.apart hp, tallyWhere_perm hst.lines_perm, tallyWhere_filter]

theorem Store.CopiedSoFar.cancel_tally {p : Transaction → Bool}
    (hp : ∀ t u d flip, t.CopyOf u b.id d flip actor now → p t = p u)
    (hv : ∀ t ∈ s.transactions, t.invoiceId = x.id → 0 ≤ t.chargeValue) :
    (tallyWhere s.transactions fun t => p t && t.invoiceId == x.id).Mirrors
      (tallyWhere s₂.transactions fun t => p t && t.invoiceId == C) := by
  obtain ⟨ts, hts, hcop⟩ := hdone.added
  have h0 : tallyWhere s.transactions (fun t => p t && t.invoiceId == C) = 0 :=
    tallyWhere_eq_zero fun t ht => by simp [(hst.fresh t ht).1]
  rw [hts, hst.transactions, tallyWhere_append, h0, zero_add, ← tallyWhere_filter,
    ← tallyWhere_perm hst.lines_perm]
  exact hcop.tallyWhere_cancel hst.apart hp fun u hu =>
    hv u (hst.mem_lines hu).1 (hst.mem_lines hu).2

theorem Store.CopiedSoFar.billRun_tally :
    tallyWhere s₂.transactions (·.billRunId == b.id) =
      tallyWhere s.transactions (·.billRunId == b.id) +
        (tallyWhere s₂.transactions (·.invoiceId == R) +
          tallyWhere s₂.transactions (·.invoiceId == C)) := by
  obtain ⟨ts, hts, hcop⟩ := hdone.added
  have hon : tallyWhere ts (·.billRunId == b.id) = (ts.map Transaction.tally).sum := by
    rw [tallyWhere, List.filter_eq_self.2 fun t ht => ?_]
    obtain ⟨u, -, hc | hc⟩ := hcop.mem ht <;> simp [hc.billRunId]
  have hR0 : tallyWhere s.transactions (·.invoiceId == R) = 0 :=
    tallyWhere_eq_zero fun t ht => by simp [(hst.fresh t ht).2]
  have hC0 : tallyWhere s.transactions (·.invoiceId == C) = 0 :=
    tallyWhere_eq_zero fun t ht => by simp [(hst.fresh t ht).1]
  rw [hts, hst.transactions, tallyWhere_append, tallyWhere_append, tallyWhere_append, hR0, hC0,
    zero_add, zero_add, ← hcop.sum_tally hst.apart, hon]

theorem Store.CopiedSoFar.licence_on (hfit : s₂.Fitted) {u : Transaction}
    (hu : u ∈ s₁.licenceLines x.id) {D : Uuid} (hD : D = C ∨ D = R) :
    ∃ l ∈ s₂.licences, l.invoiceId = D ∧ l.licenceNumber = u.licenceNumber := by
  obtain ⟨ts, hts, hcop⟩ := hdone.added
  obtain ⟨⟨tc, htc, hc⟩, ⟨tr, htr, hr⟩⟩ := hcop.copies_of_mem hu
  obtain ⟨t, ht, hinv, hnum⟩ : ∃ t ∈ ts, t.invoiceId = D ∧ t.licenceNumber = u.licenceNumber := by
    rcases hD with rfl | rfl
    · exact ⟨tc, htc, hc.invoiceId, hc.licenceNumber⟩
    · exact ⟨tr, htr, hr.invoiceId, hr.licenceNumber⟩
  obtain ⟨l, hl, -, hli, hln⟩ := hfit.licence_of_line (hts ▸ List.mem_append_right _ ht)
  exact ⟨l, hl, hli.trans hinv, hln.trans hnum⟩

theorem Store.CopiedSoFar.licences_copied (hcons : s.Consistent) (hcoh : s.Coherent)
    (hcoh₂ : s₂.Coherent) (hv : ∀ t ∈ s.transactions, t.invoiceId = x.id → 0 ≤ t.chargeValue)
    {l : Licence} (hl : l ∈ s.licences) (hlx : l.invoiceId = x.id) :
    (∃ l' ∈ s₂.licences, l'.invoiceId = R ∧ l'.licenceNumber = l.licenceNumber ∧
      l'.tally = l.tally) ∧
    ∃ l' ∈ s₂.licences, l'.invoiceId = C ∧ l'.licenceNumber = l.licenceNumber ∧
      l.tally.Mirrors l'.tally := by
  obtain ⟨u, hu, hun⟩ := hst.line_of_licence hcons hcoh hl hlx
  have hp : ∀ (t u : Transaction) d flip, t.CopyOf u b.id d flip actor now →
      (t.licenceNumber == l.licenceNumber) = (u.licenceNumber == l.licenceNumber) :=
    fun _ _ _ _ hc => by rw [hc.licenceNumber]
  have hx₂ := hdone.within.1.exact
  have hlt := hcoh.1.licence_tally hcons.exact hl
  rw [hlx] at hlt
  obtain ⟨r, hr, hri, hrn⟩ := hdone.licence_on hst hcoh₂.1 hu (Or.inr rfl)
  obtain ⟨c, hc, hci, hcn⟩ := hdone.licence_on hst hcoh₂.1 hu (Or.inl rfl)
  refine ⟨⟨r, hr, hri, hrn.trans hun, ?_⟩, ⟨c, hc, hci, hcn.trans hun, ?_⟩⟩
  · rw [hcoh₂.1.licence_tally hx₂ hr, hri, hrn, hun, hlt]
    exact hdone.rebill_tally hst hp
  · rw [hcoh₂.1.licence_tally hx₂ hc, hci, hcn, hun, hlt]
    exact hdone.cancel_tally hst hp hv

theorem Store.CopiedSoFar.lines_copied {t : Transaction} (ht : t ∈ s₂.transactions)
    (hnt : t ∉ s.transactions) :
    ∃ u ∈ s.transactions, u.invoiceId = x.id ∧
      (t.CopyOf u b.id C true actor now ∨ t.CopyOf u b.id R false actor now) := by
  obtain ⟨ts, hts, hcop⟩ := hdone.added
  rw [hts, hst.transactions] at ht
  obtain ⟨u, hu, hcp⟩ := hcop.mem ((List.mem_append.1 ht).resolve_left hnt)
  exact ⟨u, (hst.mem_lines hu).1, (hst.mem_lines hu).2, hcp⟩

end Outcome

/-! ## The copies of an invoice rebilled -/

/-- What the copying of invoice `x` of `s` onto bill run `b`, by `actor` at `now`, leaves in
`s'`, where `c` and `r` are the rows of its cancel and rebill copies and `b'` the row of `b`.
Each licence of `x` has a licence of its number on each copy, on the rebill copy with its tally
and on the cancel copy with the mirror of it; the rebill copy carries the tally of `x`, the
cancel copy its mirror and so the opposite net; `b` grew by the tallies of both copies, kept its
net and is initialised; and every line added copies a line of `x`, naming it, with no client id,
made by `actor`. -/
structure RebillCopied (s s' : Store) (x : Invoice) (b : BillRun) (actor : String)
    (now : Instant) (c r : Invoice) (b' : BillRun) : Prop where
  licences : ∀ l ∈ s.licences, l.invoiceId = x.id →
    (∃ l' ∈ s'.licences, l'.invoiceId = r.id ∧ l'.licenceNumber = l.licenceNumber ∧
      l'.tally = l.tally) ∧
    ∃ l' ∈ s'.licences, l'.invoiceId = c.id ∧ l'.licenceNumber = l.licenceNumber ∧
      l.tally.Mirrors l'.tally
  rebill : r.tally = x.tally
  cancel : x.tally.Mirrors c.tally
  cancelNet : c.tally.net = -x.tally.net
  target : b'.tally = b.tally + (r.tally + c.tally)
  targetNet : b'.tally.net = b.tally.net
  initialised : b'.status = .initialised
  lines : ∀ t ∈ s'.transactions, t ∉ s.transactions → ∃ u ∈ s.transactions, u.invoiceId = x.id ∧
    t.rebilledTransactionId = some u.id ∧ t.clientId = none ∧ t.createdBy = actor ∧
    (t.CopyOf u b.id c.id true actor now ∨ t.CopyOf u b.id r.id false actor now)

/-- In every reachable ledger, a rebill of an invoice `x` onto a bill run `b` that returns its
cancel copy `C` and rebill copy `R`, with the copying it leaves, copies `x` exactly onto both:
the rebill copy and each of its licences carry the tallies of `x` and its licences, the cancel
copy and its licences their mirrors, and `b` grows by both, keeping its net; when no line of `x`
has a negative value. -/
theorem Reachable.rebill_copies_exactly {ok : Env → Prop} (h : Reachable ok s) (env : Env)
    (hr : Rebill.rebill env.now ref invoiceId actor s = .ok (C, R, task) s₁)
    (hx : x ∈ s.invoices) (hxid : x.id = invoiceId) (hb : b ∈ s.billRuns)
    (hbid : b.id = ref.billRunId)
    (hv : ∀ t ∈ s.transactions, t.invoiceId = invoiceId → 0 ≤ t.chargeValue) :
    ∃ c ∈ (task.perform env s₁).1.invoices, ∃ r ∈ (task.perform env s₁).1.invoices,
      ∃ b' ∈ (task.perform env s₁).1.billRuns, c.id = C.id ∧ r.id = R.id ∧ b'.id = b.id ∧
        RebillCopied s (task.perform env s₁).1 x b actor env.now c r b' := by
  have hcons := h.consistent
  have hcoh := h.coherent
  obtain ⟨rfl, hst, bt, hbt, hcs⟩ := rebill_starts hcons hcoh env.now hr hx hxid hb hbid
  obtain ⟨hdone, hcoh₂⟩ := copyInvoice_done env hst hbt hcs
  rw [← hxid] at hv
  generalize ((Task.copyInvoice x b.id C.id R.id actor).perform env s₁).1 = s₂ at hdone hcoh₂ ⊢
  have hx₂ := hdone.within.1.exact
  obtain ⟨c, hc, hcid⟩ : ∃ c ∈ s₂.invoices, c.id = C.id := by
    obtain ⟨c, hc, e⟩ := List.mem_map.1 (hdone.copies (C.id, b.id) (by simp))
    exact ⟨c, hc, congrArg Prod.fst e⟩
  obtain ⟨r, hr', hrid⟩ : ∃ r ∈ s₂.invoices, r.id = R.id := by
    obtain ⟨r, hr', e⟩ := List.mem_map.1 (hdone.copies (R.id, b.id) (by simp))
    exact ⟨r, hr', congrArg Prod.fst e⟩
  obtain ⟨l₀, hl₀, hl₀x⟩ := hcoh.2.invoices x hx List.not_mem_nil
  obtain ⟨u₀, hu₀, -⟩ := hst.line_of_licence hcons hcoh hl₀ hl₀x
  obtain ⟨b', hfind, hb'st⟩ := Option.map_eq_some_iff.1 (hdone.initialised (List.ne_nil_of_mem hu₀))
  have hb' : b' ∈ s₂.billRuns := List.mem_of_find?_eq_some hfind
  have hb'id : b'.id = b.id := id_of_billRun? hfind
  have hrt : r.tally = x.tally := by
    rw [hx₂.invoice_tally hr', hcons.exact.invoice_tally hx, tallyBy_eq_tallyWhere,
      tallyBy_eq_tallyWhere, hrid]
    simpa using hdone.rebill_tally hst (p := fun _ => true) fun _ _ _ _ _ => rfl
  have hct : x.tally.Mirrors c.tally := by
    rw [hx₂.invoice_tally hc, hcons.exact.invoice_tally hx, tallyBy_eq_tallyWhere,
      tallyBy_eq_tallyWhere, hcid]
    simpa using hdone.cancel_tally hst (p := fun _ => true) (fun _ _ _ _ _ => rfl) hv
  have hbt' : b'.tally = b.tally + (r.tally + c.tally) := by
    rw [hx₂.billRun_tally hb', hcons.exact.billRun_tally hb, hx₂.invoice_tally hr',
      hx₂.invoice_tally hc, tallyBy_eq_tallyWhere, tallyBy_eq_tallyWhere, tallyBy_eq_tallyWhere,
      tallyBy_eq_tallyWhere, hb'id, hrid, hcid]
    exact hdone.billRun_tally hst
  refine ⟨c, hc, r, hr', b', hb', hcid, hrid, hb'id, ?licences, hrt, hct, hct.net, hbt', ?net,
    hb'st, ?lines⟩
  case licences =>
    intro l hl hlx
    rw [hrid, hcid]
    exact hdone.licences_copied hst hcons hcoh hcoh₂ hv hl hlx
  case net =>
    rw [hbt', Tally.net_add, Tally.net_add, hrt, hct.net, Int64.add_right_neg, Int64.add_zero]
  case lines =>
    intro t ht hnt
    obtain ⟨u, hu, hux, hcp⟩ := hdone.lines_copied hst ht hnt
    rw [hcid, hrid]
    rcases hcp with hcp | hcp
    · exact ⟨u, hu, hux, hcp.rebilledTransactionId, hcp.clientId, hcp.createdBy, .inl hcp⟩
    · exact ⟨u, hu, hux, hcp.rebilledTransactionId, hcp.clientId, hcp.createdBy, .inr hcp⟩

def sentThenOpened : Store :=
  Request.step tenPoundRules (.create "wrls" "system" "A" "sroc") <|
  Request.step tenPoundRules (.send "wrls" (Uuid.ofSerial 36)) <|
  Request.step tenPoundRules (.approve "wrls" (Uuid.ofSerial 36)) <|
  Request.step tenPoundRules (.generate "wrls" (Uuid.ofSerial 36)) <|
  Request.step tenPoundRules (.record "wrls" (Uuid.ofSerial 36) "system" srocLine) <|
  Request.step tenPoundRules (.create "wrls" "system" "A" "sroc") (Store.seeded ⟨0⟩)

theorem srocInvoice_rebilled_exactly :
    ∃ C R task s₁ x b, Reachable (fun _ => True) sentThenOpened ∧
      Rebill.rebill tenPoundRules.now ⟨Uuid.ofSerial 27, "wrls", Uuid.ofSerial 40⟩
        (Uuid.ofSerial 38) "system" sentThenOpened = .ok (C, R, task) s₁ ∧
      x ∈ sentThenOpened.invoices ∧ x.id = Uuid.ofSerial 38 ∧
      b ∈ sentThenOpened.billRuns ∧ b.id = Uuid.ofSerial 40 ∧
      (∀ t ∈ sentThenOpened.transactions, t.invoiceId = Uuid.ofSerial 38 → 0 ≤ t.chargeValue) ∧
      ∃ c ∈ (task.perform tenPoundRules s₁).1.invoices,
        ∃ r ∈ (task.perform tenPoundRules s₁).1.invoices,
          ∃ b' ∈ (task.perform tenPoundRules s₁).1.billRuns, c.id = C.id ∧ r.id = R.id ∧
            b'.id = b.id ∧
            RebillCopied sentThenOpened (task.perform tenPoundRules s₁).1 x b "system"
              tenPoundRules.now c r b' := by
  have hreach : Reachable (fun _ => True) sentThenOpened :=
    .step _ _ trivial <| .step _ _ trivial <| .step _ _ trivial <| .step _ _ trivial <|
      .step _ _ trivial <| .step _ _ trivial <| .seeded ⟨0⟩
  have hok : (EStateM.run' (Rebill.rebill tenPoundRules.now
      ⟨Uuid.ofSerial 27, "wrls", Uuid.ofSerial 40⟩ (Uuid.ofSerial 38) "system")
        sentThenOpened).isSome = true := by
    decide +kernel
  obtain ⟨x, hx⟩ := Option.isSome_iff_exists.1 (by decide +kernel :
    (sentThenOpened.invoice? (Uuid.ofSerial 38)).isSome = true)
  obtain ⟨b, hb⟩ := Option.isSome_iff_exists.1 (by decide +kernel :
    (sentThenOpened.billRun? (Uuid.ofSerial 40)).isSome = true)
  have hxid : x.id = Uuid.ofSerial 38 := by simpa using List.find?_some hx
  have hbid : b.id = Uuid.ofSerial 40 := id_of_billRun? hb
  have hv : ∀ t ∈ sentThenOpened.transactions, t.invoiceId = Uuid.ofSerial 38 →
      0 ≤ t.chargeValue := by
    decide +kernel
  obtain ⟨⟨C, R, task⟩, s₁, hr⟩ := Op.exists_ok hok
  exact ⟨C, R, task, s₁, x, b, hreach, hr, List.mem_of_find?_eq_some hx, hxid,
    List.mem_of_find?_eq_some hb, hbid, hv,
    Reachable.rebill_copies_exactly hreach tenPoundRules hr (List.mem_of_find?_eq_some hx) hxid
      (List.mem_of_find?_eq_some hb) hbid hv⟩

end ChargeLedger
