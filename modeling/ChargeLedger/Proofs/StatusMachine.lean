import ChargeLedger.Proofs.Footprint

/-!
# The bill run status machine

Between requests a bill run rests: it is initialised, generated, approved, billed or billing not
required (`Store.Resting`). Generating, pending and sending are statuses a bill run passes
through inside one request and the work it leaves, and every way out of them, failures
included, ends in a resting status, as long as the file store takes the upload and the clock
reads a time the store can hold (`Env.Reliable`).

A request changes only the bill run it is about (`step_within`), and moves it only as the
request allows (`Request.Moves`): generating takes initialised to generated, approving generated
to approved, sending approved to billed or billing not required; a line recorded or copied onto
a generated bill run, or a deletion that leaves it without invoices, takes it back to
initialised; deleting removes an initialised or generated one. An approved, billed or
billing-not-required bill run keeps all its rows, except that sending an approved one writes its
invoices' references, its number and its file (`Store.Part.unsent`).
-/

set_option autoImplicit false

namespace ChargeLedger

namespace Status

def resting : Status → Bool
  | .initialised | .generated | .approved | .billed | .billingNotRequired => true
  | _ => false

def frozen : Status → Bool
  | .approved | .billed | .billingNotRequired => true
  | _ => false

theorem frozen_of_editable {a : Status} (h : a.editable = true) : a.frozen = false := by
  cases a <;> simp_all [editable, frozen]

end Status

/-- Surroundings in which work runs to its end: the file store takes every upload, and the clock
reads a time the store can hold. -/
def Env.Reliable (env : Env) : Prop := env.uploadRefusal = none ∧ env.now.storable = true

/-- A bill run's row with what sending writes on it cleared: its status, number and file, and
when they were written. -/
def BillRun.unsent (b : BillRun) : BillRun :=
  { b with status := .approved, billRunNumber := none, fileReference := none,
           fileCreatedAt := none, updatedAt := ⟨0⟩ }

/-- An invoice with its transaction reference, and when it was written, cleared. -/
def Invoice.unsent (i : Invoice) : Invoice :=
  { i with transactionReference := none, updatedAt := ⟨0⟩ }

namespace Store

/-- The rows of a bill run as far as sending leaves them alone. -/
def Part.unsent (p : Part) : Part :=
  { p with billRuns := p.billRuns.map BillRun.unsent, invoices := p.invoices.map Invoice.unsent }

/-- Every bill run rests. -/
def Resting (s : Store) : Prop := ∀ X a, s.statusOf X = some a → a.resting = true

variable {s s' : Store} {X Y : Uuid}

theorem statusOf_congr (h : s'.billRuns = s.billRuns) (X : Uuid) :
    s'.statusOf X = s.statusOf X := by
  simp only [statusOf, billRun?, h]

theorem billRun?_taken {allowed : List Status} {f : BillRun → BillRun}
    (hf : ∀ b, (f b).id = b.id) (h : (s.guarded X allowed f).1 = true) :
    ∃ b, s.billRun? X = some b ∧ b.status ∈ allowed ∧
      (s.guarded X allowed f).2.billRun? X = some (f b) := by
  obtain ⟨b, hb, ha⟩ := guarded_found h
  refine ⟨b, hb, by simpa using ha, ?_⟩
  rw [(guarded_true h).1, billRun?_mapBillRun hf, hb]
  simp [id_of_billRun? hb]

theorem statusOf_taken {allowed : List Status} {f : BillRun → BillRun}
    (hf : ∀ b, (f b).id = b.id) (h : (s.guarded X allowed f).1 = true) :
    ∃ b, s.billRun? X = some b ∧ b.status ∈ allowed ∧
      (s.guarded X allowed f).2.statusOf X = some (f b).status := by
  obtain ⟨b, hb, ha, hb'⟩ := billRun?_taken hf h
  exact ⟨b, hb, ha, by rw [statusOf, hb', Option.map_some]⟩

theorem billRun?_mapBillRun_self {b : BillRun} {f : BillRun → BillRun}
    (hf : ∀ b, (f b).id = b.id) (hb : s.billRun? X = some b) :
    (s.mapBillRun X f).billRun? X = some (f b) := by
  rw [billRun?_mapBillRun hf, hb]
  simp [id_of_billRun? hb]

theorem statusOf_guarded_ne {allowed : List Status} {f : BillRun → BillRun}
    (hf : ∀ b, (f b).id = b.id) (hY : Y ≠ X) :
    (s.guarded Y allowed f).2.statusOf X = s.statusOf X := by
  cases hg : (s.guarded Y allowed f).1
  · rw [guarded_false hg]
  · rw [(guarded_true hg).1, statusOf, statusOf, billRun?_mapBillRun hf]
    cases hb : s.billRun? X with
    | none => rfl
    | some b =>
      have : b.id ≠ Y := fun e => hY (e.symm.trans (id_of_billRun? hb))
      simp [this]

theorem guarded_keeps_status {P : Option Status → Prop} {allowed : List Status}
    {f : BillRun → BillRun} (hf : ∀ b, (f b).id = b.id)
    (hP : ∀ b, b.id = X → P (some b.status) → b.status ∈ allowed → P (some (f b).status))
    (h : P (s.statusOf X)) : P ((s.guarded Y allowed f).2.statusOf X) := by
  by_cases hY : Y = X
  · subst hY
    cases hg : (s.guarded Y allowed f).1
    · rwa [guarded_false hg]
    · obtain ⟨b, hb, ha, hst⟩ := statusOf_taken hf hg
      rw [hst]
      exact hP b (id_of_billRun? hb) (by rwa [statusOf, hb] at h) ha
  · rwa [statusOf_guarded_ne hf hY]

theorem statusOf_guarded_status {a target : Status} {allowed : List Status}
    {f : BillRun → BillRun} (hf : ∀ b, (f b).id = b.id) (ht : ∀ b, (f b).status = target)
    (h : s.statusOf X = some a) (ha : a ∈ allowed) :
    (s.guarded X allowed f).2.statusOf X = some target := by
  obtain ⟨b, hb, rfl⟩ := Option.map_eq_some_iff.1 h
  obtain ⟨c, -, -, hst⟩ := statusOf_taken hf (f := f) (by
    rw [guarded_of_billRun? hb (by simpa using ha)])
  rw [hst, ht]

theorem Sound.billRun?_of_mem (h : s.Sound) {b : BillRun} (hb : b ∈ s.billRuns) :
    s.billRun? b.id = some b := by
  have hsome : (s.billRuns.find? (·.id == b.id)).isSome :=
    List.find?_isSome.2 ⟨b, hb, beq_self_eq_true _⟩
  obtain ⟨c, hc⟩ := Option.isSome_iff_exists.1 hsome
  have hcb : c.id = b.id := by simpa using List.find?_some hc
  rw [billRun?, hc, List.inj_on_of_nodup_map h.billRuns_nodup (List.mem_of_find?_eq_some hc) hb hcb]

theorem Sound.billRun?_of_billRunIn? (h : s.Sound) {R : Uuid} {b : BillRun}
    (hb : s.billRunIn? R X = some b) : s.billRun? X = some b :=
  (id_of_billRunIn? hb).1 ▸ h.billRun?_of_mem (List.mem_of_find?_eq_some hb)

theorem billRunIn?_of_billRun? {R : Uuid} {b : BillRun} (hb : s.billRun? X = some b)
    (hR : b.regimeId = R) : s.billRunIn? R X = some b := by
  unfold billRun? at hb
  unfold billRunIn?
  generalize s.billRuns = l at hb ⊢
  induction l with
  | nil => simp at hb
  | cons c rest ih =>
    by_cases hc : c.id = X
    · simp only [List.find?_cons, hc, beq_self_eq_true, Option.some.injEq] at hb
      subst hb
      simp [hc, hR]
    · have hc : (c.id == X) = false := by simpa using hc
      simp only [List.find?_cons, hc, Bool.false_and] at hb ⊢
      exact ih hb

theorem Sound.statusOf_of_mem (h : s.Sound) {b : BillRun} (hb : b ∈ s.billRuns) :
    s.statusOf b.id = some b.status := by
  rw [statusOf, h.billRun?_of_mem hb, Option.map_some]

theorem Resting.not_generating (h : s.Resting) (hs : s.Sound) :
    ∀ b ∈ s.billRuns, b.status ≠ .generating := fun b hb e => by
  have := h _ _ (hs.statusOf_of_mem hb)
  rw [e] at this
  exact Bool.false_ne_true this

theorem statusOf_deleteBillRun (s : Store) (X : Uuid) :
    ({ s with
      transactions := s.transactions.filter (·.billRunId != X)
      licences := s.licences.filter (·.billRunId != X)
      invoices := s.invoices.filter (·.billRunId != X)
      billRuns := s.billRuns.filter (·.id != X) } : Store).statusOf X = none := by
  simp [statusOf, billRun?, List.find?_eq_none]

/-! ### What sending leaves alone -/

theorem map_filter_map_of {α β : Type} {p : α → Bool} {u : α → β} {F : α → α}
    (hp : ∀ a, p (F a) = p a) (hu : ∀ a, u (F a) = u a) (l : List α) :
    ((l.map F).filter p).map u = (l.filter p).map u := by
  rw [List.filter_map, List.map_map, show p ∘ F = p from funext hp,
    show u ∘ F = u from funext hu]

theorem unsent_mapBillRun {f : BillRun → BillRun} (hf : ∀ b, (f b).id = b.id)
    (hu : ∀ b, (f b).unsent = b.unsent) (Y : Uuid) :
    ((s.mapBillRun Y f).part X).unsent = (s.part X).unsent := by
  simp only [Part.unsent, part, mapBillRun]
  rw [map_filter_map_of (fun b => by split <;> simp [hf]) fun b => by split <;> simp [hu]]

theorem unsent_mapInvoice {g : Invoice → Invoice} (hg : ∀ i, (g i).billRunId = i.billRunId)
    (hu : ∀ i, (g i).unsent = i.unsent) (J : Uuid) :
    ((s.mapInvoice J g).part X).unsent = (s.part X).unsent := by
  simp only [Part.unsent, part, mapInvoice]
  rw [map_filter_map_of (fun i => by split <;> simp [hg]) fun i => by split <;> simp [hu]]

theorem unsent_guarded {allowed : List Status} {f : BillRun → BillRun}
    (hf : ∀ b, (f b).id = b.id) (hu : ∀ b, (f b).unsent = b.unsent) :
    ((s.guarded Y allowed f).2.part X).unsent = (s.part X).unsent := by
  cases hg : (s.guarded Y allowed f).1
  · rw [guarded_false hg]
  · rw [(guarded_true hg).1, unsent_mapBillRun hf hu]

end Store

open Op Store

variable {s₀ : Store} {X : Uuid}

/-! ## Writes that move a status -/

theorem transition_spec (now : Instant) (source target : Status) :
    Triple (· = s₀) (BillRun.transition now X source target)
      (fun _ s => s₀.statusOf X = some source ∧ s.statusOf X = some target) (· = s₀) := by
  refine Triple.modifyGet_bind ?_
  cases hg : (s₀.guarded X [source] fun b => { b with status := target, updatedAt := now }).1
  · have h := guarded_false hg
    exact (conflict_fails X source).mono (fun _ h => h) (fun _ _ h => h.elim) fun _ e => e.trans h
  · obtain ⟨b, hb, hsrc, hst⟩ := statusOf_taken (by intro; rfl) hg
    have hsrc : b.status = source := by simpa using hsrc
    exact Triple.pure fun _ e => e ▸ ⟨by rw [statusOf, hb, Option.map_some, hsrc], hst⟩

theorem keeps_status_guarded {P : Option Status → Prop} {Y : Uuid} {allowed : List Status}
    {f : BillRun → BillRun} (hf : ∀ b, (f b).id = b.id)
    (hP : ∀ b, b.id = X → P (some b.status) → b.status ∈ allowed → P (some (f b).status)) :
    Keeps (fun s => P (s.statusOf X)) (modifyGet fun s => s.guarded Y allowed f : Op Bool) :=
  .modifyGet fun _ h => ⟨guarded_keeps_status hf hP h, Nat.le_of_eq guarded_issued.symm⟩

theorem post_billRuns (now : Instant) (t : Transaction) (how : Posting) :
    Triple (· = s₀) (post now t how)
      (fun _ s => (s₀.guarded t.billRunId how.allowed (BillRun.posted now t.tally)).1 = true ∧
        s.billRuns = (s₀.guarded t.billRunId how.allowed (BillRun.posted now t.tally)).2.billRuns ∧
        s₀.issued ≤ s.issued)
      (fun s => (s.billRuns = s₀.billRuns ∨
        s.billRuns = (s₀.guarded t.billRunId how.allowed (BillRun.posted now t.tally)).2.billRuns) ∧
        s₀.issued ≤ s.issued) := by
  unfold post
  extract_lets delta line invoice
  rw [addBillRunTally_eq]
  have hfin : ∀ (F : List BillRun) (u : Transaction), Keeps (fun s => s.billRuns = F)
      (insertTransaction u >>= fun _ => pure u) := fun _ _ =>
    .bind (.modify fun _ h => ⟨h, Nat.le_refl _⟩) fun _ => .pure _
  have hline : ∀ F I, Keeps (fun s => s.billRuns = F) (line I) := fun F I => by
    simp only [line, upsertLicence]
    refine .bind (.bind (.modifyGet fun _ h => ⟨h, Nat.le_succ _⟩) fun _ =>
      .modifyGet fun _ h => ⟨by split <;> exact h, by split <;> exact Nat.le_refl _⟩) fun _ => ?_
    split
    · refine .bind .get fun _ => ?_
      split
      · exact .bind (.throw _) fun _ => hfin F _
      · exact hfin F _
    · exact hfin F _
  have hinvoice : ∀ F u, Keeps (fun s => s.billRuns = F) (invoice u) := fun F u => by
    simp only [invoice]
    split
    · exact .bind (.modifyGet fun _ h => ⟨h, Nat.le_refl _⟩) fun _ => .bind (.require _ _) fun _ =>
        .bind (.pure _) (hline F)
    · simp only [upsertInvoice]
      exact .bind (.bind (.modifyGet fun _ h => ⟨h, Nat.le_succ _⟩) fun _ =>
        .modifyGet fun _ h => ⟨by split <;> exact h, by split <;> exact Nat.le_refl _⟩) (hline F)
  refine Triple.modifyGet_bind ?_
  cases hg : (s₀.guarded t.billRunId how.allowed (BillRun.posted now delta)).1
  · have h := guarded_false hg
    refine .bind ((refusal_fails (E := (· = s₀)) t.billRunId h).mono (fun _ e => e)
      (fun _ _ h => h) fun _ e => ⟨Or.inl (congrArg billRuns e), Nat.le_of_eq (congrArg issued e).symm⟩)
      fun _ => .absurd _
  · exact (hinvoice _ () s₀.issued).mono (fun _ e => ⟨congrArg billRuns e, e ▸ guarded_issued.ge⟩)
      (fun _ _ h => ⟨rfl, h⟩) fun _ h => ⟨Or.inr h.1, h.2⟩

theorem post_statusOf (now : Instant) (t : Transaction) (how : Posting) :
    Triple (· = s₀) (post now t how)
      (fun _ s => (s₀.guarded t.billRunId how.allowed (BillRun.posted now t.tally)).1 = true ∧
        s.statusOf = (s₀.guarded t.billRunId how.allowed (BillRun.posted now t.tally)).2.statusOf ∧
        s₀.issued ≤ s.issued)
      (fun s => (s.statusOf = s₀.statusOf ∨
        s.statusOf = (s₀.guarded t.billRunId how.allowed (BillRun.posted now t.tally)).2.statusOf) ∧
        s₀.issued ≤ s.issued) :=
  (post_billRuns now t how).mono (fun _ h => h)
    (fun _ _ h => ⟨h.1, funext (statusOf_congr h.2.1), h.2.2⟩)
    fun _ h => ⟨h.1.imp (fun e => funext (statusOf_congr e)) (fun e => funext (statusOf_congr e)),
      h.2⟩

theorem post_keeps_status {P : Option Status → Prop} (now : Instant) (t : Transaction)
    (how : Posting)
    (hP : ∀ b, b.id = X → P (some b.status) → b.status ∈ how.allowed →
      P (some (BillRun.posted now t.tally b).status)) :
    Keeps (fun s => P (s.statusOf X)) (post now t how) := fun _ =>
  Triple.of_eq fun s hs => by
    have hg := guarded_keeps_status (Y := t.billRunId) (f := BillRun.posted now t.tally) (fun _ => rfl) hP hs.1
    exact (post_statusOf now t how).mono (fun _ e => e)
      (fun _ _ h => ⟨show P _ by rw [h.2.1]; exact hg, hs.2.trans h.2.2⟩)
      fun _ h => ⟨show P _ by rcases h.1 with e | e <;> rw [e]; exacts [hs.1, hg], hs.2.trans h.2⟩

/-! ## What each request does to the status of its bill run -/

theorem approve_outcome (now : Instant) (ref : BillRunRef) :
    Triple (· = s₀) (BillRun.approve now ref)
      (fun _ s => s₀.statusOf ref.billRunId = some .generated ∧
        s.statusOf ref.billRunId = some .approved) (· = s₀) := by
  refine Triple.bind (billRunOf_found ref) fun b => Triple.of_eq fun _ h => ?_
  obtain ⟨rfl, hb⟩ := h
  rw [← (id_of_billRunIn? hb).1]
  exact transition_spec now _ _

theorem record_outcome (env : Env) (ref : BillRunRef) (actor : String) (payload : Payload) :
    Triple (· = s₀) (record env ref actor payload)
      (fun _ s => (∃ a, s₀.statusOf ref.billRunId = some a ∧ a.editable = true) ∧
        s.statusOf ref.billRunId = some .initialised)
      (fun s => s.part ref.billRunId = s₀.part ref.billRunId) := by
  unfold record
  extract_lets p issues jp
  clear_value p issues
  have hjp : ∀ c, Triple (· = s₀) (jp c)
      (fun _ s => (∃ a, s₀.statusOf ref.billRunId = some a ∧ a.editable = true) ∧
        s.statusOf ref.billRunId = some .initialised)
      (fun s => s.part ref.billRunId = s₀.part ref.billRunId) := by
    intro c
    refine Triple.bind ((billRunOf_found ref).mono (fun _ h => h) (fun _ _ h => h)
      fun _ e => by rw [e]) fun b => Triple.of_eq fun s h => ?_
    obtain ⟨e, hb⟩ := h
    subst s
    repeat refine Triple.require_bind (fun _ _ e => by rw [e]) fun _ => ?_
    refine Triple.bind ((ofExcept_keeps (I := (· = s₀)) _).triple.mono (fun _ h => h)
      (fun _ _ h => h) fun _ e => by rw [e]) fun priced => Triple.of_eq fun _ e => ?_
    subst e
    refine Triple.fresh_bind (Triple.atomically fun _ e => ?_)
    subst e
    refine (post_statusOf env.now _ {}).mono (fun _ h => h) (fun _ _ h => ?_) fun _ _ => rfl
    obtain ⟨c, hc, ha, hst⟩ := statusOf_taken (by intro; rfl) h.1
    rw [← (id_of_billRunIn? hb).1]
    have hed : c.status = .initialised ∨ c.status = .generated := by simpa using ha
    refine ⟨⟨c.status, by rw [statusOf]; exact congrArg (Option.map _) hc, ?_⟩, ?_⟩
    · rcases hed with e | e <;> rw [e] <;> rfl
    · rw [congrFun h.2.1]
      refine hst.trans ?_
      rcases hed with e | e <;> simp [BillRun.posted, e]
  refine Triple.require_bind (fun _ _ e => by rw [e]) fun _ => ?_
  split
  · exact Triple.bind (Triple.pure fun _ h => h) hjp
  · exact Triple.throw fun _ e => by rw [e]

theorem delete_outcome (now : Instant) (ref : BillRunRef) :
    Triple (· = s₀) (BillRun.delete now ref)
      (fun _ s => (∃ a, s₀.statusOf ref.billRunId = some a ∧ a.editable = true) ∧
        s.statusOf ref.billRunId = none)
      (fun s => s.part ref.billRunId = s₀.part ref.billRunId) := by
  refine Triple.bind ((billRunOf_found ref).mono (fun _ h => h) (fun _ _ h => h)
    fun _ e => by rw [e]) fun b => Triple.of_eq fun s h => ?_
  obtain ⟨e, hb⟩ := h
  subst s
  rw [← (id_of_billRunIn? hb).1]
  refine Triple.require_bind (fun _ _ e => by rw [e]) fun hed =>
    Triple.atomically fun s₁ e => ?_
  subst s₁
  refine Triple.modifyGet_bind ?_
  cases hg : (s₀.guarded b.id [b.status] fun c => { c with status := b.status, updatedAt := now }).1
  · exact Triple.bind ((conflict_fails _ _).mono (fun _ h => h) (fun _ _ h => h) fun _ _ => rfl)
      fun _ => Triple.absurd _
  · obtain ⟨c, hc, ha, -⟩ := statusOf_taken (by intro; rfl) hg
    have hca : c.status = b.status := by simpa using ha
    have hst : s₀.statusOf b.id = some c.status := by rw [statusOf, hc, Option.map_some]
    exact Triple.modify fun _ _ => ⟨⟨c.status, hst, hca ▸ hed⟩, statusOf_deleteBillRun _ _⟩

theorem summarise_status (now : Instant) (b : BillRun) (th : Thresholds) :
    Triple (fun _ => True) (BillRun.summarise now b th)
      (fun _ s => s.statusOf b.id = some .generated) (fun _ => True) := by
  unfold BillRun.summarise
  extract_lets jp
  have hjp : ∀ charged, Triple (fun _ => True) (jp charged)
      (fun _ s => s.statusOf b.id = some .generated) (fun _ => True) := by
    intro charged
    dsimp only [jp]
    refine .bind (.always _) fun _ => ?_
    refine .bind (.always _) fun _ => .bind (Triple.modifyGet
      (Q := fun ok s => ok = true → s.statusOf b.id = some .generated) fun _ _ h => ?_) fun _ =>
      Triple.require fun _ h => ⟨h, fun _ => True.intro⟩
    obtain ⟨c, -, -, hst⟩ := statusOf_taken (by intro; rfl) h
    exact hst
  refine .bind (.always _) fun _ => ?_
  split
  · exact .bind (.always _) fun _ => .bind (.always _) hjp
  · exact hjp []

theorem generate_outcome (env : Env) (ref : BillRunRef) :
    Triple (· = s₀) (BillRun.generate env ref)
      (fun _ s => s₀.statusOf ref.billRunId = some .initialised ∧
        (s.statusOf ref.billRunId = some .initialised ∨
          s.statusOf ref.billRunId = some .generated))
      (fun s => s.part ref.billRunId = s₀.part ref.billRunId ∨
        s₀.statusOf ref.billRunId = some .initialised ∧
        (s.statusOf ref.billRunId = some .initialised ∨
          s.statusOf ref.billRunId = some .generated)) := by
  unfold BillRun.generate
  refine Triple.bind ((billRunOf_found ref).mono (fun _ h => h) (fun _ _ h => h)
    fun _ e => Or.inl (by rw [e])) fun b => Triple.of_eq fun s h => ?_
  obtain ⟨e, hb⟩ := h
  subst s
  rw [← (id_of_billRunIn? hb).1]
  repeat refine Triple.require_bind (fun _ _ e => Or.inl (by rw [e])) fun _ => ?_
  refine Triple.get_bind (Triple.require_bind (fun _ _ e => Or.inl (by rw [e])) fun _ => ?_)
  refine Triple.bind ((transition_spec env.now _ _).mono (fun _ h => h) (fun _ _ h => h)
    fun _ e => Or.inl (by rw [e])) fun _ => ?_
  -- from here on the bill run was initialised and is generating; a failed block leaves it so
  have hblock : Triple (fun s => s₀.statusOf b.id = some .initialised ∧
      s.statusOf b.id = some .generating)
      (Store.atomically (BillRun.summarise env.now b (env.thresholds.lookup ref.regimeSlug)))
      (fun _ s => s₀.statusOf b.id = some .initialised ∧ s.statusOf b.id = some .generated)
      (fun s => s₀.statusOf b.id = some .initialised ∧ s.statusOf b.id = some .generating) :=
    Triple.atomically fun _ h₁ => (summarise_status _ _ _).mono (fun _ _ => True.intro)
      (fun _ _ h => ⟨h₁.1, h⟩) fun _ _ => h₁
  refine Triple.bind (Triple.tryCatch hblock fun _ => ?_) fun _ => ?_
  · exact Triple.bind (Triple.modifyGet (Q := fun _ s => s₀.statusOf b.id = some .initialised ∧
        s.statusOf b.id = some .initialised) fun _ h =>
      ⟨h.1, statusOf_guarded_status (by intro; rfl) (by intro; rfl) h.2 (List.mem_singleton_self _)⟩)
      fun _ => Triple.throw fun _ h => Or.inr ⟨h.1, Or.inl h.2⟩
  · exact (billRunOf_found ref).mono (fun _ h => h) (fun _ _ h => ⟨h.1.1, Or.inr h.1.2⟩)
      fun _ h => Or.inr ⟨h.1, Or.inr h.2⟩

/-! ## Sending and transmitting -/

theorem billRunOf_read {P : Store → Prop} (ref : BillRunRef) :
    Triple P (billRunOf ref) (fun b s => P s ∧ s.billRunIn? ref.regimeId ref.billRunId = some b ∧
      b.readable = true) P := by
  refine Triple.of_eq fun s hs => Triple.get_bind ?_
  cases hb : s.billRunIn? ref.regimeId ref.billRunId with
  | none => exact Triple.throw fun _ e => e ▸ hs
  | some b =>
    cases hr : b.readable
    · simp only [Store.readRow, hr]
      exact Triple.throw fun _ e => e ▸ hs
    · simp only [Store.readRow, hr]
      exact Triple.pure fun _ e => by subst e; exact ⟨hs, hb, hr⟩

theorem billRunOf_some {ref : BillRunRef} {b : BillRun}
    (hb : s₀.billRunIn? ref.regimeId ref.billRunId = some b) (hr : b.readable = true) :
    Triple (· = s₀) (billRunOf ref) (fun b' s => b' = b ∧ s = s₀) (fun _ => False) := by
  refine Triple.get_bind ?_
  simp only [hb, Store.readRow, hr]
  exact Triple.pure fun _ e => ⟨rfl, e⟩

theorem transition_taken (now : Instant) {b : BillRun} {source target : Status}
    (hb : s₀.billRun? X = some b) (hs : b.status = source) :
    Triple (· = s₀) (BillRun.transition now X source target)
      (fun _ s => s = s₀.mapBillRun X fun c => { c with status := target, updatedAt := now })
      (fun _ => False) := by
  refine Triple.modifyGet_bind ?_
  rw [guarded_of_billRun? hb (by simp [hs])]
  exact Triple.pure fun _ e => e

/-- A sent bill run waiting for its transmission: pending in its regime, with times that read
back. -/
def Queued (X R : Uuid) (s : Store) : Prop :=
  ∃ b, s.billRun? X = some b ∧ b.regimeId = R ∧ b.status = .pending ∧
    b.createdAt.storable = true ∧ b.fileCreatedAt.all Instant.storable = true

/-- Since `s₀` the bill run rows are as they were, and `X` changed only where sending writes. -/
def Numbering (X : Uuid) (s₀ s : Store) : Prop :=
  s.billRuns = s₀.billRuns ∧ (s.part X).unsent = (s₀.part X).unsent

theorem assignReferences_outcome (now : Instant) (ref : BillRunRef) {b : BillRun}
    (hb : s₀.billRun? b.id = some b) (hc : b.createdAt.storable = true)
    (hnow : now.storable = true) :
    Triple (· = s₀) (BillRun.assignReferences now ref b)
      (fun _ s => Queued b.id b.regimeId s ∧ (s.part b.id).unsent = (s₀.part b.id).unsent)
      (fun _ => True) := by
  unfold BillRun.assignReferences
  have hnext : ∀ q, Keeps (Numbering b.id s₀) (BillRun.nextNumber now ref b q) := fun _ =>
    .bind (next_keeps_of (fun _ _ h => h) _ _ _ _) fun _ => .bind (.require _ _) fun _ => .pure _
  refine Triple.get_bind (Triple.bind (Keeps.triple (I := Numbering b.id s₀) ?_ |>.mono
    (fun _ e => ?_) (fun _ _ h => h)
    fun _ _ => True.intro) fun _ => ?_)
  · refine Keeps.forM fun _ _ => .bind (hnext _) fun _ => ?_
    exact .modify fun _ h => ⟨⟨h.1, (unsent_mapInvoice (by intro; rfl) (by intro; rfl) _).trans h.2⟩,
      Nat.le_refl _⟩
  · rw [e]
    exact ⟨rfl, rfl⟩
  refine Triple.bind ((hnext _).triple.mono (fun _ h => h) (fun _ _ h => h) fun _ _ => True.intro)
    fun number => ?_
  extract_lets assign
  have hassign : ∀ file, Triple (Numbering b.id s₀) (assign file)
      (fun _ s => Queued b.id b.regimeId s ∧ (s.part b.id).unsent = (s₀.part b.id).unsent)
      (fun _ => True) := by
    intro file
    refine Triple.bind (Triple.modifyGet (Q := fun ok s => ok = true →
      Queued b.id b.regimeId s ∧ (s.part b.id).unsent = (s₀.part b.id).unsent)
      fun s hs hok => ?_) fun ok => ?_
    · obtain ⟨c, hc', -, hrow⟩ := billRun?_taken (by intro; rfl) hok
      have hsb : s.billRun? b.id = some b := by
        unfold billRun?
        rw [hs.1]
        exact hb
      obtain rfl : c = b := Option.some.inj (hc'.symm.trans hsb)
      exact ⟨⟨_, hrow, rfl, rfl, hc, by cases file <;> simp [hnow]⟩,
        (unsent_guarded (by intro; rfl) (by intro; rfl)).trans hs.2⟩
    · cases ok
      · exact (conflict_fails _ _).mono (fun _ _ => True.intro) (fun _ _ h => h.elim)
          fun _ _ => True.intro
      · exact Triple.pure fun _ h => h rfl
  split
  · exact Triple.bind (Triple.pure fun _ h => h) hassign
  · exact Triple.bind ((next_keeps_of (I := Numbering b.id s₀) (fun _ _ h => h) _ _ _ _).triple.mono
      (fun _ h => h) (fun _ _ h => h) fun _ _ => True.intro) fun _ =>
      Triple.bind (Triple.pure fun _ h => h) hassign
theorem send_outcome (now : Instant) (ref : BillRunRef) (hs₀ : s₀.Sound)
    (hnow : now.storable = true) :
    Triple (· = s₀) (BillRun.send now ref)
      (fun task s => task = .transmit ref ∧ s₀.statusOf ref.billRunId = some .approved ∧
        Queued ref.billRunId ref.regimeId s ∧
        (s.part ref.billRunId).unsent = (s₀.part ref.billRunId).unsent)
      (fun s => s.part ref.billRunId = s₀.part ref.billRunId) := by
  refine Triple.bind ((billRunOf_read ref).mono (fun _ h => h) (fun _ _ h => h)
    fun _ e => by rw [e]) fun b => Triple.of_eq fun s h => ?_
  obtain ⟨e, hb, hread⟩ := h
  subst s
  obtain ⟨hid, hR⟩ := id_of_billRunIn? hb
  have hrow : s₀.billRun? b.id = some b := by
    rw [hid]
    exact hs₀.billRun?_of_billRunIn? hb
  have hc : b.createdAt.storable = true := by
    simp only [BillRun.readable, Bool.and_eq_true] at hread
    exact hread.1.1
  rw [← hid, ← hR]
  refine Triple.require_bind (fun _ _ e => by rw [e]) fun hap => ?_
  have hst : s₀.statusOf b.id = some .approved := by
    rw [statusOf, hrow, Option.map_some, eq_of_beq hap]
  refine Triple.bind (Triple.atomically fun s₁ e => ?_) fun _ =>
    Triple.pure fun _ h => ⟨rfl, hst, h⟩
  subst s₁
  exact (assignReferences_outcome now ref hrow hc hnow).mono (fun _ h => h) (fun _ _ h => h)
    fun _ _ => rfl

theorem transmit_outcome (env : Env) (ref : BillRunRef) (henv : env.Reliable)
    (hq : Queued ref.billRunId ref.regimeId s₀) :
    Triple (· = s₀) (BillRun.transmit env ref)
      (fun _ s => (s.statusOf ref.billRunId = some .billed ∨
        s.statusOf ref.billRunId = some .billingNotRequired) ∧
        (s.part ref.billRunId).unsent = (s₀.part ref.billRunId).unsent)
      (fun _ => False) := by
  obtain ⟨c, hc, hR, hpend, hcreated, hfile⟩ := hq
  have hcid := id_of_billRun? hc
  unfold BillRun.transmit
  refine Triple.bind (transition_taken env.now hc hpend) fun _ => Triple.of_eq fun s e => ?_
  subst s
  have hrow : (s₀.mapBillRun ref.billRunId fun c =>
      { c with status := .sending, updatedAt := env.now }).billRun? ref.billRunId =
      some { c with status := .sending, updatedAt := env.now } :=
    billRun?_mapBillRun_self (fun _ => rfl) hc
  have hread : BillRun.readable { c with status := .sending, updatedAt := env.now } = true := by
    simp [BillRun.readable, hcreated, henv.2, hfile]
  refine Triple.bind (billRunOf_some (billRunIn?_of_billRun? hrow hR) hread) fun b =>
    Triple.of_eq fun s h => ?_
  obtain ⟨rfl, rfl⟩ := h
  rw [← hcid] at hrow ⊢
  have hlast : ∀ target, target = .billed ∨ target = .billingNotRequired →
      Triple (· = s₀.mapBillRun c.id fun c => { c with status := .sending, updatedAt := env.now })
        (BillRun.transition env.now c.id .sending target)
        (fun _ s => (s.statusOf c.id = some .billed ∨ s.statusOf c.id = some .billingNotRequired) ∧
          (s.part c.id).unsent = (s₀.part c.id).unsent) (fun _ => False) := fun target ht =>
    (transition_taken env.now hrow rfl).mono (fun _ h => h) (fun _ _ e => by
      subst e
      refine ⟨?_, (unsent_mapBillRun (by intro; rfl) (by intro; rfl) _).trans
        (unsent_mapBillRun (by intro; rfl) (by intro; rfl) _)⟩
      rw [statusOf, billRun?_mapBillRun_self (by intro; rfl) hrow, Option.map_some]
      rcases ht with rfl | rfl <;> simp) fun _ h => h
  split
  · exact Triple.bind (hlast _ (Or.inr rfl)) fun _ => Triple.pure fun _ h => h
  · refine Triple.get_bind ?_
    rw [henv.1]
    exact Triple.bind (hlast _ (Or.inl rfl)) fun _ => Triple.pure fun _ h => h

/-! ## Deleting licences and invoices -/

theorem keeps_status_modify {P : Option Status → Prop} {f : Store → Store}
    (hf : ∀ s, (f s).billRuns = s.billRuns ∧ s.issued ≤ (f s).issued) :
    Keeps (fun s => P (s.statusOf X)) (modify f : Op Unit) :=
  .modify fun s h => ⟨by rwa [statusOf_congr (hf s).1], (hf s).2⟩

theorem keeps_status_modifyGet {α : Type} {P : Option Status → Prop} {f : Store → α × Store}
    (hf : ∀ s, (f s).2.billRuns = s.billRuns ∧ s.issued ≤ (f s).2.issued) :
    Keeps (fun s => P (s.statusOf X)) (MonadState.modifyGet f : Op α) :=
  .modifyGet fun s h => ⟨by rwa [statusOf_congr (hf s).1], (hf s).2⟩

theorem subtract_pending (now : Instant) (Y : Uuid) (δ : Tally) :
    Keeps (fun s => s.statusOf X = some .pending) (Deletion.subtract now Y δ) := by
  unfold Deletion.subtract
  rw [addBillRunTally_eq]
  refine .bind (keeps_status_guarded (P := (· = some .pending)) (fun _ => rfl)
    fun b _ hb _ => ?_) fun _ => .require _ _
  simp only [Option.some.injEq] at hb
  simp [BillRun.posted, hb]

theorem removeLicence_pending (now : Instant) (Y L : Uuid) :
    Keeps (fun s => s.statusOf X = some .pending) (Deletion.removeLicence now Y L) := by
  refine .bind .get fun s => ?_
  split
  · refine .bind (subtract_pending _ _ _) fun _ =>
      .bind (keeps_status_modifyGet (P := (· = some .pending)) fun _ => ⟨rfl, Nat.le_refl _⟩)
      fun _ => .bind (keeps_status_modify (P := (· = some .pending)) fun _ => ⟨rfl, Nat.le_refl _⟩)
      fun _ => .bind .get fun _ => ?_
    split
    · exact .pure _
    · exact .bind (keeps_status_modify (P := (· = some .pending)) fun _ => ⟨rfl, Nat.le_refl _⟩)
        fun _ => .pure _
  · exact .throw _

theorem removeInvoice_pending (now : Instant) (Y I : Uuid) :
    Keeps (fun s => s.statusOf X = some .pending) (Deletion.removeInvoice now Y I) := by
  refine .bind .get fun s => ?_
  split
  · exact .bind (subtract_pending _ _ _) fun _ =>
      .bind (keeps_status_modify (P := (· = some .pending)) fun _ => ⟨rfl, Nat.le_refl _⟩)
      fun _ => .pure _
  · exact .throw _

theorem resummarise_pending (env : Env) (slug : String) (Y : Uuid) (left : Option Uuid) :
    Keeps (fun s => s.statusOf X = some .pending) (Deletion.resummarise env slug Y left) :=
  .resummarise (fun _ _ => keeps_status_modify (P := (· = some .pending)) fun _ => ⟨rfl, Nat.le_refl _⟩)
    fun _ => keeps_status_guarded (P := (· = some .pending)) (fun _ => rfl) fun _ _ _ _ => rfl

theorem setStatus_from {a target : Status} {allowed : List Status} {E : Store → Prop}
    (now : Instant) (ha : a ∈ allowed) :
    Triple (fun s => s.statusOf X = some a) (setStatus X allowed target now)
      (fun ok s => ok = true ∧ s.statusOf X = some target) E := by
  refine Triple.modifyGet fun s hs => ⟨?_, statusOf_guarded_status (fun _ => rfl) (fun _ => rfl) hs ha⟩
  obtain ⟨b, hb, rfl⟩ := Option.map_eq_some_iff.1 hs
  rw [guarded_of_billRun? hb (by simpa using ha)]

theorem setStatus_from_invoices {a target : Status} {allowed : List Status} {E : Store → Prop}
    (now : Instant) (ha : a ∈ allowed) (is : List Invoice) :
    Triple (fun s => s.statusOf X = some a ∧ s.invoices = is) (setStatus X allowed target now)
      (fun ok s => (ok = true ∧ s.statusOf X = some target) ∧ s.invoices = is) E :=
  ((setStatus_from now ha).conj (Keeps.modifyGet fun _ h =>
    ⟨guarded_rows.1.trans h, Nat.le_of_eq guarded_issued.symm⟩ : Keeps (fun s => s.invoices = is)
      (setStatus X allowed target now)).triple).mono (fun _ h => h) (fun _ _ h => h) fun _ h => h.1


theorem cascade_outcome (env : Env) (ref : BillRunRef) (prior : Status) {remove : Op (Option Uuid)}
    (hrem : Keeps (fun s => s.statusOf ref.billRunId = some .pending) remove) :
    Triple (fun s => s.statusOf ref.billRunId = some prior) (Deletion.cascade env ref prior remove)
      (fun _ s => s.statusOf ref.billRunId = some prior ∨
        s.statusOf ref.billRunId = some .initialised ∧ s.invoiceCount ref.billRunId = 0)
      (fun s => s.statusOf ref.billRunId = some prior) := by
  unfold Deletion.cascade
  refine Triple.bind (setStatus_from env.now (List.mem_singleton_self _)) fun ok => ?_
  refine Triple.require_bind (fun hok _ h => by simp [hok] at h) fun _ => ?_
  -- the removal and the new summary write the bill run only by keeping it pending, and a failed
  -- block puts back the store where it was pending
  have hblock : Keeps (fun s => s.statusOf ref.billRunId = some .pending)
      (do
        Store.atomically do
          let left ← remove
          if prior == .generated then Deletion.resummarise env ref.regimeSlug ref.billRunId left
        pure none : Op (Option Fault)) := by
    refine .bind (.atomic (.bind hrem fun left => ?_) fun _ _ h _ => h) fun _ => .pure _
    split
    · exact resummarise_pending _ _ _ _
    · exact .pure ()
  refine Triple.bind (Triple.tryCatch (hblock.triple.mono (fun _ h => h.2) (fun _ _ h => h)
    fun _ h => h) fun _ => Triple.pure fun _ h => h)
    fun outcome => Triple.of_eq fun s₁ hs₁ => Triple.get_bind ?_
  cases outcome with
  | none =>
    refine Triple.bind ((setStatus_from_invoices env.now (List.mem_singleton_self _)
      s₁.invoices).mono (fun _ e => ⟨e ▸ hs₁, e ▸ rfl⟩) (fun _ _ h => And.intro h.1.2 h.2) fun _ h => h)
      fun _ => Triple.pure fun s h => ?_
    by_cases hz : (s₁.invoiceCount ref.billRunId == 0) = true
    · rw [if_pos hz] at h
      have hcount : s.invoiceCount ref.billRunId = s₁.invoiceCount ref.billRunId := by
        rw [invoiceCount, invoiceCount, h.2]
      exact Or.inr ⟨h.1, hcount.trans (beq_iff_eq.1 hz)⟩
    · rw [if_neg hz] at h
      exact Or.inl h.1
  | some e =>
    exact Triple.bind ((setStatus_from env.now (List.mem_singleton_self _)).mono
      (fun _ e => e ▸ hs₁) (fun _ _ h => h.2) fun _ h => h) fun _ => Triple.throw fun _ h => h

theorem editableBillRun_found (ref : BillRunRef) (hs₀ : s₀.Sound) :
    Triple (· = s₀) (Deletion.editableBillRun ref)
      (fun b s => s = s₀ ∧ s₀.billRun? ref.billRunId = some b ∧ b.status.editable = true)
      (· = s₀) := by
  refine Triple.bind (billRunOf_found ref) fun b => Triple.of_eq fun _ h => ?_
  obtain ⟨rfl, hb⟩ := h
  exact Triple.require_bind (fun _ _ e => e) fun hed =>
    Triple.pure fun _ e => ⟨e, hs₀.billRun?_of_billRunIn? hb, hed⟩

theorem deleteLicence_outcome (ref : BillRunRef) (licence : Uuid) (hs₀ : s₀.Sound) :
    Triple (· = s₀) (Deletion.deleteLicence ref licence)
      (fun task s => s = s₀ ∧ ∃ a, s₀.statusOf ref.billRunId = some a ∧ a.editable = true ∧
        task = .removeLicence ref a licence) (· = s₀) := by
  refine Triple.bind (editableBillRun_found ref hs₀) fun b => Triple.of_eq fun _ h => ?_
  obtain ⟨rfl, hb, hed⟩ := h
  refine Triple.get_bind (Triple.require_bind (fun _ _ h => h) fun _ => Triple.pure fun _ e =>
    ⟨e, b.status, ?_, hed, rfl⟩)
  rw [statusOf, hb]
  rfl

theorem deleteInvoice_outcome (ref : BillRunRef) (invoice : Uuid) (hs₀ : s₀.Sound) :
    Triple (· = s₀) (Deletion.deleteInvoice ref invoice)
      (fun task s => s = s₀ ∧ ∃ a, s₀.statusOf ref.billRunId = some a ∧ a.editable = true ∧
        task = .removeInvoice ref a invoice) (· = s₀) := by
  refine Triple.bind (editableBillRun_found ref hs₀) fun b => Triple.of_eq fun _ h => ?_
  obtain ⟨rfl, hb, hed⟩ := h
  refine Triple.get_bind (Triple.require_bind (fun _ _ h => h) fun _ => Triple.pure fun _ e =>
    ⟨e, b.status, ?_, hed, rfl⟩)
  rw [statusOf, hb]
  rfl

/-! ## Rebilling an invoice -/

theorem copyLines_status (now : Instant) (rebilled : Invoice) (target cancelId rebillId : Uuid)
    (actor : String) (a : Status) :
    Keeps (fun s => s.statusOf X = some a ∨ s.statusOf X = some .initialised)
      (Rebill.copyLines now rebilled target cancelId rebillId actor) := by
  have hpost : ∀ (t : Transaction) (how : Posting),
      Keeps (fun s => s.statusOf X = some a ∨ s.statusOf X = some .initialised) (post now t how) :=
    fun t how => post_keeps_status (P := fun o => o = some a ∨ o = some .initialised) now t how
      fun b _ hb _ => by
        by_cases hg : b.status = .generated
        · right
          simp [BillRun.posted, hg]
        · simpa [BillRun.posted, hg] using hb
  exact .copyLines (fun _ _ _ _ => .of_keeps (hpost _ _)) fun _ _ h _ => h

/-- A rebill writes no bill run row. When it returns, the bill run it rebills onto takes changes
and the work it leaves copies onto that bill run; when it fails, nothing of that bill run
changed. -/
theorem rebill_outcome (now : Instant) (ref : BillRunRef) (invoiceId : Uuid) (actor : String)
    (hs₀ : s₀.Sound) :
    Triple (· = s₀) (Rebill.rebill now ref invoiceId actor)
      (fun r s => s.billRuns = s₀.billRuns ∧
        (∃ a, s₀.statusOf ref.billRunId = some a ∧ a.editable = true) ∧
        ∃ rebilled cancelId rebillId,
          r.2.2 = .copyInvoice rebilled ref.billRunId cancelId rebillId actor)
      (fun s => s.part ref.billRunId = s₀.part ref.billRunId) := by
  unfold Rebill.rebill
  refine Triple.bind ((check_spec ref invoiceId).mono (fun _ h => h) (fun _ _ h => h)
    fun _ e => by rw [e]) fun r => Triple.of_eq fun s h => ?_
  obtain ⟨target, rebilled⟩ := r
  obtain ⟨rfl, htarget, hed, -⟩ := h
  have hid := (id_of_billRunIn? htarget).1
  have hst : s.statusOf ref.billRunId = some target.status := by
    rw [statusOf, hs₀.billRun?_of_billRunIn? htarget]
    rfl
  refine Triple.fresh_bind (Triple.fresh_bind (Triple.bind (Triple.atomically fun _ e => ?_)
    fun _ => Triple.pure fun _ h => ⟨h, ⟨target.status, hst, hed⟩, _, _, _, by rw [hid]⟩))
  subst e
  refine Triple.bind ((insertCopy_spec _).mono (fun _ h => h) (fun _ _ h => h) fun _ _ => rfl)
    fun _ => Triple.of_eq fun _ h => ?_
  subst h
  exact (insertCopy_spec _).mono (fun _ h => h) (fun _ _ h => by subst h; rfl) fun _ _ => rfl

end ChargeLedger
