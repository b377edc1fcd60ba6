import ChargeLedger.Proofs.StatusMachine

/-!
# A failed request leaves the ledger as it was

Main statement (`failed_requests_leave_ledger`): in every reachable store, a request that fails,
and a piece of work other than a transmission that fails after it, leave the ledger as they
found it, but for when bill runs last changed and the count of identifiers drawn
(`Store.unstamped`).

A request fails in one of three places. Before it writes, in the store it started from; inside a
block run all or nothing, which puts the tables back (`Undone.atomically`); or, for a generation
and for a removal, after moving its bill run to a working status, which it then moves back
(`unstamped_moved_back`). A generation that returns reads its bill run once more, which reads
back as long as the clock does (`summarise_readsBack`).
-/

set_option autoImplicit false

namespace ChargeLedger

/-- A bill run without the time it last changed. -/
def BillRun.unstamped (b : BillRun) : BillRun := { b with updatedAt := ⟨0⟩ }

namespace Store

/-- The ledger without when its bill runs last changed and without the count of identifiers
drawn: what a failure leaves as it found it. -/
def unstamped (s : Store) : Store :=
  { s with billRuns := s.billRuns.map BillRun.unstamped, issued := 0 }

variable {s : Store} {X : Uuid}

@[simp] theorem unstamped_issue (m : Nat) : ({ s with issued := m } : Store).unstamped = s.unstamped :=
  rfl

theorem mapBillRun_issue (m : Nat) (f : BillRun → BillRun) :
    ({ s with issued := m } : Store).mapBillRun X f = { s.mapBillRun X f with issued := m } :=
  rfl

theorem mapBillRun_mapBillRun {f g : BillRun → BillRun} (hf : ∀ b, (f b).id = b.id) :
    (s.mapBillRun X f).mapBillRun X g = s.mapBillRun X (g ∘ f) := by
  simp only [mapBillRun, List.map_map]
  congr 2
  funext b
  by_cases h : b.id = X <;> simp [h, hf]

theorem unstamped_mapBillRun {f : BillRun → BillRun}
    (h : ∀ b ∈ s.billRuns, b.id = X → (f b).unstamped = b.unstamped) :
    (s.mapBillRun X f).unstamped = s.unstamped := by
  have hrows : (s.billRuns.map fun b => if b.id == X then f b else b).map BillRun.unstamped =
      s.billRuns.map BillRun.unstamped := by
    rw [List.map_map]
    refine List.map_congr_left fun b hb => ?_
    by_cases hX : b.id = X
    · simp [hX, h b hb hX]
    · simp [hX]
  simp only [unstamped, mapBillRun, hrows]

/-- A bill run moved out of its status and back, with identifiers drawn in between, leaves the
ledger but for when it last changed. -/
theorem unstamped_moved_back (hs : s.Sound) {b : BillRun} (hb : s.billRun? X = some b)
    {a t : Status} (ha : b.status = a) (now now' : Instant) (m : Nat) :
    (({ s.mapBillRun X (fun c => { c with status := t, updatedAt := now }) with issued := m } :
      Store).guarded X [t] fun c => { c with status := a, updatedAt := now' }).2.unstamped =
      s.unstamped := by
  have hmoved : ({ s.mapBillRun X (fun c => { c with status := t, updatedAt := now }) with
      issued := m } : Store).billRun? X = some { b with status := t, updatedAt := now } :=
    billRun?_mapBillRun_self (fun _ => rfl) hb
  rw [guarded_of_billRun? hmoved (by simp), mapBillRun_issue, unstamped_issue,
    mapBillRun_mapBillRun (f := fun c => { c with status := t, updatedAt := now }) fun _ => rfl]
  refine unstamped_mapBillRun fun c hc hcX => ?_
  have hcb : c = b := Option.some.inj ((hs.billRun?_of_mem hc).symm.trans (hcX ▸ hb))
  subst hcb
  simp [BillRun.unstamped, ha]

end Store

open Op Store

/-! ## Operations undone when they fail -/

namespace Op

variable {α β : Type}

/-- When `x` fails, the ledger is as `x` found it, but for when bill runs last changed and the
identifiers drawn. -/
def Undone (x : Op α) : Prop :=
  ∀ s₀, Triple (· = s₀) x (fun _ _ => True) (fun s => s.unstamped = s₀.unstamped)

namespace Undone

theorem of_keeps {x : Op α} (h : ∀ s₀ : Store, Keeps (fun s => s.unstamped = s₀.unstamped) x) :
    Undone x := fun s₀ =>
  (h s₀).triple.mono (fun _ e => e ▸ rfl) (fun _ _ _ => trivial) fun _ h => h

theorem bind {x : Op α} {f : α → Op β}
    (hx : ∀ s₀ : Store, Keeps (fun s => s.unstamped = s₀.unstamped) x) (hf : ∀ a, Undone (f a)) :
    Undone (x >>= f) := fun s₀ =>
  Triple.bind ((hx s₀).triple.mono (fun _ e => e ▸ rfl) (fun _ _ h => h) fun _ h => h) fun a =>
    Triple.of_eq fun s₁ h₁ => (hf a s₁).mono (fun _ h => h) (fun _ _ h => h) fun _ h => h.trans h₁

/-- A block run all or nothing puts the tables back when it fails. -/
theorem atomically (x : Op α) : Undone (Store.atomically x) := fun s₀ =>
  Triple.atomically fun _ e => (Triple.always x).mono (fun _ h => h) (fun _ _ h => h)
    fun _ _ => by rw [e, unstamped_issue]

theorem bind_pure {x : Op α} (hx : Undone x) (g : α → β) :
    Undone (x >>= fun a => pure (g a)) := fun s₀ =>
  Triple.bind (hx s₀) fun _ => Triple.pure fun _ _ => trivial

theorem of_total {x : Op α} (h : Triple (fun _ => True) x (fun _ _ => True) (fun _ => False)) :
    Undone x := fun _ =>
  h.mono (fun _ _ => trivial) (fun _ _ h => h) fun _ h => h.elim

end Undone

theorem fresh_unstamped (s₀ : Store) : Keeps (fun s => s.unstamped = s₀.unstamped) fresh :=
  .modifyGet fun _ h => ⟨h, Nat.le_succ _⟩

theorem Keeps.of_stays {I : Store → Prop} {x : Op α}
    (h : ∀ s₀, Triple (· = s₀) x (fun _ s => s = s₀) (· = s₀)) : Keeps I x := fun _ =>
  Triple.of_eq fun s₀ hs => (h s₀).mono (fun _ h => h) (fun _ _ e => e ▸ hs) fun _ e => e ▸ hs

end Op

/-! ## The bill run a generation reads back -/

namespace Store

/-- The bill run `X` of regime `R` is there and reads back. -/
def ReadsBack (R X : Uuid) (s : Store) : Prop :=
  ∃ b, s.billRunIn? R X = some b ∧ b.readable = true

/-- A write to bill runs that keeps what makes a row found and read back, and stamps it at
`now`. -/
def Stamps (now : Instant) (f : BillRun → BillRun) : Prop :=
  ∀ b, (f b).id = b.id ∧ (f b).regimeId = b.regimeId ∧ (f b).createdAt = b.createdAt ∧
    (f b).fileCreatedAt = b.fileCreatedAt ∧ (f b).updatedAt = now

variable {s s' : Store} {R X Y : Uuid} {now : Instant} {f : BillRun → BillRun}

theorem Stamps.readable (hf : Stamps now f) (hnow : now.storable = true) {b : BillRun}
    (hb : b.readable = true) : (f b).readable = true := by
  obtain ⟨-, -, hc, hfile, hu⟩ := hf b
  simp only [BillRun.readable, Bool.and_eq_true] at hb ⊢
  rw [hc, hfile, hu]
  exact ⟨⟨hb.1.1, hnow⟩, hb.2⟩

theorem billRunIn?_mapBillRun (hf : Stamps now f) :
    (s.mapBillRun Y f).billRunIn? R X =
      (s.billRunIn? R X).map fun b => if b.id == Y then f b else b := by
  unfold billRunIn? mapBillRun
  rw [List.find?_map]
  congr 2
  funext b
  by_cases h : b.id = Y <;> simp [h, (hf b).1, (hf b).2.1]

theorem ReadsBack.congr (h : s.ReadsBack R X) (hrows : s'.billRuns = s.billRuns) :
    s'.ReadsBack R X := by
  unfold ReadsBack billRunIn? at *
  rwa [hrows]

theorem ReadsBack.mapBillRun (h : s.ReadsBack R X) (hf : Stamps now f)
    (hnow : now.storable = true) : (s.mapBillRun Y f).ReadsBack R X := by
  obtain ⟨b, hb, hr⟩ := h
  refine ⟨_, by rw [billRunIn?_mapBillRun hf, hb]; rfl, ?_⟩
  show (if b.id == Y then f b else b).readable = true
  split
  · exact hf.readable hnow hr
  · exact hr

theorem ReadsBack.guarded (h : s.ReadsBack R X) (hf : Stamps now f) (hnow : now.storable = true)
    (allowed : List Status) : (s.guarded Y allowed f).2.ReadsBack R X := by
  cases hg : (s.guarded Y allowed f).1
  · rwa [guarded_false hg]
  · rw [(guarded_true hg).1]
    exact h.mapBillRun hf hnow

end Store

section ReadsBack

variable {R X : Uuid} {now : Instant} (hnow : now.storable = true)
include hnow

theorem keeps_readsBack_guarded {Y : Uuid} {allowed : List Status} {f : BillRun → BillRun}
    (hf : Stamps now f) :
    Keeps (ReadsBack R X) (modifyGet fun s => s.guarded Y allowed f : Op Bool) :=
  .modifyGet fun _ h => ⟨h.guarded hf hnow allowed, Nat.le_of_eq guarded_issued.symm⟩

theorem post_readsBack (t : Transaction) (how : Posting) : Keeps (ReadsBack R X) (post now t how) :=
  fun _ => Triple.of_eq fun s₀ hs => by
    have hg : ((s₀.guarded t.billRunId how.allowed (BillRun.posted now t.tally)).2).ReadsBack R X :=
      hs.1.guarded (Y := t.billRunId) (f := BillRun.posted now t.tally)
        (fun _ => ⟨rfl, rfl, rfl, rfl, rfl⟩) hnow how.allowed
    exact (post_billRuns now t how).mono (fun _ e => e)
      (fun _ _ h => ⟨hg.congr h.2.1, hs.2.trans h.2.2⟩)
      fun _ h => ⟨h.1.elim (hs.1.congr ·) (hg.congr ·), hs.2.trans h.2⟩

theorem addBillRunTally_readsBack (Y : Uuid) (δ : Tally) (allowed : List Status) :
    Keeps (ReadsBack R X) (addBillRunTally Y δ allowed now) := by
  rw [addBillRunTally_eq]
  exact keeps_readsBack_guarded hnow fun _ => ⟨rfl, rfl, rfl, rfl, rfl⟩

theorem removeAdjustments_readsBack (Y : Uuid) :
    Keeps (ReadsBack R X) (BillRun.removeAdjustments now Y) :=
  .removeAdjustments (fun _ => addBillRunTally_readsBack hnow _ _ _)
    (fun _ _ => .modifyGet fun _ h => ⟨h, Nat.le_refl _⟩)
    (fun _ _ => .modifyGet fun _ h => ⟨h, Nat.le_refl _⟩) fun _ => .modify fun _ h => ⟨h, Nat.le_refl _⟩

theorem applyMinimumCharges_readsBack (floor : Int64) (invs : List Invoice) :
    Keeps (ReadsBack R X) (BillRun.applyMinimumCharges now floor invs) :=
  .applyMinimumCharges (fun _ _ _ _ _ => post_readsBack hnow _ _) (fun _ _ h _ => h) invs

/-- The block of a generation writes its bill runs only by stamping them at `now`, so the bill run
a request names still reads back after it. -/
theorem summarise_readsBack (b : BillRun) (th : Thresholds) :
    Keeps (ReadsBack R X) (BillRun.summarise now b th) :=
  .summarise (removeAdjustments_readsBack hnow _) (applyMinimumCharges_readsBack hnow _)
    (fun _ _ => .modify fun _ h => ⟨h, Nat.le_refl _⟩)
    fun _ => keeps_readsBack_guarded hnow fun _ => ⟨rfl, rfl, rfl, rfl, rfl⟩

end ReadsBack

theorem billRunOf_readsBack (ref : BillRunRef) :
    Triple (ReadsBack ref.regimeId ref.billRunId) (billRunOf ref) (fun _ _ => True)
      (fun _ => False) :=
  Triple.of_eq fun _ ⟨_, hb, hr⟩ =>
    (billRunOf_some hb hr).mono (fun _ h => h) (fun _ _ _ => trivial) fun _ h => h

/-! ## Each request and each piece of work -/

variable {s₀ : Store}

theorem create_undone (now : Instant) (regimeId : Uuid) (slug actor region ruleset : String) :
    Undone (BillRun.create now regimeId slug actor region ruleset) := fun _ =>
  (create_spec _ _ _ _ _ _).mono (fun _ h => h) (fun _ _ _ => trivial) fun _ e => e ▸ rfl

theorem transition_undone (now : Instant) (X : Uuid) (source target : Status) :
    Undone (BillRun.transition now X source target) := fun _ =>
  (transition_spec now source target).mono (fun _ h => h) (fun _ _ _ => trivial) fun _ e => e ▸ rfl

theorem record_undone (env : Env) (ref : BillRunRef) (actor : String) (payload : Payload) :
    Undone (record env ref actor payload) := by
  unfold record
  extract_lets p issues jp
  clear_value p issues
  -- every step before the all-or-nothing posting only reads, or draws an identifier
  have hjp : ∀ c, Undone (jp c) := fun _ =>
    .bind (fun _ => billRunOf_keeps ref) fun _ => .bind (fun _ => .require _ _) fun _ =>
      .bind (fun _ => .require _ _) fun _ => .bind (fun _ => .require _ _) fun _ =>
      .bind (fun _ => ofExcept_keeps _) fun _ => .bind fresh_unstamped fun _ => .atomically _
  refine .bind (fun _ => .require _ _) fun _ => ?_
  split
  · exact .bind (fun _ => .pure _) hjp
  · exact .of_keeps fun _ => .throw _

theorem send_undone (now : Instant) (ref : BillRunRef) : Undone (BillRun.send now ref) :=
  .bind (fun _ => billRunOf_keeps ref) fun _ => .bind (fun _ => .require _ _) fun _ =>
    (Undone.atomically _).bind_pure _

theorem delete_undone (now : Instant) (ref : BillRunRef) : Undone (BillRun.delete now ref) :=
  .bind (fun _ => billRunOf_keeps ref) fun _ => .bind (fun _ => .require _ _) fun _ =>
    .atomically _

theorem rebill_undone (now : Instant) (ref : BillRunRef) (invoiceId : Uuid) (actor : String) :
    Undone (Rebill.rebill now ref invoiceId actor) := by
  unfold Rebill.rebill
  refine .bind (fun _ => Keeps.of_stays fun _ => (check_spec ref invoiceId).mono (fun _ h => h)
    (fun _ _ h => h.1) fun _ h => h) fun r => ?_
  obtain ⟨_, _⟩ := r
  exact .bind fresh_unstamped fun _ => .bind fresh_unstamped fun _ =>
    (Undone.atomically _).bind_pure _

theorem recover_undone (now : Instant) (threshold batch : Int) :
    Undone (Recovery.recover now threshold batch) := by
  have hloop : ∀ stale : List BillRun, Undone (stale.forM fun b => do
      let _ ← setStatus b.id [.generating] .initialised now
      pure ()) := fun stale =>
    .of_total ((Triple.forM (fun _ _ => True) fun _ _ =>
      Triple.bind (Triple.modifyGet (Q := fun _ _ => True) fun _ _ => trivial) fun _ =>
        Triple.pure fun _ _ => trivial).mono
        (fun _ _ => trivial) (fun _ _ _ => trivial) fun _ h => h)
  refine .bind (fun _ => .get) fun _ => ?_
  dsimp only
  split
  · exact .bind (fun _ => .throw _) fun _ => hloop _
  · exact hloop _

theorem generate_undone (env : Env) (ref : BillRunRef) (hnow : env.now.storable = true)
    (hs₀ : s₀.Sound) :
    Triple (· = s₀) (BillRun.generate env ref) (fun _ _ => True)
      (fun s => s.unstamped = s₀.unstamped) := by
  unfold BillRun.generate
  refine Triple.bind ((billRunOf_read ref).mono (fun _ h => h) (fun _ _ h => h)
    fun _ e => by rw [e]) fun b => Triple.of_eq fun s h => ?_
  obtain ⟨e, hb, hread⟩ := h
  subst s
  obtain ⟨hid, hR⟩ := id_of_billRunIn? hb
  have hrow : s₀.billRun? b.id = some b := hid ▸ hs₀.billRun?_of_billRunIn? hb
  refine Triple.require_bind (fun _ _ e => by rw [e]) fun _ => ?_
  refine Triple.require_bind (fun _ _ e => by rw [e]) fun _ => ?_
  refine Triple.require_bind (fun _ _ e => by rw [e]) fun hinit => ?_
  refine Triple.get_bind (Triple.require_bind (fun _ _ e => by rw [e]) fun _ => ?_)
  have hinit : b.status = .initialised := eq_of_beq hinit
  refine Triple.bind ((transition_taken env.now hrow hinit).mono (fun _ h => h) (fun _ _ h => h)
    fun _ h => h.elim) fun _ => Triple.of_eq fun s₁ e₁ => ?_
  subst s₁
  have hstart : (s₀.mapBillRun b.id fun c => { c with status := .generating, updatedAt := env.now
      }).ReadsBack ref.regimeId ref.billRunId :=
    ReadsBack.mapBillRun ⟨b, hb, hread⟩ (fun _ => ⟨rfl, rfl, rfl, rfl, rfl⟩) hnow
  have hblock : Triple (· = s₀.mapBillRun b.id fun c =>
        { c with status := .generating, updatedAt := env.now })
      (Store.atomically (BillRun.summarise env.now b (env.thresholds.lookup ref.regimeSlug)))
      (fun _ => ReadsBack ref.regimeId ref.billRunId)
      (fun s => ∃ m, s = { s₀.mapBillRun b.id (fun c =>
        { c with status := .generating, updatedAt := env.now }) with issued := m }) :=
    Triple.atomically fun _ e => (summarise_readsBack hnow _ _).triple.mono
      (fun _ h => by rw [h, e]; exact hstart)
      (fun _ _ h => h) fun s' _ => ⟨s'.issued, by rw [e]⟩
  refine Triple.bind (Triple.tryCatch hblock fun _ => ?_) fun _ =>
    (billRunOf_readsBack ref).mono (fun _ h => h) (fun _ _ h => h) fun _ h => h.elim
  refine Triple.bind (Triple.modifyGet (Q := fun _ s => s.unstamped = s₀.unstamped)
    fun _ ⟨m, hm⟩ => ?_) fun _ => Triple.throw fun _ h => h
  rw [hm]
  exact unstamped_moved_back hs₀ hrow hinit env.now env.now m

theorem cascade_undone (env : Env) (ref : BillRunRef) (prior : Status) (remove : Op (Option Uuid))
    (hs₀ : s₀.Sound) :
    Triple (· = s₀) (Deletion.cascade env ref prior remove) (fun _ _ => True)
      (fun s => s.unstamped = s₀.unstamped) := by
  unfold Deletion.cascade
  refine Triple.modifyGet_bind ?_
  cases hg : (s₀.guarded ref.billRunId [prior] fun b =>
      { b with status := .pending, updatedAt := env.now }).1
  · rw [guarded_false hg]
    exact Triple.require_bind (fun _ _ e => by rw [e]) fun h => by cases h
  obtain ⟨heq, c, hc, hcX, hcs⟩ := guarded_true hg
  have hrow : s₀.billRun? ref.billRunId = some c := hcX ▸ hs₀.billRun?_of_mem hc
  have hprior : c.status = prior := by simpa using hcs
  rw [heq]
  refine Triple.require_bind (fun h => by cases h) fun _ => ?_
  refine Triple.bind (Q := fun outcome s => outcome = none ∨ ∃ m, s =
      { s₀.mapBillRun ref.billRunId (fun b => { b with status := .pending, updatedAt := env.now })
        with issued := m })
    (Triple.tryCatch (Triple.bind (Triple.atomically fun _ e => (Triple.always _).mono
      (fun _ h => h) (fun _ _ h => h) fun s' _ => ⟨s'.issued, by rw [e]⟩)
      fun _ => Triple.pure fun _ _ => Or.inl rfl) fun _ => Triple.pure fun _ h => Or.inr h)
    fun outcome => Triple.of_eq fun s₁ hs₁ => Triple.get_bind ?_
  cases outcome with
  | none =>
    exact Triple.bind (Triple.modifyGet (Q := fun _ _ => True) fun _ _ => trivial) fun _ =>
      Triple.pure fun _ _ => trivial
  | some e =>
    obtain ⟨m, hm⟩ := hs₁.resolve_left (Option.some_ne_none e)
    refine Triple.bind (Triple.modifyGet (Q := fun _ s => s.unstamped = s₀.unstamped)
      fun _ e' => ?_) fun _ => Triple.throw fun _ h => h
    rw [e', hm]
    exact unstamped_moved_back hs₀ hrow hprior env.now env.now m

theorem run_undone (env : Env) (hnow : env.now.storable = true) (hs₀ : s₀.Sound) (r : Request) :
    Triple (· = s₀) (r.run env) (fun _ _ => True) (fun s => s.unstamped = s₀.unstamped) := by
  cases r <;> simp only [Request.run]
  case generate slug X =>
    refine Triple.bind ((refIn_billRun slug X).mono (fun _ h => h) (fun _ _ h => h.1)
      fun _ e => by rw [e]) fun ref => Triple.of_eq fun _ e => ?_
    subst e
    exact Triple.bind (generate_undone env ref hnow hs₀) fun _ => Triple.pure fun _ _ => trivial
  case create slug actor region ruleset =>
    exact Undone.bind (fun _ => regimeNamed_keeps slug) (fun _ =>
      (create_undone _ _ _ _ _ _).bind_pure _) s₀
  case record slug X actor p =>
    exact Undone.bind (fun _ => refIn_keeps slug X) (fun _ =>
      (record_undone _ _ _ _).bind_pure _) s₀
  case approve slug X =>
    exact Undone.bind (fun _ => refIn_keeps slug X) (fun ref =>
      (Undone.bind (fun _ => billRunOf_keeps ref) fun _ => transition_undone _ _ _ _).bind_pure _) s₀
  case send slug X =>
    exact Undone.bind (fun _ => refIn_keeps slug X) (fun _ => (send_undone _ _).bind_pure _) s₀
  case delete slug X =>
    exact Undone.bind (fun _ => refIn_keeps slug X) (fun _ => (delete_undone _ _).bind_pure _) s₀
  case deleteLicence slug X licence =>
    exact Undone.of_keeps (fun _ => .bind (refIn_keeps slug X) fun ref =>
      .bind (deleteLicence_keeps ref licence) fun _ => .pure _) s₀
  case deleteInvoice slug X invoice =>
    exact Undone.of_keeps (fun _ => .bind (refIn_keeps slug X) fun ref =>
      .bind (deleteInvoice_keeps ref invoice) fun _ => .pure _) s₀
  case rebill slug X invoice actor =>
    exact Undone.bind (fun _ => refIn_keeps slug X) (fun _ =>
      (rebill_undone _ _ _ _).bind_pure _) s₀
  case recover threshold batch =>
    exact (recover_undone _ _ _).bind_pure _ s₀

theorem work_undone (env : Env) (task : Task) (ht : ∀ ref, task ≠ .transmit ref)
    (hs₀ : s₀.Sound) :
    Triple (· = s₀) (task.run env) (fun _ _ => True) (fun s => s.unstamped = s₀.unstamped) := by
  cases task with
  | transmit ref => exact absurd rfl (ht ref)
  | copyInvoice rebilled target cancelId rebillId actor =>
    exact (Undone.atomically _).bind_pure _ s₀
  | removeLicence ref prior licence =>
    exact Triple.bind (cascade_undone env ref prior _ hs₀) fun _ => Triple.pure fun _ _ => trivial
  | removeInvoice ref prior invoice =>
    exact Triple.bind (cascade_undone env ref prior _ hs₀) fun _ => Triple.pure fun _ _ => trivial

/-- In every store that requests lead to, a request that fails, when its clock reads back, leaves
the ledger as it found it, but for when bill runs last changed and the identifiers drawn; so does
the work a request leaves, other than a transmission, when it fails. A line refused after its
tallies were added leaves every tally as it was, a rebill refused at its second copy leaves no
copy, and a generation or a removal that fails puts its bill run back in its status. -/
theorem failed_requests_leave_ledger {ok : Env → Prop} {s : Store} (h : Reachable ok s)
    (env : Env) (hnow : env.now.storable = true) (r : Request) :
    (∀ e s', r.run env s = .error e s' → s'.unstamped = s.unstamped) ∧
    ∀ task s₁, r.run env s = .ok (some task) s₁ → (∀ ref, task ≠ .transmit ref) →
      ∀ e s', task.run env s₁ = .error e s' → s'.unstamped = s₁.unstamped := by
  have hc := h.consistent
  refine ⟨fun e s' hfail => ?_, fun task s₁ hok ht e s' hfail => ?_⟩
  · have hrun := (run_undone env hnow hc.sound r).apply rfl
    rw [hfail] at hrun
    exact hrun
  · -- the work starts from the consistent ledger the request left
    have hspec := (run_spec env r).apply hc
    rw [hok] at hspec
    have hwork := (work_undone env task ht hspec.1.sound).apply rfl
    rw [hfail] at hwork
    exact hwork

end ChargeLedger
