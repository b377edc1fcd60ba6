import ChargeLedger.Proofs.StatusMachine

/-!
# Bill run statuses from request to request

Main statement (`Reachable.statuses_move_by_request`): between requests every bill run rests; a
request, with the work it leaves, changes only the status of the bill run it is about and only as
`Request.Moves` allows; billed and billing-not-required bill runs stay so; and an approved, billed
or billing-not-required bill run keeps its rows, but for what sending writes on it.

Each request is taken from the store it starts in to the store its work ends in
(`Request.step_of`), one case per request, from the outcome lemmas of `StatusMachine`.
-/

set_option autoImplicit false

namespace ChargeLedger

/-- A generated bill run sent back to initialised: what a line recorded or copied onto it, or a
deletion that leaves it no invoices, does to its status. -/
def Status.Reopened (a a' : Option Status) : Prop := a = some .generated ∧ a' = some .initialised

/-- How a request with its work may move the status of the bill run it is about, from `none`
when there is no such bill run, to `none` when it is gone; `left` is how many invoices the bill
run is left with. -/
def Request.Moves (r : Request) (a a' : Option Status) (left : Nat) : Prop :=
  match r with
  | .create .. => a = none ∧ a' = some .initialised
  | .generate .. => a = some .initialised ∧ a' = some .generated
  | .approve .. => a = some .generated ∧ a' = some .approved
  | .send .. => a = some .approved ∧ (a' = some .billed ∨ a' = some .billingNotRequired)
  | .delete .. => (a = some .initialised ∨ a = some .generated) ∧ a' = none
  | .record .. | .rebill .. => Status.Reopened a a'
  | .deleteLicence .. | .deleteInvoice .. => Status.Reopened a a' ∧ left = 0
  | .recover .. => False

namespace Request

theorem Moves.resting {r : Request} {a : Option Status} {x : Status} {n : Nat}
    (h : r.Moves a (some x) n) : x.resting = true := by
  cases r <;> simp only [Moves, Status.Reopened, Option.some.injEq, reduceCtorEq, and_false] at h
  case send => rcases h.2 with rfl | rfl <;> rfl
  case deleteLicence | deleteInvoice => (obtain ⟨⟨-, rfl⟩, -⟩ := h; rfl)
  all_goals (obtain ⟨-, rfl⟩ := h; rfl)

theorem Moves.not_terminal {r : Request} {a : Status} {a' : Option Status} {n : Nat}
    (h : r.Moves (some a) a' n) : a.terminal = false := by
  cases r <;> simp only [Moves, Status.Reopened, Option.some.injEq, reduceCtorEq, false_and] at h
  case delete => rcases h.1 with rfl | rfl <;> rfl
  case deleteLicence | deleteInvoice => (obtain ⟨⟨rfl, -⟩, -⟩ := h; rfl)
  all_goals (obtain ⟨rfl, -⟩ := h; rfl)

theorem reopened_or_same {a a' : Option Status} {x : Status} (ha : a = some x)
    (hx : x.editable = true) (h : a' = some x ∨ a' = some .initialised) :
    a' = a ∨ Status.Reopened a a' := by
  subst ha
  cases x <;> simp [Status.editable] at hx <;> rcases h with rfl | rfl <;>
    simp [Status.Reopened]

end Request

namespace Store

variable {r : Request} {X : Uuid} {s₀ s : Store}

/-- What a request from `s₀` leaves of the bill run `X` it is about: its status as it was or
moved as the request allows, and, when it was settled (approved, billed or billing not
required), its rows but for what sending writes, all of them while its status stays. -/
structure Took (r : Request) (X : Uuid) (s₀ s : Store) : Prop where
  status : s.statusOf X = s₀.statusOf X ∨
    r.Moves (s₀.statusOf X) (s.statusOf X) (s.invoiceCount X)
  settled : ∀ a, s₀.statusOf X = some a → a.frozen = true →
    (s.part X).unsent = (s₀.part X).unsent ∧ (s.statusOf X = some a → s.part X = s₀.part X)

theorem Took.of_part (h : s.part X = s₀.part X) : Took r X s₀ s :=
  ⟨Or.inl (statusOf_of_part h), fun _ _ _ => ⟨by rw [h], fun _ => h⟩⟩

theorem Took.of_open {a : Status} (ha : s₀.statusOf X = some a) (hed : a.editable = true)
    (h : s.statusOf X = s₀.statusOf X ∨ r.Moves (s₀.statusOf X) (s.statusOf X) (s.invoiceCount X)) :
    Took r X s₀ s := by
  refine ⟨h, fun a' ha' hf => ?_⟩
  rw [ha, Option.some.injEq] at ha'
  subst ha'
  rw [Status.frozen_of_editable hed] at hf
  cases hf

theorem Sound.statusOf_ofSerial (h : s.Sound) : s.statusOf (Uuid.ofSerial s.issued) = none := by
  rw [statusOf, Option.map_eq_none_iff, billRun?, List.find?_eq_none]
  intro b hb e
  exact (h.billRuns_issued _ (List.mem_map_of_mem hb)).ne_ofSerial (by simpa using e)

theorem statusOf_append {b : BillRun} (h : s.statusOf b.id = none) :
    ({ s with billRuns := s.billRuns ++ [b] } : Store).statusOf b.id = some b.status := by
  rw [statusOf, Option.map_eq_none_iff, billRun?] at h
  simp [statusOf, billRun?, List.find?_append, h]

end Store

open Op Store

variable {s₀ : Store}

/-- What a request's answer must leave for the work after it to end in `Q`: `Q` itself when there
is no work, and otherwise a store the work ends in `Q` from. -/
def Request.Finishes (env : Env) (Q : Store → Prop) (task : Option Task) (s : Store) : Prop :=
  task.elim (Q s) fun t => Triple (· = s) (t.run env) (fun _ => Q) Q

/-- A request from `s₀` with the work it leaves ends where `Q` holds, when the request fails into
`Q`, or returns into a store from which its work, if any, ends in `Q`. -/
theorem Request.step_of {Q : Store → Prop} (env : Env) (r : Request)
    (h : Triple (· = s₀) (r.run env) (Finishes env Q) Q) : Q (r.step env s₀) := by
  have hrun := h.apply rfl
  unfold Request.step
  revert hrun
  cases r.run env s₀ with
  | ok task s =>
    cases task with
    | none => exact id
    | some t =>
      intro hwork
      show Q (t.perform env s).1
      have hdone := hwork.apply rfl
      unfold Task.perform
      revert hdone
      cases t.run env s <;> exact id
  | error e s => exact id

theorem answered_none {α : Type} {Q : Store → Prop} (env : Env) (slug : String) (X : Uuid)
    {op : BillRunRef → Op α} (h₀ : Q s₀)
    (h : ∀ ref : BillRunRef, ref.billRunId = X → Triple (· = s₀) (op ref) (fun _ => Q) Q) :
    Triple (· = s₀) (Request.refIn slug X >>= fun ref => op ref >>= fun _ => pure none)
      (Request.Finishes env Q) Q :=
  Triple.bind ((refIn_billRun slug X).mono (fun _ h => h) (fun _ _ h => h) fun _ e => e ▸ h₀)
    fun ref => Triple.of_eq fun _ hs => Triple.bind ((h ref hs.2).mono (fun _ e => e.trans hs.1)
      (fun _ _ h => h) fun _ h => h) fun _ => Triple.pure fun _ h => h

theorem answered_work {Q : Store → Prop} (env : Env) (slug : String) (X : Uuid)
    {op : BillRunRef → Op Task} (h₀ : Q s₀)
    (h : ∀ ref : BillRunRef, ref.billRunId = X → Triple (· = s₀) (op ref)
      (fun task s => Triple (· = s) (task.run env) (fun _ => Q) Q) Q) :
    Triple (· = s₀) (Request.refIn slug X >>= fun ref => op ref >>= fun task => pure (some task))
      (Request.Finishes env Q) Q :=
  Triple.bind ((refIn_billRun slug X).mono (fun _ h => h) (fun _ _ h => h) fun _ e => e ▸ h₀)
    fun ref => Triple.of_eq fun _ hs => Triple.bind ((h ref hs.2).mono (fun _ e => e.trans hs.1)
      (fun _ _ h => h) fun _ h => h) fun _ => Triple.pure fun _ h => h

/-! ## One request -/

section Step

variable (env : Env) (hc : s₀.Consistent) (henv : env.Reliable)

include hc in
theorem create_took (slug actor region ruleset : String) :
    Triple (· = s₀) ((Request.create slug actor region ruleset).run env)
      (Request.Finishes env (Took (.create slug actor region ruleset) (Uuid.ofSerial s₀.issued) s₀))
      (Took (.create slug actor region ruleset) (Uuid.ofSerial s₀.issued) s₀) := by
  have hnone := hc.sound.statusOf_ofSerial
  refine Triple.bind ((regimeNamed_spec slug).mono (fun _ h => h) (fun _ _ h => h)
    fun _ e => e ▸ Took.of_part rfl) fun reg => Triple.of_eq fun _ e => ?_
  subst e
  refine Triple.bind ((create_spec _ _ _ _ _ _).mono (fun _ h => h) (fun b s h => ?_)
    fun _ e => e ▸ Took.of_part rfl) fun _ => Triple.pure fun _ h => h
  obtain ⟨rfl, hid, -, hinit, -⟩ := h
  have hst := statusOf_append (hid ▸ hnone)
  rw [hid, hinit] at hst
  exact ⟨Or.inr ⟨hnone, hst⟩, fun _ h _ => by rw [hnone] at h; cases h⟩

theorem record_took (slug : String) (X : Uuid) (actor : String) (p : Payload) :
    Triple (· = s₀) ((Request.record slug X actor p).run env)
      (Request.Finishes env (Took (.record slug X actor p) X s₀))
      (Took (.record slug X actor p) X s₀) :=
  answered_none env slug X (Took.of_part rfl) fun ref hX => hX ▸ (record_outcome env ref actor p).mono
    (fun _ h => h) (fun _ _ ⟨⟨_, ha, hed⟩, hinit⟩ =>
      Took.of_open ha hed (Request.reopened_or_same ha hed (Or.inr hinit)))
    fun _ h => Took.of_part h

theorem generate_took (slug : String) (X : Uuid) :
    Triple (· = s₀) ((Request.generate slug X).run env)
      (Request.Finishes env (Took (.generate slug X) X s₀)) (Took (.generate slug X) X s₀) := by
  have hmoved : ∀ s, s₀.statusOf X = some .initialised →
      (s.statusOf X = some .initialised ∨ s.statusOf X = some .generated) →
      Took (.generate slug X) X s₀ s := by
    intro s hi hs
    refine Took.of_open hi rfl ?_
    rcases hs with hs | hs
    · exact Or.inl (hs.trans hi.symm)
    · exact Or.inr ⟨hi, hs⟩
  refine answered_none env slug X (Took.of_part rfl) fun ref hX => ?_
  subst hX
  exact (generate_outcome env ref).mono (fun _ h => h) (fun _ s h => hmoved s h.1 h.2)
    fun s h => h.elim Took.of_part fun h => hmoved s h.1 h.2

theorem approve_took (slug : String) (X : Uuid) :
    Triple (· = s₀) ((Request.approve slug X).run env)
      (Request.Finishes env (Took (.approve slug X) X s₀)) (Took (.approve slug X) X s₀) :=
  answered_none env slug X (Took.of_part rfl) fun ref hX => hX ▸ (approve_outcome env.now ref).mono
    (fun _ h => h) (fun _ _ h => Took.of_open h.1 rfl (Or.inr h))
    fun _ e => e ▸ Took.of_part rfl

theorem delete_took (slug : String) (X : Uuid) :
    Triple (· = s₀) ((Request.delete slug X).run env)
      (Request.Finishes env (Took (.delete slug X) X s₀)) (Took (.delete slug X) X s₀) := by
  refine answered_none env slug X (Took.of_part rfl) fun ref hX => hX ▸ (delete_outcome env.now ref).mono
    (fun _ h => h) (fun _ _ ⟨⟨a, ha, hed⟩, hgone⟩ => Took.of_open ha hed (Or.inr ⟨?_, hgone⟩))
    fun _ h => Took.of_part h
  rw [ha]
  cases a <;> simp_all [Status.editable]

include hc henv in
theorem send_took (slug : String) (X : Uuid) :
    Triple (· = s₀) ((Request.send slug X).run env)
      (Request.Finishes env (Took (.send slug X) X s₀)) (Took (.send slug X) X s₀) := by
  refine answered_work env slug X (Took.of_part rfl) fun ref hX => hX ▸ (send_outcome env.now ref
    hc.sound henv.2).mono (fun _ h => h) (fun task s₁ h => ?_) fun _ h => Took.of_part h
  obtain ⟨rfl, happroved, hq, hunsent₁⟩ := h
  refine (transmit_outcome env ref henv hq).mono (fun _ h => h) (fun _ s ⟨hend, hunsent⟩ => ?_)
    fun _ h => h.elim
  refine ⟨Or.inr ⟨happroved, hend⟩, fun a ha _ => ⟨hunsent.trans hunsent₁, fun hs => ?_⟩⟩
  rw [happroved, Option.some.injEq] at ha
  subst ha
  rcases hend with h | h <;> rw [h] at hs <;> cases hs

theorem cascade_took {r : Request} (X : Uuid) (remove : Op (Option Uuid)) (ref : BillRunRef)
    (hX : ref.billRunId = X) {a : Status} (ha : s₀.statusOf X = some a) (hed : a.editable = true)
    (hrem : Keeps (fun s => s.statusOf ref.billRunId = some .pending) remove)
    (hmoves : ∀ a a', Status.Reopened a a' → r.Moves a a' 0) :
    Triple (· = s₀) (Deletion.cascade env ref a remove >>= fun _ => (pure [] : Op (List Upload)))
      (fun _ => Took r X s₀) (Took r X s₀) := by
  subst hX
  have hend : ∀ s, (s.statusOf ref.billRunId = some a ∨
      s.statusOf ref.billRunId = some .initialised ∧ s.invoiceCount ref.billRunId = 0) →
      Took r ref.billRunId s₀ s := by
    rintro s (h | ⟨h, hleft⟩)
    · exact Took.of_open ha hed (Or.inl (h.trans ha.symm))
    · refine Took.of_open ha hed ((Request.reopened_or_same ha hed (Or.inr h)).imp_right ?_)
      rw [hleft]
      exact hmoves _ _
  exact Triple.bind ((cascade_outcome env ref a hrem).mono (fun _ e => e ▸ ha) (fun _ s h => hend s h)
    fun s h => hend s (Or.inl h)) fun _ => Triple.pure fun _ h => h

include hc in
theorem deleteLicence_took (slug : String) (X licence : Uuid) :
    Triple (· = s₀) ((Request.deleteLicence slug X licence).run env)
      (Request.Finishes env (Took (.deleteLicence slug X licence) X s₀))
      (Took (.deleteLicence slug X licence) X s₀) :=
  answered_work env slug X (Took.of_part rfl) fun ref hX =>
    (deleteLicence_outcome ref licence hc.sound).mono (fun _ h => h)
      (fun _ _ ⟨e, _, ha, hed, htask⟩ => by
        rw [e, htask]
        exact cascade_took env X _ ref hX (hX ▸ ha) hed (removeLicence_pending _ _ _)
          fun _ _ h => ⟨h, rfl⟩)
      fun _ e => e ▸ Took.of_part rfl

include hc in
theorem deleteInvoice_took (slug : String) (X invoice : Uuid) :
    Triple (· = s₀) ((Request.deleteInvoice slug X invoice).run env)
      (Request.Finishes env (Took (.deleteInvoice slug X invoice) X s₀))
      (Took (.deleteInvoice slug X invoice) X s₀) :=
  answered_work env slug X (Took.of_part rfl) fun ref hX =>
    (deleteInvoice_outcome ref invoice hc.sound).mono (fun _ h => h)
      (fun _ _ ⟨e, _, ha, hed, htask⟩ => by
        rw [e, htask]
        exact cascade_took env X _ ref hX (hX ▸ ha) hed (removeInvoice_pending _ _ _)
          fun _ _ h => ⟨h, rfl⟩)
      fun _ e => e ▸ Took.of_part rfl

include hc in
theorem rebill_took (slug : String) (X invoice : Uuid) (actor : String) :
    Triple (· = s₀) ((Request.rebill slug X invoice actor).run env)
      (Request.Finishes env (Took (.rebill slug X invoice actor) X s₀))
      (Took (.rebill slug X invoice actor) X s₀) := by
  refine Triple.bind ((refIn_billRun slug X).mono (fun _ h => h) (fun _ _ h => h)
    fun _ e => e ▸ Took.of_part rfl) fun ref => Triple.of_eq fun _ hs => ?_
  rw [hs.1]
  obtain ⟨-, hX⟩ := hs
  subst hX
  refine Triple.bind ((rebill_outcome env.now ref invoice actor hc.sound).mono (fun _ h => h)
    (fun _ s h => h) fun _ h => Took.of_part h) fun res => Triple.of_eq fun s₁ h => ?_
  obtain ⟨hrows, ⟨a, ha, hed⟩, rebilled, cancelId, rebillId, htask⟩ := h
  obtain ⟨_, _, task⟩ := res
  simp only at htask
  subst htask
  refine Triple.pure fun _ e => ?_
  subst e
  have hend : ∀ s, (s.statusOf ref.billRunId = some a ∨
      s.statusOf ref.billRunId = some .initialised) →
      Took (.rebill slug ref.billRunId invoice actor) ref.billRunId s₀ s := fun s h =>
    Took.of_open ha hed (Request.reopened_or_same ha hed h)
  exact Triple.bind (((copyLines_status env.now rebilled ref.billRunId cancelId rebillId actor
    a).triple).mono (fun _ e => e ▸ Or.inl (statusOf_congr hrows _ ▸ ha)) (fun _ s h => h)
    fun s h => hend s h) fun _ => Triple.pure fun s h => hend s h

include hc in
theorem recover_took (hrest : s₀.Resting) (threshold batch : Int) :
    Triple (· = s₀) ((Request.recover threshold batch).run env)
      (Request.Finishes env (Took (.recover threshold batch) Uuid.nil s₀))
      (Took (.recover threshold batch) Uuid.nil s₀) :=
  Triple.bind ((recover_idle env.now threshold batch (hrest.not_generating hc.sound)).mono
    (fun _ h => h) (fun _ _ e => e ▸ Took.of_part rfl) fun _ h => h.elim)
    fun _ => Triple.pure fun _ h => h

include hc henv in
theorem step_took (hrest : s₀.Resting) (r : Request) :
    Took r (r.target s₀) s₀ (r.step env s₀) := by
  apply Request.step_of
  cases r with
  | create slug actor region ruleset => exact create_took env hc slug actor region ruleset
  | record slug X actor p => exact record_took env slug X actor p
  | generate slug X => exact generate_took env slug X
  | approve slug X => exact approve_took env slug X
  | send slug X => exact send_took env hc henv slug X
  | delete slug X => exact delete_took env slug X
  | deleteLicence slug X licence => exact deleteLicence_took env hc slug X licence
  | deleteInvoice slug X invoice => exact deleteInvoice_took env hc slug X invoice
  | rebill slug X invoice actor => exact rebill_took env hc slug X invoice actor
  | recover threshold batch => exact recover_took env hc hrest threshold batch

end Step

/-! ## Every bill run, every reachable store -/

namespace Store

variable {r : Request} {s₀ s : Store}

/-- What a request from `s₀` leaves of the ledger: the bill run it is about as `Took` says, and
every other bill run as it was. -/
structure Stepped (r : Request) (s₀ s : Store) : Prop where
  target : Took r (r.target s₀) s₀ s
  others : Confined (r.target s₀) s₀ s

theorem Stepped.resting (h : Stepped r s₀ s) (hrest : s₀.Resting) : s.Resting := by
  intro X a ha
  by_cases hX : X = r.target s₀
  · subst hX
    rcases h.target.status with e | hm
    · exact hrest _ _ (e.symm.trans ha)
    · rw [ha] at hm
      exact hm.resting
  · exact hrest X a ((h.others.statusOf hX).symm.trans ha)

theorem Stepped.terminal (h : Stepped r s₀ s) {X : Uuid} {a : Status}
    (ha : s₀.statusOf X = some a) (ht : a.terminal = true) : s.part X = s₀.part X := by
  by_cases hX : X = r.target s₀
  · subst hX
    have hstays : s.statusOf (r.target s₀) = some a := by
      rcases h.target.status with e | hm
      · exact e.trans ha
      · rw [ha] at hm
        rw [hm.not_terminal] at ht
        cases ht
    have hfrozen : a.frozen = true := by cases a <;> simp_all [Status.terminal, Status.frozen]
    exact (h.target.settled a ha hfrozen).2 hstays
  · exact (h.others X hX).symm

theorem resting_seeded (t : Instant) : (seeded t).Resting := fun X a h => by
  have hb : (seeded t).billRuns = [] := rfl
  rw [statusOf, billRun?, hb] at h
  cases h

end Store

open Store

theorem step_stepped {env : Env} (hc : s₀.Consistent) (henv : env.Reliable) (hrest : s₀.Resting)
    (r : Request) : Stepped r s₀ (r.step env s₀) :=
  ⟨step_took env hc henv hrest r, (step_within env r hc fun _ _ _ => hrest.not_generating hc.sound).2⟩

/-- Between requests in reliable surroundings no bill run is caught generating, pending or
sending. -/
theorem Reachable.resting {s : Store} (h : Reachable Env.Reliable s) : s.Resting := by
  induction h with
  | seeded t => exact resting_seeded t
  | step env r henv hs ih => exact (step_stepped hs.consistent henv ih r).resting ih

/-- In every store that requests in reliable surroundings lead to, every bill run rests (it is
initialised, generated, approved, billed or billing not required); the next request, with the
work it leaves, changes no bill run but the one it is about, moves that one only as
`Request.Moves` allows, keeps a settled one's rows but for what sending writes on it, and leaves a
billed or billing-not-required bill run as it is. -/
theorem Reachable.statuses_move_by_request {s : Store} (h : Reachable Env.Reliable s) :
    s.Resting ∧ ∀ env, env.Reliable → ∀ r : Request, Stepped r s (r.step env s) ∧
      ∀ X a, s.statusOf X = some a → a.terminal = true → (r.step env s).part X = s.part X := by
  refine ⟨h.resting, fun env henv r => ?_⟩
  have hstep := step_stepped h.consistent henv h.resting r
  exact ⟨hstep, fun _ _ ha ht => hstep.terminal ha ht⟩

/-- After a bill run is created on a seeded ledger, it rests, and the next request moves bill runs
only as it may. -/
theorem statuses_move_after_create :
    Reachable Env.Reliable
        (Request.step { now := ⟨0⟩ } (.create "wrls" "system" "A" "sroc") (Store.seeded ⟨0⟩)) ∧
      let s := Request.step { now := ⟨0⟩ } (.create "wrls" "system" "A" "sroc") (Store.seeded ⟨0⟩)
      s.Resting ∧ ∀ env, env.Reliable → ∀ r : Request, Stepped r s (r.step env s) ∧
        ∀ X a, s.statusOf X = some a → a.terminal = true → (r.step env s).part X = s.part X :=
  have h := Reachable.step { now := ⟨0⟩ } (.create "wrls" "system" "A" "sroc")
    ⟨rfl, by decide⟩ (Reachable.seeded ⟨0⟩)
  ⟨h, Reachable.statuses_move_by_request h⟩

end ChargeLedger
