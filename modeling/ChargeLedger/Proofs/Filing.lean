import ChargeLedger.Proofs.Sequences
import ChargeLedger.Proofs.Summary

/-!
# What a bill run files

From its generation on, a bill run carries the summary of its invoices; once it is sent, its
billable invoices and only they carry a transaction reference, each made from the bill run's
region, the sign of the invoice's net and a number (`Store.Filed`). Every request, with the work
it leaves, keeps this of every bill run (`Filing.step`), so it holds of every ledger that
requests lead to (`Reachable.filing`).

A sent bill run is frozen, and a request about another bill run leaves it as it was, so only the
bill run a request is about needs a look. Of the requests on it, a generation writes the summary,
an approval keeps it, a send writes the references, a removal from a generated bill run writes
the summary again, and a rebill adds invoices that carry nothing before its copied lines reopen
the bill run.
-/

set_option autoImplicit false

namespace ChargeLedger

namespace Status

def summarised : Status → Bool
  | .generated | .approved | .pending | .sending | .billed | .billingNotRequired => true
  | _ => false

theorem summarised_of_sent {a : Status} (h : a.sent = true) : a.summarised = true := by
  cases a <;> simp_all [sent, summarised]

end Status

namespace Store

/-- What bill run row `b` files in `s`: generated, approved or sent, it carries the summary of its
invoices; sent, exactly its billable invoices carry a transaction reference, each made from the
bill run's region, the sign of the invoice's net and a number. -/
structure Filed (s : Store) (b : BillRun) : Prop where
  summary : b.status.summarised = true → b.summary = s.summaryOf b.id
  referenced : b.status.sent = true → ∀ i ∈ s.invoicesOf b.id,
    i.transactionReference.isSome = i.isBillable
  letters : b.status.sent = true → ∀ i ∈ s.invoicesOf b.id, ∀ x,
    i.transactionReference = some x → ∃ n, x = BillRun.transactionReference b.region i n

/-- The bill run under `X`, if there is one, files what `Filed` says. -/
def FiledAt (s : Store) (X : Uuid) : Prop := ∀ b, s.billRun? X = some b → s.Filed b

/-- Every bill run files what `Filed` says. -/
def Filing (s : Store) : Prop := ∀ X, s.FiledAt X

variable {s s₀ : Store} {X : Uuid} {b : BillRun}

theorem Filed.of_status (h : b.status.summarised = false) : s.Filed b where
  summary e := absurd (h.symm.trans e) Bool.false_ne_true
  referenced e := absurd (h.symm.trans (Status.summarised_of_sent e)) Bool.false_ne_true
  letters e := absurd (h.symm.trans (Status.summarised_of_sent e)) Bool.false_ne_true

theorem FiledAt.of_statusOf (h : ∀ a, s.statusOf X = some a → a.summarised = false) :
    s.FiledAt X :=
  fun b hb => Filed.of_status (h b.status (by rw [statusOf, hb, Option.map_some]))

theorem Filed.congr (h : s₀.Filed b) (e : s.invoicesOf b.id = s₀.invoicesOf b.id) :
    s.Filed b where
  summary hs := by rw [h.summary hs, summaryOf, summaryOf, e]
  referenced hs := e ▸ h.referenced hs
  letters hs := e ▸ h.letters hs

theorem Filed.restatus {s' : Store} (h : s.Filed b) {b' : BillRun} (hid : b'.id = b.id)
    (hsummary : b'.summary = b.summary) (hregion : b'.region = b.region)
    (hs : b'.status.summarised = true → b.status.summarised = true)
    (hsent : b'.status.sent = true → b.status.sent = true)
    (e : s'.invoicesOf b.id = s.invoicesOf b.id) : s'.Filed b' where
  summary h' := by rw [hsummary, h.summary (hs h'), hid, summaryOf, summaryOf, e]
  referenced h' := hid ▸ e ▸ h.referenced (hsent h')
  letters h' := hid ▸ e ▸ hregion ▸ h.letters (hsent h')

theorem invoicesOf_of_part (e : s.part X = s₀.part X) : s.invoicesOf X = s₀.invoicesOf X :=
  congrArg (sortBy invoiceOrder) (congrArg Part.invoices e)

theorem FiledAt.of_part (h : s₀.FiledAt X) (e : s.part X = s₀.part X) : s.FiledAt X :=
  fun b hb => by
    rw [billRun?_eq_part, e, ← billRun?_eq_part] at hb
    exact (h b hb).congr (by rw [id_of_billRun? hb]; exact invoicesOf_of_part e)

end Store

open Op Store

variable {s₀ : Store}

/-! ## Writes of a bill run's status -/

theorem transition_filed (now : Instant) (X : Uuid) {source target : Status}
    (hs : target.summarised = true → source.summarised = true)
    (hsent : target.sent = true → source.sent = true) :
    Triple (·.FiledAt X) (BillRun.transition now X source target) (fun _ => (·.FiledAt X))
      (·.FiledAt X) := by
  refine Triple.of_eq fun s₀ h₀ => Triple.modifyGet_bind ?_
  cases hg : (s₀.guarded X [source] fun b => { b with status := target, updatedAt := now }).1
  · rw [guarded_false hg]
    exact (conflict_fails X source).mono (fun _ e => e ▸ h₀) (fun _ _ h => h.elim) fun _ h => h
  · obtain ⟨b, hb, hsrc, hb'⟩ :=
      billRun?_taken (f := fun b => { b with status := target, updatedAt := now }) (fun _ => rfl) hg
    have hsrc : b.status = source := by simpa using hsrc
    refine Triple.pure fun s e b' hb'' => ?_
    subst e
    rw [hb', Option.some.injEq] at hb''
    subst hb''
    exact (h₀ b hb).restatus rfl rfl rfl (hsrc ▸ hs) (hsrc ▸ hsent)
      (by rw [(guarded_true hg).1]; rfl)

theorem approve_filed (now : Instant) (ref : BillRunRef) (h₀ : s₀.FiledAt ref.billRunId) :
    Triple (· = s₀) (BillRun.approve now ref) (fun _ => (·.FiledAt ref.billRunId))
      (·.FiledAt ref.billRunId) := by
  refine Triple.bind ((billRunOf_found ref).mono (fun _ h => h) (fun _ _ h => h)
    fun _ e => e ▸ h₀) fun b => Triple.of_eq fun s h => ?_
  obtain ⟨e, hb⟩ := h
  subst s
  rw [← (id_of_billRunIn? hb).1] at h₀ ⊢
  exact (transition_filed now b.id (by decide) (by decide)).mono (fun _ e => e ▸ h₀)
    (fun _ _ h => h) fun _ h => h

/-! ## Generating -/

theorem Store.Generated.filedAt {s₁ s : Store} {X : Uuid} {ruleset : Ruleset} {th : Thresholds}
    (h : Generated s₁ X ruleset th s) : s.FiledAt X := fun b hb => by
  have hX := id_of_billRun? hb
  obtain ⟨hst, hsummary⟩ := h.summary b (List.mem_of_find?_eq_some hb) hX
  refine ⟨fun _ => by rw [hsummary, hX]; rfl, fun hs => ?_, fun hs => ?_⟩ <;>
    rw [hst] at hs <;> cases hs

/-- A generation leaves the bill run it names filing the summary it writes, or, when it fails,
back where it was or initialised. -/
theorem generate_filed (env : Env) (ref : BillRunRef) (hc : s₀.Consistent) (hco : s₀.Coherent)
    (h₀ : s₀.FiledAt ref.billRunId) :
    Triple (· = s₀) (BillRun.generate env ref) (fun _ => (·.FiledAt ref.billRunId))
      (·.FiledAt ref.billRunId) := by
  unfold BillRun.generate
  refine Triple.bind ((billRunOf_found ref).mono (fun _ h => h) (fun _ _ h => h)
    fun _ e => e ▸ h₀) fun b => Triple.of_eq fun s h => ?_
  obtain ⟨e, hb⟩ := h
  subst s
  have hid := (id_of_billRunIn? hb).1
  repeat refine Triple.require_bind (fun _ _ e => e ▸ h₀) fun _ => ?_
  refine Triple.get_bind (Triple.require_bind (fun _ _ e => e ▸ h₀) fun _ => ?_)
  rw [← hid] at h₀ ⊢
  have htrans : Triple (· = s₀) (BillRun.transition env.now b.id .initialised .generating)
      (fun _ s₁ => ToppingUp b.id s₁) (·.FiledAt b.id) :=
    ((((transition_within env.now .initialised .generating : Keeps (Within b.id s₀) _).triple.conj
      (Coherent.inPlace.rewrites.transition env.now b.id _ _).triple).conj
      (transition_status env.now b.id .initialised .generating)).conj
      (transition_filed env.now b.id (by decide) (by decide))).mono
      (fun _ e => by rw [e]; exact ⟨⟨⟨Within.refl hc _, hco⟩, trivial⟩, h₀⟩)
      (fun _ _ h => ⟨h.1.1.1.1, h.1.1.2, h.1.2⟩) fun _ h => h.2
  -- a block that fails is undone, and its handler puts the bill run back to initialised
  refine Triple.bind htrans fun _ => Triple.bind (Triple.tryCatch
    (Triple.atomically (E := fun s => s.statusOf b.id = some .generating) fun _ h₁ =>
      (summarise_generated env.now b _ h₁).mono (fun _ h => h) (fun _ _ h => h.filedAt)
        fun _ _ => h₁.generating)
    fun _ => Triple.bind (setStatus_from env.now (List.mem_singleton_self _)) fun _ =>
      Triple.throw fun _ h => FiledAt.of_statusOf fun a e => by
        rw [h.2, Option.some.injEq] at e
        subst e
        rfl) fun _ => ?_
  rw [hid]
  exact (billRunOf_found ref).mono (fun _ h => h) (fun _ _ h => hid ▸ h.1) fun _ h => hid ▸ h

end ChargeLedger
