import ChargeLedger.Proofs.Triple
import ChargeLedger.Ledger.Request

/-!
# The faults an operation raises

A triple follows the store an operation fails in, not the fault it fails with. `Op.Raises P x Q F`
follows the fault: started where `P` holds, `x` returns into `Q` or fails with a fault that `F`
admits. Its rules take it through a `do` block as the triple's rules do. A block that never fails
raises no fault at all (`Raises.of_triple`), and a triple of the same operation lends it what it
says of the store returned into (`Raises.and_triple`); so a proof about faults only follows the
checks that can throw, and takes everything else from the triples.
-/

set_option autoImplicit false

namespace ChargeLedger

namespace Op

/-- Started where `P` holds, `x` returns into `Q` or fails with a fault that `F` admits. -/
def Raises {α : Type} (P : Store → Prop) (x : Op α) (Q : α → Store → Prop) (F : Fault → Prop) :
    Prop :=
  ∀ s, P s → match x s with
    | .ok a s' => Q a s'
    | .error e _ => F e

variable {α β : Type} {P P' : Store → Prop} {Q Q' : α → Store → Prop} {F F' : Fault → Prop}

namespace Raises

theorem mono {x : Op α} (h : Raises P x Q F) (hP : ∀ s, P' s → P s)
    (hQ : ∀ a s, Q a s → Q' a s) (hF : ∀ e, F e → F' e) : Raises P' x Q' F' := by
  intro s hs
  have h' := h s (hP s hs)
  revert h'
  rcases x s with ⟨a, s'⟩ | ⟨e, s'⟩
  · exact hQ a s'
  · exact hF e

theorem of_eq {x : Op α} (h : ∀ s₀, P s₀ → Raises (· = s₀) x Q F) : Raises P x Q F :=
  fun s hs => h s hs s rfl

/-- An operation that never fails raises no fault. -/
theorem of_triple {x : Op α} (h : Triple P x Q fun _ => False) : Raises P x Q F := by
  intro s hs
  have h' := h.apply hs
  revert h'
  rcases x s with ⟨a, s'⟩ | ⟨e, s'⟩
  · exact id
  · exact False.elim

theorem always (x : Op α) : Raises P x (fun _ _ => True) (fun _ => True) := by
  intro s _
  show match x s with
    | .ok _ _ => True
    | .error _ _ => True
  cases x s <;> trivial

/-- A triple of the same operation adds what it says of the store returned into. -/
theorem and_triple {x : Op α} {E : Store → Prop} (h : Raises P x Q F) (h' : Triple P' x Q' E) :
    Raises (fun s => P s ∧ P' s) x (fun a s => Q a s ∧ Q' a s) F := by
  intro s hs
  have h₁ := h s hs.1
  have h₂ := h'.apply hs.2
  revert h₁ h₂
  rcases x s with ⟨a, s'⟩ | ⟨e, s'⟩
  · exact And.intro
  · exact fun he _ => he

theorem pure {a : α} (h : ∀ s, P s → Q a s) : Raises P (Pure.pure a : Op α) Q F := h

theorem bind {x : Op α} {f : α → Op β} {R : β → Store → Prop} (hx : Raises P x Q F)
    (hf : ∀ a, Raises (Q a) (f a) R F) : Raises P (x >>= f) R F := by
  intro s hs
  have := hx s hs
  show match EStateM.bind x f s with
    | .ok a s' => R a s'
    | .error e _ => F e
  unfold EStateM.bind
  revert this
  rcases x s with ⟨a, s'⟩ | ⟨e, s'⟩
  · exact hf a s'
  · exact id

theorem throw {e : Fault} (he : F e) : Raises P (MonadExcept.throw e : Op α) Q F := fun _ _ => he

theorem get {Q : Store → Store → Prop} (h : ∀ s, P s → Q s s) :
    Raises P (MonadState.get : Op Store) Q F := h

theorem modifyGet {f : Store → α × Store} (h : ∀ s, P s → Q (f s).1 (f s).2) :
    Raises P (MonadState.modifyGet f : Op α) Q F := h

theorem modify {f : Store → Store} {Q : Unit → Store → Prop} (h : ∀ s, P s → Q () (f s)) :
    Raises P (modify f : Op Unit) Q F := h

theorem get_bind {k : Store → Op β} {R : β → Store → Prop} {s₀ : Store}
    (h : Raises (· = s₀) (k s₀) R F) : Raises (· = s₀) (MonadState.get >>= k) R F := by
  rintro s rfl
  exact h s rfl

theorem modify_bind {f : Store → Store} {k : Unit → Op β} {R : β → Store → Prop} {s₀ : Store}
    (h : Raises (· = f s₀) (k ()) R F) : Raises (· = s₀) (MonadState.modifyGet
      (fun s => ((), f s)) >>= k) R F := by
  rintro s rfl
  exact h (f s) rfl

theorem fresh_bind {k : Uuid → Op β} {R : β → Store → Prop} {s₀ : Store}
    (h : Raises (· = { s₀ with issued := s₀.issued + 1 }) (k (Uuid.ofSerial s₀.issued)) R F) :
    Raises (· = s₀) (Store.fresh >>= k) R F := by
  rintro s rfl
  exact h _ rfl

theorem require_bind {c : Bool} {f : Fault} {k : Unit → Op β} {R : β → Store → Prop}
    (hfail : c = false → F f) (hok : c = true → Raises P (k ()) R F) :
    Raises P (Op.require c f >>= k) R F := by
  intro s hs
  cases c
  · exact hfail rfl
  · exact hok rfl s hs

theorem readRow {γ : Type} {readable : γ → Bool} {r : Option γ} :
    Raises P (Store.readRow readable r) (fun a s => a = r ∧ P s) (· = .unreadableTime) := by
  intro s hs
  cases r with
  | none => exact ⟨rfl, hs⟩
  | some r =>
    simp only [Store.readRow]
    cases readable r
    · rfl
    · exact ⟨rfl, hs⟩

theorem forM {xs : List β} {f : β → Op Unit} (I : List β → Store → Prop)
    (h : ∀ b rest, Raises (I (b :: rest)) (f b) (fun _ => I rest) F) :
    Raises (I xs) (xs.forM f) (fun _ => I []) F := by
  induction xs with
  | nil => exact pure fun _ hs => hs
  | cons b rest ih => exact bind (h b rest) fun _ => ih

theorem atomically {x : Op α} (h : ∀ s₀, P s₀ → Raises (· = s₀) x Q F) :
    Raises P (Store.atomically x) Q F := by
  intro s hs
  have := h s hs s rfl
  show match (match x s with
    | .ok a s' => EStateM.Result.ok a s'
    | .error e s' => .error e { s with issued := s'.issued }) with
    | .ok a s' => Q a s'
    | .error e _ => F e
  revert this
  rcases x s with ⟨a, s'⟩ | ⟨e, s'⟩ <;> exact id

theorem fault {x : Op α} {s₀ s : Store} {e : Fault} (h : Raises (· = s₀) x Q F)
    (he : x s₀ = .error e s) : F e := by
  have h' := h s₀ rfl
  rw [he] at h'
  exact h'

theorem result {x : Op α} {s₀ s : Store} {a : α} (h : Raises (· = s₀) x Q F)
    (he : x s₀ = .ok a s) : Q a s := by
  have h' := h s₀ rfl
  rw [he] at h'
  exact h'

end Raises

-- Past its rules a fault triple is used only through them, as a triple is.
attribute [irreducible] Raises

end Op

open Op

variable {P : Store → Prop} {α : Type} {Q : α → Store → Prop} {s₀ : Store}

/-! ## The faults of lookups and guarded writes -/

theorem billRunOf_raises (ref : BillRunRef) :
    Raises (· = s₀) (billRunOf ref)
      (fun b s => s = s₀ ∧ s₀.billRunIn? ref.regimeId ref.billRunId = some b)
      (fun e => e = .billRunNotFound ref.billRunId ∨ e = .unreadableTime) := by
  refine Raises.get_bind (Raises.bind (Raises.readRow.mono (fun _ h => h) (fun _ _ h => h)
    fun _ => Or.inr) fun r => ?_)
  cases r with
  | none => exact Raises.throw (Or.inl rfl)
  | some b => exact Raises.pure fun _ h => ⟨h.2, h.1.symm⟩

theorem conflict_raises {Q : Unit → Store → Prop} (id : Uuid) (want : Status) :
    Raises P (BillRun.conflict id want) Q
      (fun e => e = .billRunNotFound id ∨ e = .statusConflict id want ∨ e = .unreadableTime) := by
  refine Raises.bind (Raises.get (Q := fun _ _ => True) fun _ _ => trivial) fun _ => ?_
  refine Raises.bind (Raises.readRow.mono (fun _ h => h) (fun _ _ h => h)
    fun _ e => Or.inr (Or.inr e)) fun r => ?_
  cases r with
  | none => exact Raises.throw (Or.inl rfl)
  | some _ => exact Raises.throw (Or.inr (Or.inl rfl))

theorem transition_raises (now : Instant) (id : Uuid) (source target : Status) :
    Raises P (BillRun.transition now id source target) (fun _ _ => True)
      (fun e => e = .billRunNotFound id ∨ e = .statusConflict id source ∨ e = .unreadableTime) := by
  refine Raises.bind (Raises.modifyGet (Q := fun _ _ => True) fun _ _ => trivial) fun ok => ?_
  cases ok
  · exact conflict_raises id source
  · exact Raises.pure fun _ _ => trivial

theorem regimeNamed_raises (slug : String) :
    Raises (· = s₀) (Request.regimeNamed slug)
      (fun r s => s = s₀ ∧ s₀.regimeBySlug slug = some r) (· = .unknownRegime slug) := by
  refine Raises.get_bind ?_
  split
  · rename_i r hr
    exact Raises.pure fun _ e => ⟨e, hr⟩
  · exact Raises.throw rfl

/-- A counter hands out its number unless it is at the largest one. -/
theorem next_raises (q : Sequence) (R : Uuid) (G : Region) (now : Instant) :
    Raises P (Store.next q R G now) (fun _ _ => True) (· = .counterOverflow) := by
  refine Raises.bind (Raises.get (Q := fun _ _ => True) fun _ _ => trivial) fun s => ?_
  split
  · exact Raises.pure fun _ _ => trivial
  · extract_lets jp
    have hjp : ∀ u, Raises (fun _ => True) (jp u) (fun _ _ => True) (· = .counterOverflow) :=
      fun _ => Raises.bind (Raises.modify (Q := fun _ _ => True) fun _ _ => trivial) fun _ =>
        Raises.pure fun _ _ => trivial
    split
    · exact Raises.bind (Raises.throw rfl) hjp
    · exact hjp ()

end ChargeLedger
