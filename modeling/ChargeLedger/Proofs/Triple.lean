import ChargeLedger.Ledger.Env

/-!
# Triples over store operations

`Op.Triple P x Q E` says that `x`, started in a store where `P` holds, either returns `a` in
a store where `Q a` holds or fails in a store where `E` holds. A failure keeps the store it
failed in, so the failure condition matters as much as the result's. The rules below take a
triple through the parts of a `do` block; a precondition that pins the store (`(· = s₀)`)
lets a postcondition speak of the store the operation started from.
-/

set_option autoImplicit false

namespace ChargeLedger

namespace Op

/-- Started where `P` holds, `x` returns into `Q` or fails into `E`. -/
def Triple {α : Type} (P : Store → Prop) (x : Op α) (Q : α → Store → Prop)
    (E : Store → Prop) : Prop :=
  ∀ s, P s → match x s with
    | .ok a s' => Q a s'
    | .error _ s' => E s'

variable {α β : Type} {P P' : Store → Prop} {Q Q' : α → Store → Prop} {E E' : Store → Prop}

namespace Triple

theorem mono {x : Op α} (h : Triple P x Q E) (hP : ∀ s, P' s → P s)
    (hQ : ∀ a s, Q a s → Q' a s) (hE : ∀ s, E s → E' s) : Triple P' x Q' E' := by
  intro s hs
  have h' := h s (hP s hs)
  revert h'
  rcases x s with ⟨a, s'⟩ | ⟨e, s'⟩
  · exact hQ a s'
  · exact hE s'

theorem pure {a : α} (h : ∀ s, P s → Q a s) : Triple P (Pure.pure a : Op α) Q E := h

theorem bind {x : Op α} {f : α → Op β} {R : β → Store → Prop} (hx : Triple P x Q E)
    (hf : ∀ a, Triple (Q a) (f a) R E) : Triple P (x >>= f) R E := by
  intro s hs
  have := hx s hs
  show match EStateM.bind x f s with
    | .ok a s' => R a s'
    | .error _ s' => E s'
  unfold EStateM.bind
  revert this
  rcases x s with ⟨a, s'⟩ | ⟨e, s'⟩
  · exact hf a s'
  · exact id

theorem throw {e : Fault} (h : ∀ s, P s → E s) : Triple P (MonadExcept.throw e : Op α) Q E := h

theorem run (x : Op α) (s₀ : Store) :
    Triple (· = s₀) x (fun a s => x s₀ = .ok a s) (fun s => ∃ e, x s₀ = .error e s) := by
  rintro s rfl
  rcases x s with ⟨a, s'⟩ | ⟨e, s'⟩
  · rfl
  · exact ⟨e, rfl⟩

theorem run_bind {x : Op α} {k : α → Op β} {R : β → Store → Prop} {s₀ : Store}
    (hok : ∀ a s, x s₀ = .ok a s → Triple (· = s) (k a) R E)
    (herr : ∀ e s, x s₀ = .error e s → E s) : Triple (· = s₀) (x >>= k) R E := by
  rintro s rfl
  show match EStateM.bind x k s with
    | .ok a s' => R a s'
    | .error _ s' => E s'
  unfold EStateM.bind
  rcases h : x s with ⟨a, s'⟩ | ⟨e, s'⟩
  · exact hok a s' h s' rfl
  · exact herr e s' h

theorem get_bind {k : Store → Op β} {R : β → Store → Prop} {s₀ : Store}
    (h : Triple (· = s₀) (k s₀) R E) : Triple (· = s₀) (MonadState.get >>= k) R E :=
  run_bind (fun _ _ hs => by cases hs; exact h) (fun _ _ hs => by cases hs)

theorem modifyGet_bind {f : Store → α × Store} {k : α → Op β} {R : β → Store → Prop} {s₀ : Store}
    (h : Triple (· = (f s₀).2) (k (f s₀).1) R E) :
    Triple (· = s₀) (MonadState.modifyGet f >>= k) R E :=
  run_bind (fun _ _ hs => by cases hs; exact h) (fun _ _ hs => by cases hs)

theorem modify_bind {f : Store → Store} {k : Unit → Op β} {R : β → Store → Prop} {s₀ : Store}
    (h : Triple (· = f s₀) (k ()) R E) : Triple (· = s₀) (modify f >>= k) R E :=
  run_bind (fun _ _ hs => by cases hs; exact h) (fun _ _ hs => by cases hs)

theorem fresh_bind {k : Uuid → Op β} {R : β → Store → Prop} {s₀ : Store}
    (h : Triple (· = { s₀ with issued := s₀.issued + 1 }) (k (Uuid.ofSerial s₀.issued)) R E) :
    Triple (· = s₀) (Store.fresh >>= k) R E :=
  modifyGet_bind h

theorem throw_bind {e : Fault} {k : α → Op β} {R : β → Store → Prop} (h : ∀ s, P s → E s) :
    Triple P (MonadExcept.throw e >>= k) R E := h

theorem get {Q : Store → Store → Prop} (h : ∀ s, P s → Q s s) :
    Triple P (MonadState.get : Op Store) Q E := h

theorem modifyGet {f : Store → α × Store} (h : ∀ s, P s → Q (f s).1 (f s).2) :
    Triple P (MonadState.modifyGet f : Op α) Q E := h

theorem modify {f : Store → Store} {Q : Unit → Store → Prop} (h : ∀ s, P s → Q () (f s)) :
    Triple P (modify f : Op Unit) Q E := h

theorem forM {xs : List β} {f : β → Op Unit} (I : List β → Store → Prop)
    (h : ∀ b rest, Triple (I (b :: rest)) (f b) (fun _ => I rest) E) :
    Triple (I xs) (xs.forM f) (fun _ => I []) E := by
  induction xs with
  | nil => exact pure fun _ hs => hs
  | cons b rest ih => exact bind (h b rest) fun _ => ih

theorem atomically {x : Op α}
    (h : ∀ s₀, P s₀ → Triple (· = s₀) x Q (fun s' => E { s₀ with issued := s'.issued })) :
    Triple P (Store.atomically x) Q E := by
  intro s hs
  have := h s hs s rfl
  show match (match x s with
    | .ok a s' => EStateM.Result.ok a s'
    | .error e s' => .error e { s with issued := s'.issued }) with
    | .ok a s' => Q a s'
    | .error _ s' => E s'
  revert this
  rcases x s with ⟨a, s'⟩ | ⟨e, s'⟩ <;> exact id

theorem tryCatch {x : Op α} {handler : Fault → Op α} {E₁ : Store → Prop}
    (hx : Triple P x Q E₁) (hh : ∀ e, Triple E₁ (handler e) Q E) :
    Triple P (MonadExcept.tryCatch x handler) Q E := by
  intro s hs
  have := hx s hs
  show match EStateM.tryCatch x handler s with
    | .ok a s' => Q a s'
    | .error _ s' => E s'
  unfold EStateM.tryCatch
  revert this
  rcases x s with ⟨a, s'⟩ | ⟨e, s'⟩
  · exact id
  · exact hh e s'

theorem require {c : Bool} {f : Fault} {Q : Unit → Store → Prop} (h : ∀ s, P s → (c = true → Q () s) ∧ (c = false → E s)) :
    Triple P (Op.require c f) Q E := by
  intro s hs
  cases c
  · exact (h s hs).2 rfl
  · exact (h s hs).1 rfl

theorem readRow {γ : Type} {readable : γ → Bool} {r : Option γ} :
    Triple P (Store.readRow readable r) (fun a s => a = r ∧ P s) P := by
  intro s hs
  cases r with
  | none => exact ⟨rfl, hs⟩
  | some r =>
    simp only [Store.readRow]
    cases readable r
    · exact hs
    · exact ⟨rfl, hs⟩

theorem require_bind {c : Bool} {f : Fault} {k : Unit → Op β} {R : β → Store → Prop}
    (hfail : c = false → ∀ s, P s → E s) (hok : c = true → Triple P (k ()) R E) :
    Triple P (Op.require c f >>= k) R E := by
  intro s hs
  cases c
  · exact hfail rfl s hs
  · exact hok rfl s hs

theorem always (x : Op α) : Triple P x (fun _ _ => True) (fun _ => True) := by
  intro s _
  cases x s <;> exact True.intro

theorem absurd (x : Op α) : Triple (fun _ => False) x Q E := fun _ h => h.elim

theorem of_eq {x : Op α} (h : ∀ s₀, P s₀ → Triple (· = s₀) x Q E) : Triple P x Q E :=
  fun s hs => h s hs s rfl

theorem conj {x : Op α} (h₁ : Triple P x Q E) (h₂ : Triple P' x Q' E') :
    Triple (fun s => P s ∧ P' s) x (fun a s => Q a s ∧ Q' a s) (fun s => E s ∧ E' s) := by
  intro s hs
  have h1 := h₁ s hs.1
  have h2 := h₂ s hs.2
  revert h1 h2
  rcases x s with ⟨a, s'⟩ | ⟨e, s'⟩ <;> exact And.intro

theorem apply {x : Op α} (h : Triple P x Q E) {s : Store} (hs : P s) :
    match x s with
    | .ok a s' => Q a s'
    | .error _ s' => E s' :=
  h s hs

theorem of_ok {x : Op α} (h : Triple P x Q E) {s : Store} (hs : P s) {a : α} {s' : Store}
    (hx : x s = .ok a s') : Q a s' := by
  have := h.apply hs
  rw [hx] at this
  exact this

end Triple

-- Past its rules a triple is used only through them. Sealed, it keeps Lean from running a
-- program on an unknown store whenever it unfolds a triple to look for further arguments.
attribute [irreducible] Triple

/-- `x` keeps `I`: started where `I` holds, it returns or fails where `I` holds again, and it
only ever draws identifiers. -/
def Keeps (I : Store → Prop) (x : Op α) : Prop :=
  ∀ n, Triple (fun s => I s ∧ n ≤ s.issued) x (fun _ s => I s ∧ n ≤ s.issued)
    (fun s => I s ∧ n ≤ s.issued)

namespace Keeps

variable {I : Store → Prop}

theorem modify {f : Store → Store} (h : ∀ s, I s → I (f s) ∧ s.issued ≤ (f s).issued) :
    Keeps I (modify f : Op Unit) :=
  fun _ => Triple.modify fun s hs => ⟨(h s hs.1).1, Nat.le_trans hs.2 (h s hs.1).2⟩

theorem modifyGet {f : Store → α × Store}
    (h : ∀ s, I s → I (f s).2 ∧ s.issued ≤ (f s).2.issued) :
    Keeps I (MonadState.modifyGet f : Op α) :=
  fun _ => Triple.modifyGet fun s hs => ⟨(h s hs.1).1, Nat.le_trans hs.2 (h s hs.1).2⟩

theorem pure (a : α) : Keeps I (Pure.pure a : Op α) := fun _ => Triple.pure fun _ h => h

theorem throw (e : Fault) : Keeps I (MonadExcept.throw e : Op α) :=
  fun _ => Triple.throw fun _ h => h

theorem get : Keeps I (MonadState.get : Op Store) := fun _ => Triple.get fun _ h => h

theorem bind {x : Op α} {f : α → Op β} (hx : Keeps I x) (hf : ∀ a, Keeps I (f a)) :
    Keeps I (x >>= f) :=
  fun n => Triple.bind (hx n) fun a => hf a n

theorem forM {xs : List β} {f : β → Op Unit} (h : ∀ b ∈ xs, Keeps I (f b)) :
    Keeps I (xs.forM f) := by
  induction xs with
  | nil => exact pure _
  | cons b rest ih =>
    exact bind (h b List.mem_cons_self) fun _ => ih fun c hc => h c (List.mem_cons_of_mem b hc)

theorem require (c : Bool) (f : Fault) : Keeps I (Op.require c f) :=
  fun _ => Triple.require fun _ h => ⟨fun _ => h, fun _ => h⟩

theorem readRow {γ : Type} (readable : γ → Bool) (r : Option γ) :
    Keeps I (Store.readRow readable r) :=
  fun _ => Triple.readRow.mono (fun _ h => h) (fun _ _ h => h.2) (fun _ h => h)

theorem tryCatch {x : Op α} {handler : Fault → Op α} (hx : Keeps I x)
    (hh : ∀ e, Keeps I (handler e)) : Keeps I (MonadExcept.tryCatch x handler) :=
  fun n => Triple.tryCatch (hx n) fun e => hh e n

theorem and {J : Store → Prop} {x : Op α} (hI : Keeps I x) (hJ : Keeps J x) :
    Keeps (fun s => I s ∧ J s) x :=
  fun n => ((hI n).conj (hJ n)).mono (fun _ h => ⟨⟨h.1.1, h.2⟩, h.1.2, h.2⟩)
    (fun _ _ h => ⟨⟨h.1.1, h.2.1⟩, h.1.2⟩) fun _ h => ⟨⟨h.1.1, h.2.1⟩, h.1.2⟩

theorem triple {x : Op α} (h : Keeps I x) : Triple I x (fun _ => I) I :=
  (h 0).mono (fun _ h => ⟨h, Nat.zero_le _⟩) (fun _ _ h => h.1) fun _ h => h.1

theorem fresh_bind {k : Uuid → Op β}
    (h : ∀ n s, I s → n ≤ s.issued → Triple (· = { s with issued := s.issued + 1 })
      (k (Uuid.ofSerial s.issued)) (fun _ s' => I s' ∧ n ≤ s'.issued) (fun s' => I s' ∧ n ≤ s'.issued)) :
    Keeps I (Store.fresh >>= k) :=
  fun n => Triple.of_eq fun s hs => Triple.fresh_bind (h n s hs.1 hs.2)

end Keeps

/-- `x` keeps `I` when it returns; when it fails it has only drawn identifiers. That is all an
all-or-nothing block asks of what runs inside it. -/
def Preserves (I : Store → Prop) (x : Op α) : Prop :=
  ∀ n, Triple (fun s => I s ∧ n ≤ s.issued) x (fun _ s => I s ∧ n ≤ s.issued) (fun s => n ≤ s.issued)

namespace Preserves

variable {I : Store → Prop}

theorem of_keeps {x : Op α} (h : Keeps I x) : Preserves I x :=
  fun n => (h n).mono (fun _ h => h) (fun _ _ h => h) (fun _ h => h.2)

theorem bind {x : Op α} {f : α → Op β} (hx : Preserves I x) (hf : ∀ a, Preserves I (f a)) :
    Preserves I (x >>= f) :=
  fun n => Triple.bind (hx n) fun a => hf a n

theorem forM {xs : List β} {f : β → Op Unit} (h : ∀ b ∈ xs, Preserves I (f b)) :
    Preserves I (xs.forM f) := by
  induction xs with
  | nil => exact of_keeps (.pure _)
  | cons b rest ih =>
    exact bind (h b List.mem_cons_self) fun _ => ih fun c hc => h c (List.mem_cons_of_mem b hc)

theorem throw (e : Fault) : Preserves I (MonadExcept.throw e : Op α) :=
  fun _ => Triple.throw fun _ h => h.2

theorem and {J : Store → Prop} {x : Op α} (hI : Preserves I x) (hJ : Preserves J x) :
    Preserves (fun s => I s ∧ J s) x :=
  fun n => ((hI n).conj (hJ n)).mono (fun _ h => ⟨⟨h.1.1, h.2⟩, h.1.2, h.2⟩)
    (fun _ _ h => ⟨⟨h.1.1, h.2.1⟩, h.1.2⟩) fun _ h => h.1

theorem fresh_bind {k : Uuid → Op β}
    (h : ∀ n s, I s → n ≤ s.issued → Triple (· = { s with issued := s.issued + 1 })
      (k (Uuid.ofSerial s.issued)) (fun _ s' => I s' ∧ n ≤ s'.issued) (fun s' => n ≤ s'.issued)) :
    Preserves I (Store.fresh >>= k) :=
  fun n => Triple.of_eq fun s hs => Triple.fresh_bind (h n s hs.1 hs.2)

end Preserves

theorem Triple.atomically_of {I J : Store → Prop} {x : Op α}
    (h : ∀ n, Triple (fun s => J s ∧ n ≤ s.issued) x (fun _ s => I s ∧ n ≤ s.issued)
      (fun s => n ≤ s.issued))
    (hJ : ∀ s, J s → I s) (hI : ∀ s m, I s → s.issued ≤ m → I { s with issued := m }) (n : Nat) :
    Triple (fun s => J s ∧ n ≤ s.issued) (Store.atomically x) (fun _ s => I s ∧ n ≤ s.issued)
      (fun s => I s ∧ n ≤ s.issued) := by
  refine Triple.atomically fun s₀ hs₀ => (h s₀.issued).mono ?_
    (fun _ _ h' => ⟨h'.1, Nat.le_trans hs₀.2 h'.2⟩)
    (fun s' h' => ⟨hI s₀ s'.issued (hJ s₀ hs₀.1) h', Nat.le_trans hs₀.2 h'⟩)
  rintro s rfl
  exact ⟨hs₀.1, Nat.le_refl _⟩

/-- A block run all or nothing keeps an invariant that drawing identifiers keeps, when the
block keeps it on return, whatever the store it fails in. -/
theorem Keeps.atomically {I : Store → Prop} {x : Op α} (h : Preserves I x)
    (hI : ∀ s m, I s → s.issued ≤ m → I { s with issued := m }) :
    Keeps I (Store.atomically x) :=
  Triple.atomically_of h (fun _ h => h) hI

theorem Keeps.atomic {I : Store → Prop} {x : Op α} (hx : Keeps I x)
    (hI : ∀ s m, I s → s.issued ≤ m → I { s with issued := m }) : Keeps I (Store.atomically x) :=
  .atomically (.of_keeps hx) hI

end Op

end ChargeLedger
