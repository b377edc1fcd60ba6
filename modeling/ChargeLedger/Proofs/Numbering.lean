import ChargeLedger.Proofs.Unnumbering

/-!
# Numbers are handed out once

A counter hands out the numbers of its regime and region one after the other. `Store.HandedOut s c`
says what counter `c` has handed out, each number once: the transaction references on the
invoices of its regime and region are those of the numbers from 1 below its transaction number,
each with `I` or `C` before the number; the bill run numbers of its bill runs are the numbers from
10000 below its bill run number; their file references those of the numbers from 50000 below its
file number. `Store.Handed` is that for every counter, with one counter per regime and region,
one under every bill run.

Sending numbers a bill run and moves its counter on by as many numbers (`assignReferences_handed`);
no other request writes a number, and none writes to a sent bill run, the only ones that carry
numbers (`Store.Unsent`). The requests are taken one by one in `Proofs.Sequences`.
-/

set_option autoImplicit false

namespace ChargeLedger

open Op Store

/-! ## Rows split by a key -/

section Lists

variable {α β : Type}

theorem perm_filter_key_ne [DecidableEq α] {l l' : List α} {k : α → Uuid} {X : Uuid}
    (h : ∀ B, B ≠ X → l.filter (k · == B) = l'.filter (k · == B)) :
    (l.filter (k · != X)).Perm (l'.filter (k · != X)) := by
  refine List.perm_iff_count.2 fun a => ?_
  by_cases ha : k a = X
  · have hl : ∀ m : List α, (m.filter (k · != X)).count a = 0 := fun m =>
      List.count_eq_zero.2 fun hm => by simp [ha] at hm
    rw [hl, hl]
  · -- the rows under `a`'s own key are the same on both sides
    have e := congrArg (List.count a) (h (k a) ha)
    rw [List.count_filter (by simp), List.count_filter (by simp)] at e
    rw [List.count_filter (by simpa using ha), List.count_filter (by simpa using ha), e]

theorem perm_view_of_key [DecidableEq α] {l l' : List α} {k : α → Uuid} {X : Uuid}
    {q q' : α → Bool} {v : α → Option β}
    (hrest : ∀ B, B ≠ X → l.filter (k · == B) = l'.filter (k · == B))
    (hq : ∀ a, k a ≠ X → q a = q' a)
    (hX : ((l.filter (k · == X)).filter q).filterMap v =
      ((l'.filter (k · == X)).filter q').filterMap v) :
    ((l.filter q).filterMap v).Perm ((l'.filter q').filterMap v) := by
  have hsplit : ∀ (m : List α) (p : α → Bool), ((m.filter p).filterMap v).Perm
      ((((m.filter (k · == X)).filter p).filterMap v) ++
        (((m.filter (k · != X)).filter p).filterMap v)) := fun m p => by
    rw [← List.filterMap_append, ← List.filter_append]
    refine ((List.filter_append_perm (k · == X) m).symm.filter p).filterMap v |>.trans ?_
    exact List.Perm.refl _
  have hoff : (l'.filter (k · != X)).filter q' = (l'.filter (k · != X)).filter q :=
    List.filter_congr fun a ha => by
      simp only [List.mem_filter, bne_iff_ne, ne_eq] at ha
      exact (hq a ha.2).symm
  refine (hsplit l q).trans (((List.Perm.refl _).append
    (((perm_filter_key_ne hrest).filter q).filterMap v)).trans ?_)
  rw [hX, ← hoff]
  exact (hsplit l' q').symm

theorem perm_filterMap_update {l : List α} {k : α → Uuid} {X : Uuid} {f : α → α}
    {p : α → Bool} {v : α → Option β} {a : α} (hnd : (l.map k).Nodup) (ha : a ∈ l)
    (hk : k a = X) (hp : p (f a) = p a) (hv : v a = none) :
    (((l.map fun x => if k x == X then f x else x).filter p).filterMap v).Perm
      (((l.filter p).filterMap v) ++ if p a then (v (f a)).toList else []) := by
  obtain ⟨l₁, l₂, rfl⟩ := List.append_of_mem ha
  rw [List.map_append, List.map_cons] at hnd
  have h₁ : k a ∉ l₁.map k := fun hm =>
    (List.nodup_append.1 hnd).2.2 _ hm _ List.mem_cons_self rfl
  have h₂ : k a ∉ l₂.map k := (List.nodup_cons.1 (List.nodup_append.1 hnd).2.1).1
  have hstay : ∀ m : List α, k a ∉ m.map k →
      m.map (fun x => if k x == X then f x else x) = m := fun m hm => by
    refine (List.map_congr_left fun x hx => ?_).trans (List.map_id m)
    have : k x ≠ X := fun e => hm (hk ▸ e ▸ List.mem_map_of_mem hx)
    simp [this]
  have hfa : (if k a == X then f a else a) = f a := by simp [hk]
  rw [List.map_append, List.map_cons, hstay l₁ h₁, hstay l₂ h₂, hfa]
  simp only [List.filter_append, List.filter_cons, hp, List.filterMap_append]
  cases hpa : p a
  · simp
  · simp only [if_true, List.filterMap_cons, hv, List.append_assoc]
    refine (List.Perm.refl _).append ?_
    cases v (f a) with
    | none => simp
    | some b => simpa using (List.perm_append_singleton b _).symm

theorem filterMap_filter_map_of_eq {l : List α} {g : α → α} {p : α → Bool} {v : α → Option β}
    (hp : ∀ a, p (g a) = p a) (hv : ∀ a, v (g a) = v a) :
    ((l.map g).filter p).filterMap v = (l.filter p).filterMap v := by
  rw [List.filter_map, List.filterMap_map]
  have hpg : p ∘ g = p := funext hp
  have hvg : v ∘ g = v := funext hv
  rw [hpg, hvg]

end Lists

/-! ## What a counter has handed out -/

namespace Store

variable {s s₀ s' : Store} {R X : Uuid} {G : Region}

def isIn (s : Store) (R : Uuid) (G : Region) (B : Uuid) : Bool :=
  s.billRuns.any fun b => b.id == B && b.regimeId == R && b.region == G

def references (s : Store) (R : Uuid) (G : Region) : List String :=
  (s.invoices.filter fun i => s.isIn R G i.billRunId).filterMap (·.transactionReference)

def billRunsIn (s : Store) (R : Uuid) (G : Region) : List BillRun :=
  s.billRuns.filter fun b => b.regimeId == R && b.region == G

def billRunNumbers (s : Store) (R : Uuid) (G : Region) : List Int64 :=
  (s.billRunsIn R G).filterMap (·.billRunNumber)

def fileReferences (s : Store) (R : Uuid) (G : Region) : List String :=
  (s.billRunsIn R G).filterMap (·.fileReference)

/-- What counter `c` has handed out, each number once: the transaction references of its regime
and region are those of the numbers from 1 below its transaction number, with `I` or `C` before
the number; its bill run numbers are the numbers from 10000 below its bill run number; its file
references are those of the numbers from 50000 below its file number. -/
structure HandedOut (s : Store) (c : Counter) : Prop where
  references : ∃ letter : Nat → String, (∀ n, letter n = "I" ∨ letter n = "C") ∧
    (s.references c.regimeId c.region).Perm
      ((List.range' 1 (c.transactionNumber.toInt.toNat - 1)).map fun n =>
        c.region.name ++ letter n ++ TransactionFile.padded 7 n ++ "T")
  billRunNumbers : ((s.billRunNumbers c.regimeId c.region).map (·.toInt.toNat)).Perm
    (List.range' 10000 (c.billRunNumber.toInt.toNat - 10000))
  fileReferences : (s.fileReferences c.regimeId c.region).Perm
    ((List.range' 50000 (c.fileNumber.toInt.toNat - 50000)).map fun n : Nat =>
      TransactionFile.reference c.region.name n)

/-- The numbering of a ledger: one counter for each regime and region, one under every bill run,
none below where counters start, and each has handed out its numbers once. -/
structure Handed (s : Store) : Prop where
  keys : (s.counters.map fun c => (c.regimeId, c.region)).Nodup
  counted : s.Counted
  floors : ∀ c ∈ s.counters, 1 ≤ c.transactionNumber.toInt ∧ 10000 ≤ c.billRunNumber.toInt ∧
    50000 ≤ c.fileNumber.toInt
  handedOut : ∀ c ∈ s.counters, s.HandedOut c

/-- Only a sent bill run carries numbers. -/
def Unsent (s : Store) : Prop := ∀ b ∈ s.billRuns, b.status.sent = false → s.Unnumbered b.id

theorem HandedOut.of_perm {c : Counter} (h : s.HandedOut c)
    (hr : (s'.references c.regimeId c.region).Perm (s.references c.regimeId c.region))
    (hb : (s'.billRunNumbers c.regimeId c.region).Perm (s.billRunNumbers c.regimeId c.region))
    (hf : (s'.fileReferences c.regimeId c.region).Perm (s.fileReferences c.regimeId c.region)) :
    s'.HandedOut c := by
  obtain ⟨letter, hletter, href⟩ := h.references
  exact ⟨⟨letter, hletter, hr.trans href⟩, (hb.map _).trans h.billRunNumbers,
    hf.trans h.fileReferences⟩

theorem isIn_eq_part (B : Uuid) :
    s.isIn R G B = (s.part B).billRuns.any fun b => b.regimeId == R && b.region == G := by
  simp only [isIn, part, List.any_filter, Bool.and_assoc]

/-! ### Rewrites keep the numbering -/

theorem isIn_mapBillRun {f : BillRun → BillRun} (hf : ∀ b, (f b).place = b.place) (B : Uuid) :
    (s.mapBillRun X f).isIn R G B = s.isIn R G B := by
  simp only [isIn, mapBillRun, List.any_map]
  congr 1
  funext b
  simp only [Function.comp_apply]
  split
  · obtain ⟨hid, hR, hG, -⟩ := BillRun.place_eq (hf b)
    rw [hid, hR, hG]
  · rfl

theorem references_mapBillRun {f : BillRun → BillRun} (hf : ∀ b, (f b).place = b.place) :
    (s.mapBillRun X f).references R G = s.references R G := by
  simp only [references]
  congr 1
  exact List.filter_congr fun i _ => isIn_mapBillRun hf i.billRunId

theorem billRunViews_mapBillRun {f : BillRun → BillRun}
    (hf : ∀ b, (f b).place = b.place ∧ (f b).numbers = b.numbers) :
    (s.mapBillRun X f).billRunNumbers R G = s.billRunNumbers R G ∧
      (s.mapBillRun X f).fileReferences R G = s.fileReferences R G := by
  have hp : ∀ b, (fun b : BillRun => b.regimeId == R && b.region == G)
      (if b.id == X then f b else b) = (b.regimeId == R && b.region == G) := fun b => by
    split
    · obtain ⟨-, hR, hG, -⟩ := BillRun.place_eq (hf b).1
      dsimp only
      rw [hR, hG]
    · rfl
  have hnum : ∀ b, (f b).billRunNumber = b.billRunNumber ∧ (f b).fileReference = b.fileReference :=
    fun b => by simpa [BillRun.numbers] using (hf b).2
  refine ⟨filterMap_filter_map_of_eq hp fun b => ?_, filterMap_filter_map_of_eq hp fun b => ?_⟩
  · split
    · exact (hnum b).1
    · rfl
  · split
    · exact (hnum b).2
    · rfl

theorem references_mapInvoice {K : Uuid} {g : Invoice → Invoice}
    (hg : ∀ i, (g i).lineage = i.lineage ∧ (g i).transactionReference = i.transactionReference) :
    (s.mapInvoice K g).references R G = s.references R G := by
  refine filterMap_filter_map_of_eq (fun i => ?_) fun i => ?_
  · split
    · rw [(Invoice.lineage_eq (hg i).1).2.1]
    · rfl
  · split
    · exact (hg i).2
    · rfl

theorem HandedOut.mapBillRun {c : Counter} (h : s.HandedOut c) {f : BillRun → BillRun}
    (hf : ∀ b, (f b).place = b.place ∧ (f b).numbers = b.numbers) :
    (s.mapBillRun X f).HandedOut c :=
  h.of_perm (by rw [references_mapBillRun fun b => (hf b).1])
    (by rw [(billRunViews_mapBillRun hf).1]) (by rw [(billRunViews_mapBillRun hf).2])

theorem Handed.congr (h : s.Handed) (hc : s'.counters = s.counters) (hb : s'.billRuns = s.billRuns)
    (hi : s'.invoices = s.invoices) : s'.Handed := by
  have hview : ∀ R G, s'.references R G = s.references R G ∧
      s'.billRunNumbers R G = s.billRunNumbers R G ∧
      s'.fileReferences R G = s.fileReferences R G := fun R G => by
    exact ⟨by simp only [references, isIn, hb, hi], by simp only [billRunNumbers, billRunsIn, hb],
      by simp only [fileReferences, billRunsIn, hb]⟩
  refine ⟨by rw [hc]; exact h.keys, fun b hb' => ?_, by rw [hc]; exact h.floors, fun c hcm => ?_⟩
  · rw [hc]
    exact h.counted b (by rw [← hb]; exact hb')
  · obtain ⟨e₁, e₂, e₃⟩ := hview c.regimeId c.region
    exact (h.handedOut c (by rw [← hc]; exact hcm)).of_perm (by rw [e₁]) (by rw [e₂]) (by rw [e₃])

theorem Handed.rewrites : Rewrites Handed where
  mapBillRun s X f hf h :=
    ⟨h.keys, Unnumbering.counted.rewrites.mapBillRun s X f hf h.counted, h.floors,
      fun c hc => (h.handedOut c hc).mapBillRun hf⟩
  mapInvoice s K g hg h :=
    ⟨h.keys, h.counted, h.floors, fun c hc => (h.handedOut c hc).of_perm
      (by rw [references_mapInvoice hg]) (List.Perm.refl _) (List.Perm.refl _)⟩
  issue _ _ h _ := h.congr rfl rfl rfl

/-! ### A change confined to one bill run -/

/-- The rows under `X` are as they were, or carried no numbers before and carry none after. -/
def SameNumbers (X : Uuid) (s₀ s : Store) : Prop :=
  s.part X = s₀.part X ∨ (s₀.Unnumbered X ∧ s.Unnumbered X)

theorem references_confined (h : Confined X s₀ s) (hX : SameNumbers X s₀ s) (R : Uuid)
    (G : Region) : (s.references R G).Perm (s₀.references R G) := by
  have hisIn : ∀ B, B ≠ X → s.isIn R G B = s₀.isIn R G B := fun B hB => by
    rw [isIn_eq_part, isIn_eq_part, (h B hB).symm]
  refine perm_view_of_key (k := Invoice.billRunId) (X := X)
    (fun B hB => congrArg Part.invoices (h B hB).symm) (fun i hi => hisIn _ hi) ?_
  rcases hX with e | ⟨h₀, h₁⟩
  · have hi := congrArg Part.invoices e
    simp only [part] at hi
    rw [hi]
    congr 1
    refine List.filter_congr fun i hi' => ?_
    have : i.billRunId = X := by simpa using (List.mem_filter.1 hi').2
    rw [this, isIn_eq_part, isIn_eq_part, e]
  · rw [List.filterMap_eq_nil_iff.2, List.filterMap_eq_nil_iff.2]
    · intro i hi'
      simp only [List.mem_filter, beq_iff_eq] at hi'
      exact h₀.2 i hi'.1.1 hi'.1.2
    · intro i hi'
      simp only [List.mem_filter, beq_iff_eq] at hi'
      exact h₁.2 i hi'.1.1 hi'.1.2

theorem billRunView_confined {β : Type} {v : BillRun → Option β}
    (hv : ∀ b, b.numbers = (none, none) → v b = none) (h : Confined X s₀ s)
    (hX : SameNumbers X s₀ s) (R : Uuid) (G : Region) :
    ((s.billRunsIn R G).filterMap v).Perm ((s₀.billRunsIn R G).filterMap v) := by
  refine perm_view_of_key (k := BillRun.id) (X := X)
    (fun B hB => congrArg Part.billRuns (h B hB).symm) (fun _ _ => rfl) ?_
  rcases hX with e | ⟨h₀, h₁⟩
  · have hb := congrArg Part.billRuns e
    simp only [part] at hb
    rw [hb]
  · rw [List.filterMap_eq_nil_iff.2, List.filterMap_eq_nil_iff.2]
    · intro b hb'
      simp only [List.mem_filter, beq_iff_eq] at hb'
      exact hv b (h₀.1 b hb'.1.1 hb'.1.2)
    · intro b hb'
      simp only [List.mem_filter, beq_iff_eq] at hb'
      exact hv b (h₁.1 b hb'.1.1 hb'.1.2)

theorem HandedOut.confined {c : Counter} (hc : s₀.HandedOut c) (h : Confined X s₀ s)
    (hX : SameNumbers X s₀ s) : s.HandedOut c :=
  hc.of_perm (references_confined h hX _ _)
    (billRunView_confined (fun _ e => congrArg Prod.fst e) h hX _ _)
    (billRunView_confined (fun _ e => congrArg Prod.snd e) h hX _ _)

theorem Unnumbered.of_part {B : Uuid} (h : s₀.Unnumbered B) (e : s.part B = s₀.part B) :
    s.Unnumbered B := by
  have hb := congrArg Part.billRuns e
  have hi := congrArg Part.invoices e
  simp only [part] at hb hi
  refine ⟨fun b hb' hid => h.1 b ?_ hid, fun i hi' hid => h.2 i ?_ hid⟩
  · have : b ∈ s.billRuns.filter (·.id == B) := List.mem_filter.2 ⟨hb', by simpa using hid⟩
    rw [hb] at this
    exact (List.mem_filter.1 this).1
  · have : i ∈ s.invoices.filter (·.billRunId == B) := List.mem_filter.2 ⟨hi', by simpa using hid⟩
    rw [hi] at this
    exact (List.mem_filter.1 this).1

theorem Unsent.of_parts (h₀ : s₀.Unsent) (h : ∀ B, s.part B = s₀.part B ∨ s.Unnumbered B) :
    s.Unsent := by
  intro b hb hsent
  rcases h b.id with e | hX
  · -- the row is one of the rows it had
    have hmem : b ∈ s₀.billRuns := by
      have : b ∈ (s.part b.id).billRuns := List.mem_filter.2 ⟨hb, by simp⟩
      rw [e] at this
      exact (List.mem_filter.1 this).1
    exact (h₀ b hmem hsent).of_part e
  · exact hX

theorem Handed.of_frame (h : s₀.Handed) (hc : s.counters = s₀.counters) (hcount : s.Counted)
    (hconf : Confined X s₀ s) (hX : SameNumbers X s₀ s) : s.Handed := by
  refine ⟨by rw [hc]; exact h.keys, hcount, by rw [hc]; exact h.floors, fun c hcm => ?_⟩
  exact (h.handedOut c (by rw [← hc]; exact hcm)).confined hconf hX

/-! ## Moving a counter on -/

def movedOn (s : Store) (q : Sequence) (R : Uuid) (G : Region) (now : Instant) : Store :=
  { s with counters := s.counters.map fun d =>
      if d.regimeId == R && d.region == G then d.advance q now else d }

end Store

theorem Counter.advance_key (c : Counter) (q : Sequence) (now : Instant) :
    (c.advance q now).regimeId = c.regimeId ∧ (c.advance q now).region = c.region := by
  cases q <;> exact ⟨rfl, rfl⟩

theorem Int64.toInt_add_one_of_ne {x : Int64} (h : x ≠ Int64.maxValue) :
    (x + 1).toInt = x.toInt + 1 := by
  have hle := x.toInt_le
  have hge := x.le_toInt
  have hne : x.toInt ≠ Int64.maxValue.toInt := fun e => h (Int64.toInt_inj.1 e)
  have hmax : Int64.maxValue.toInt = 2 ^ 63 - 1 := by decide
  rw [Int64.toInt_add, Int64.toInt_one, Int.bmod_eq_of_le] <;> omega

theorem Int64.range'_succ {x : Int64} {a : Nat} (hx : (a : Int) ≤ x.toInt)
    (h : x ≠ Int64.maxValue) :
    List.range' a ((x + 1).toInt.toNat - a) = List.range' a (x.toInt.toNat - a) ++ [x.toInt.toNat] := by
  have hsucc : (x + 1).toInt.toNat - a = (x.toInt.toNat - a) + 1 := by
    rw [Int64.toInt_add_one_of_ne h]
    omega
  rw [hsucc, List.range'_concat]
  congr 2
  omega

namespace Store

variable {s s₀ s' : Store} {R X : Uuid} {G : Region}

theorem next_spec (q : Sequence) (R : Uuid) (G : Region) (now : Instant) :
    Triple (· = s₀) (next q R G now)
      (fun n s => (s₀.counter? R G = none ∧ n = 0 ∧ s = s₀) ∨
        ∃ c, s₀.counter? R G = some c ∧ c.number q ≠ Int64.maxValue ∧ n = c.number q ∧
          s = s₀.movedOn q R G now)
      (· = s₀) := by
  unfold next
  refine Triple.get_bind ?_
  split
  · rename_i hnone
    exact Triple.pure fun _ e => Or.inl ⟨hnone, rfl, e⟩
  · rename_i c hc
    split
    · exact Triple.bind (Triple.throw fun _ e => e) fun _ => Triple.absurd _
    · rename_i hmax
      refine Triple.bind (Triple.modify (Q := fun _ s => s = s₀.movedOn q R G now)
        fun _ e => by rw [e]; rfl) fun _ => Triple.pure fun _ e => Or.inr ⟨c, hc, ?_, rfl, e⟩
      simpa using hmax

theorem nextNumber_spec (now : Instant) (ref : BillRunRef) (b : BillRun) (q : Sequence) :
    Triple (· = s₀) (BillRun.nextNumber now ref b q)
      (fun n s => ∃ c, s₀.counter? b.regimeId b.region = some c ∧
        c.number q ≠ Int64.maxValue ∧ n = c.number q ∧ s = s₀.movedOn q b.regimeId b.region now)
      (fun _ => True) := by
  refine Triple.bind ((next_spec q b.regimeId b.region now).mono (fun _ h => h) (fun _ _ h => h)
    fun _ _ => trivial) fun n => Triple.of_eq fun s h => ?_
  rcases h with ⟨-, rfl, -⟩ | hsome
  · exact Triple.require_bind (fun _ _ _ => trivial) fun h0 => absurd h0 (by decide)
  · exact Triple.require_bind (fun _ _ _ => trivial) fun _ => Triple.pure fun _ e => e ▸ hsome

theorem Handed.eq_of_key (h : s.Handed) {c d : Counter} (hc : c ∈ s.counters)
    (hd : d ∈ s.counters) (e : (d.regimeId, d.region) = (c.regimeId, c.region)) : d = c :=
  List.inj_on_of_nodup_map h.keys hd hc e

theorem Handed.counter_of_mem (h : s.Handed) {b : BillRun} (hb : b ∈ s.billRuns) :
    ∃ c ∈ s.counters, s.counter? b.regimeId b.region = some c ∧ c.regimeId = b.regimeId ∧
      c.region = b.region := by
  obtain ⟨c, hc, hR, hG⟩ := h.counted b hb
  have hsome : (s.counter? b.regimeId b.region).isSome :=
    List.find?_isSome.2 ⟨c, hc, by simp [hR, hG]⟩
  obtain ⟨c', hc'⟩ := Option.isSome_iff_exists.1 hsome
  have hkey := List.find?_some hc'
  simp only [Bool.and_eq_true, beq_iff_eq] at hkey
  exact ⟨c', List.mem_of_find?_eq_some hc', hc', hkey⟩

theorem Handed.moveOn (h : s.Handed) {c : Counter} (hc : c ∈ s.counters) (φ : Counter → Counter)
    (hφ : ∀ d, (d.regimeId, d.region) ≠ (c.regimeId, c.region) → φ d = d)
    (hkey : (φ c).regimeId = c.regimeId ∧ (φ c).region = c.region)
    (hfloor : 1 ≤ (φ c).transactionNumber.toInt ∧ 10000 ≤ (φ c).billRunNumber.toInt ∧
      50000 ≤ (φ c).fileNumber.toInt)
    (hcs : s'.counters = s.counters.map φ)
    (hplaces : ∀ b ∈ s'.billRuns, ∃ b₀ ∈ s.billRuns, b₀.regimeId = b.regimeId ∧ b₀.region = b.region)
    (hothers : ∀ d ∈ s.counters, (d.regimeId, d.region) ≠ (c.regimeId, c.region) → s'.HandedOut d)
    (hmine : s'.HandedOut (φ c)) : s'.Handed := by
  -- every counter of `s'` is a counter of `s` moved on, or left, according to its key
  have hcases : ∀ d ∈ s.counters, ((d.regimeId, d.region) ≠ (c.regimeId, c.region) ∧ φ d = d) ∨
      d = c := fun d hd => by
    by_cases e : (d.regimeId, d.region) = (c.regimeId, c.region)
    · exact Or.inr (h.eq_of_key hc hd e)
    · exact Or.inl ⟨e, hφ d e⟩
  have hkeys : ∀ d ∈ s.counters, ((φ d).regimeId, (φ d).region) = (d.regimeId, d.region) :=
    fun d hd => by
      rcases hcases d hd with ⟨-, e⟩ | rfl
      · rw [e]
      · rw [hkey.1, hkey.2]
  refine ⟨?keys, ?counted, ?floors, ?handedOut⟩
  case keys =>
    rw [hcs, List.map_map, List.map_congr_left (g := fun d => (d.regimeId, d.region)) hkeys]
    exact h.keys
  case counted =>
    intro b hb
    obtain ⟨b₀, hb₀, hR, hG⟩ := hplaces b hb
    obtain ⟨d, hd, hdR, hdG⟩ := h.counted b₀ hb₀
    have e := hkeys d hd
    simp only [Prod.mk.injEq] at e
    exact ⟨φ d, by rw [hcs]; exact List.mem_map_of_mem hd, by rw [e.1, hdR, hR], by rw [e.2, hdG, hG]⟩
  case floors =>
    intro d' hd'
    rw [hcs] at hd'
    obtain ⟨d, hd, rfl⟩ := List.mem_map.1 hd'
    rcases hcases d hd with ⟨-, e⟩ | rfl
    · rw [e]
      exact h.floors d hd
    · exact hfloor
  case handedOut =>
    intro d' hd'
    rw [hcs] at hd'
    obtain ⟨d, hd, rfl⟩ := List.mem_map.1 hd'
    rcases hcases d hd with ⟨hne, e⟩ | rfl
    · rw [e]
      exact hothers d hd hne
    · exact hmine

theorem isIn_of_row (hids : (s.billRuns.map (·.id)).Nodup) {b : BillRun} (hb : b ∈ s.billRuns)
    (R : Uuid) (G : Region) : s.isIn R G b.id = (b.regimeId == R && b.region == G) := by
  cases e : (b.regimeId == R && b.region == G)
  · refine List.any_eq_false.2 fun b' hb' hb'' => ?_
    simp only [Bool.and_eq_true, beq_iff_eq] at hb''
    rw [List.inj_on_of_nodup_map hids hb' hb hb''.1.1] at hb''
    simp [hb''.1.2, hb''.2] at e
  · exact List.any_eq_true.2 ⟨b, hb, by simpa [Bool.and_assoc] using e⟩

theorem place_ne_of_key {b : BillRun} {c d : Counter}
    (hkey : c.regimeId = b.regimeId ∧ c.region = b.region)
    (hne : (d.regimeId, d.region) ≠ (c.regimeId, c.region)) :
    (b.regimeId == d.regimeId && b.region == d.region) = false := by
  cases e : (b.regimeId == d.regimeId && b.region == d.region)
  · rfl
  · simp only [Bool.and_eq_true, beq_iff_eq] at e
    exact absurd (by rw [← e.1, ← e.2, hkey.1, hkey.2]) hne

/-! ## Numbering a bill run -/

/-- Partway through numbering bill run `b` from `s₀`: the numbering holds, the bill runs are as
they were, and so are the invoices of other bill runs; invoice identifiers are distinct, and the
invoices still to number are there without a reference. -/
structure Midway (b : BillRun) (s₀ : Store) (todo : List Invoice) (s : Store) : Prop where
  handed : s.Handed
  billRuns : s.billRuns = s₀.billRuns
  others : ∀ j ∈ s.invoices, j.billRunId ≠ b.id → j ∈ s₀.invoices
  ids : (s.invoices.map (·.id)).Nodup
  waiting : ∀ i ∈ todo, ∃ j ∈ s.invoices, j.id = i.id ∧ j.billRunId = b.id ∧
    j.transactionReference = none
  distinct : (todo.map (·.id)).Nodup

theorem Midway.number {b : BillRun} (hb : b ∈ s₀.billRuns) (hids : (s₀.billRuns.map (·.id)).Nodup)
    (now : Instant) (ref : BillRunRef) (inv : Invoice) (rest : List Invoice) :
    Triple (Midway b s₀ (inv :: rest))
      (do
        let n ← BillRun.nextNumber now ref b .transaction
        setReference inv.id (BillRun.transactionReference b.region inv n) now)
      (fun _ => Midway b s₀ rest) (fun _ => True) := by
  refine Triple.of_eq fun s hm => Triple.bind (nextNumber_spec now ref b .transaction) fun n =>
    Triple.of_eq fun s₁ h₁ => ?_
  obtain ⟨c, hc, hmax, rfl, rfl⟩ := h₁
  refine Triple.modify fun _ e => ?_
  rw [e]
  have hcmem := List.mem_of_find?_eq_some hc
  have hckey := List.find?_some hc
  simp only [Bool.and_eq_true, beq_iff_eq] at hckey
  obtain ⟨j, hj, hjid, hjb, hjref⟩ := hm.waiting inv List.mem_cons_self
  have hbs : b ∈ s.billRuns := by rw [hm.billRuns]; exact hb
  have hids' : (s.billRuns.map (·.id)).Nodup := by rw [hm.billRuns]; exact hids
  generalize hr : BillRun.transactionReference b.region inv (c.number .transaction) = r
  generalize hg : (fun i : Invoice => { i with transactionReference := some r, updatedAt := now }) = g
  have hgid : ∀ i, (g i).id = i.id ∧ (g i).billRunId = i.billRunId := by
    subst hg
    exact fun _ => ⟨rfl, rfl⟩
  have hgref : ∀ i, (g i).transactionReference = some r := by
    subst hg
    exact fun _ => rfl
  have hrefs : ∀ R' G', (((s.movedOn .transaction b.regimeId b.region now).mapInvoice inv.id g).references
      R' G').Perm (s.references R' G' ++
        if (b.regimeId == R' && b.region == G') then [r] else []) := fun R' G' => by
    have hup := perm_filterMap_update (p := fun i => s.isIn R' G' i.billRunId)
      (v := Invoice.transactionReference) hm.ids hj hjid (congrArg (s.isIn R' G') (hgid j).2) hjref
    rw [hjb, hgref j, isIn_of_row hids' hbs] at hup
    exact hup
  have hfloor := hm.handed.floors c hcmem
  have htn : (c.transactionNumber + 1).toInt = c.transactionNumber.toInt + 1 :=
    Int64.toInt_add_one_of_ne hmax
  refine ⟨?handed, hm.billRuns, ?others, ?ids, ?waiting, (List.nodup_cons.1 hm.distinct).2⟩
  case handed =>
    have hmine := hm.handed.handedOut c hcmem
    refine hm.handed.moveOn hcmem _ (fun d hd => if_neg fun e' => hd ?_) ?key ?floor rfl
      (fun b' hb' => ⟨b', hb', rfl, rfl⟩) (fun d hd hne => ?_) ?mine
    · simp only [Bool.and_eq_true, beq_iff_eq] at e'
      rw [e'.1, e'.2, hckey.1, hckey.2]
    case key =>
      rw [if_pos (by simp [hckey.1, hckey.2])]
      exact Counter.advance_key c _ now
    case floor =>
      rw [if_pos (by simp [hckey.1, hckey.2])]
      exact ⟨by show 1 ≤ (c.transactionNumber + 1).toInt; omega, hfloor.2⟩
    · -- another counter's view gains nothing
      have hr' := hrefs d.regimeId d.region
      rw [place_ne_of_key hckey hne, if_neg Bool.false_ne_true, List.append_nil] at hr'
      exact (hm.handed.handedOut d hd).of_perm hr' (List.Perm.refl _) (List.Perm.refl _)
    case mine =>
      rw [if_pos (by simp [hckey.1, hckey.2])]
      obtain ⟨letter, hletter, hperm⟩ := hmine.references
      refine ⟨⟨fun n => if n = c.transactionNumber.toInt.toNat then
          (if inv.tally.net < 0 then "C" else "I") else letter n, fun n => ?_, ?_⟩,
        hmine.billRunNumbers, hmine.fileReferences⟩
      · dsimp only
        by_cases hn : n = c.transactionNumber.toInt.toNat
        · rw [if_pos hn]
          split
          · exact Or.inr rfl
          · exact Or.inl rfl
        · rw [if_neg hn]
          exact hletter n
      · have hr' := hrefs c.regimeId c.region
        rw [if_pos (by simp [hckey.1, hckey.2])] at hr'
        show (_ : List String).Perm ((List.range' 1 ((c.transactionNumber + 1).toInt.toNat - 1)).map _)
        rw [Int64.range'_succ (x := c.transactionNumber) (a := 1) (by simpa using hfloor.1) hmax,
          List.map_append]
        refine hr'.trans (List.Perm.append ?_ (List.Perm.of_eq ?_))
        · -- the numbers handed out before keep their letters
          refine hperm.trans (List.Perm.of_eq (List.map_congr_left fun n hn => ?_))
          have : n < c.transactionNumber.toInt.toNat := by
            rw [List.mem_range'_1] at hn
            omega
          simp only [Counter.advance, if_neg (Nat.ne_of_lt this)]
        · -- the new reference is that of the number handed out
          simp only [← hr, List.map_singleton, Counter.advance, ↓reduceIte, hckey.2,
            BillRun.transactionReference, Counter.number]
          rw [Int.toNat_of_nonneg (by omega)]
  case others =>
    intro j' hj' hne
    obtain ⟨i, hi, rfl⟩ := List.mem_map.1 hj'
    by_cases hii : i.id = inv.id
    · -- the invoice numbered is the one of `b` under that identifier
      have hij : i = j := List.inj_on_of_nodup_map hm.ids hi hj (hii.trans hjid.symm)
      subst hij
      simp only [hii, beq_self_eq_true, if_true, (hgid i).2] at hne
      exact absurd hjb hne
    · simp only [hii, beq_iff_eq, if_false] at hne ⊢
      exact hm.others i hi hne
  case ids =>
    show ((s.invoices.map fun i => if i.id == inv.id then g i else i).map (·.id)).Nodup
    rw [List.map_map]
    refine (List.map_congr_left fun i _ => ?_ : _ = s.invoices.map (·.id)) ▸ hm.ids
    simp only [Function.comp_apply]
    split
    · exact (hgid i).1
    · rfl
  case waiting =>
    intro i hi
    obtain ⟨j', hj', hid, hjb', hjref'⟩ := hm.waiting i (List.mem_cons_of_mem _ hi)
    have hne : j'.id ≠ inv.id := fun e' => (List.nodup_cons.1 hm.distinct).1 (by
      simp only [List.mem_map]
      exact ⟨i, hi, hid.symm.trans e'⟩)
    refine ⟨j', List.mem_map.2 ⟨j', hj', by simp [hne]⟩, hid, hjb', hjref'⟩

theorem Midway.assigned {b : BillRun} (hm : Midway b s₀ [] s) (hb : b ∈ s₀.billRuns)
    (hids : (s₀.billRuns.map (·.id)).Nodup) (hblank : b.numbers = (none, none)) (hu : s₀.Unsent)
    {c c' : Counter} (hc : c ∈ s.counters) (hkey : c.regimeId = b.regimeId ∧ c.region = b.region)
    (hmax : c.billRunNumber ≠ Int64.maxValue) {file : Option String}
    (hfile : (file = none ∧ c'.fileNumber = c.fileNumber) ∨ (c.fileNumber ≠ Int64.maxValue ∧
      file = some (TransactionFile.reference b.region.name c.fileNumber.toInt) ∧
      c'.fileNumber = c.fileNumber + 1))
    (hc' : c'.regimeId = c.regimeId ∧ c'.region = c.region ∧
      c'.transactionNumber = c.transactionNumber ∧ c'.billRunNumber = c.billRunNumber + 1)
    (φ : Counter → Counter) (hφ : ∀ d, (d.regimeId, d.region) ≠ (c.regimeId, c.region) → φ d = d)
    (hφc : φ c = c') (hcs : s'.counters = s.counters.map φ) (hbr : s'.billRuns = s.billRuns)
    (hinv : s'.invoices = s.invoices) (f : BillRun → BillRun)
    (hf : ∀ x, (f x).place = x.place ∧ (f x).billRunNumber = some c.billRunNumber ∧
      (f x).fileReference = file ∧ (f x).status = .pending) :
    (s'.mapBillRun b.id f).Handed ∧ (s'.mapBillRun b.id f).Unsent := by
  have hbs : b ∈ s'.billRuns := by rw [hbr, hm.billRuns]; exact hb
  have hids' : (s'.billRuns.map (·.id)).Nodup := by rw [hbr, hm.billRuns]; exact hids
  have hfloor := hm.handed.floors c hc
  have hmine := hm.handed.handedOut c hc
  have hsame : ∀ R' G', s'.billRunsIn R' G' = s.billRunsIn R' G' := fun R' G' => by
    simp only [billRunsIn, hbr]
  have hrefs : ∀ R' G', (s'.mapBillRun b.id f).references R' G' = s.references R' G' :=
    fun R' G' => by
      rw [references_mapBillRun fun x => (hf x).1]
      simp only [references, isIn, hinv, hbr]
  have hview : ∀ {β : Type} (v : BillRun → Option β), v b = none → ∀ R' G',
      (((s'.mapBillRun b.id f).billRunsIn R' G').filterMap v).Perm
        (((s.billRunsIn R' G').filterMap v) ++
          if (b.regimeId == R' && b.region == G') then (v (f b)).toList else []) := by
    intro β v hv R' G'
    have hup := perm_filterMap_update (k := BillRun.id) (X := b.id) (f := f)
      (p := fun x => x.regimeId == R' && x.region == G') (v := v) hids' hbs rfl (by
        obtain ⟨-, hR, hG, -⟩ := BillRun.place_eq (hf b).1
        simp only [hR, hG]) hv
    rw [← hsame]
    exact hup
  have hnum : b.billRunNumber = none ∧ b.fileReference = none := by
    simpa [BillRun.numbers] using hblank
  refine ⟨hm.handed.moveOn hc φ hφ (by rw [hφc]; exact ⟨hc'.1, hc'.2.1⟩) ?floor hcs ?places
    ?others ?mine, ?unsent⟩
  case floor =>
    rw [hφc, hc'.2.2.1, hc'.2.2.2, Int64.toInt_add_one_of_ne hmax]
    refine ⟨hfloor.1, by omega, ?_⟩
    rcases hfile with ⟨-, e⟩ | ⟨hfmax, -, e⟩
    · rw [e]
      exact hfloor.2.2
    · rw [e, Int64.toInt_add_one_of_ne hfmax]
      omega
  case places =>
    intro x hx
    obtain ⟨y, hy, e⟩ := mem_mapBillRun hx
    refine ⟨y, by rw [← hbr]; exact hy, ?_⟩
    rcases e with rfl | rfl
    · obtain ⟨-, hR, hG, -⟩ := BillRun.place_eq (hf y).1
      exact ⟨hR.symm, hG.symm⟩
    · exact ⟨rfl, rfl⟩
  case others =>
    intro d hd hne
    have hb' := hview _ hnum.1 d.regimeId d.region
    have hf' := hview _ hnum.2 d.regimeId d.region
    rw [place_ne_of_key hkey hne, if_neg Bool.false_ne_true, List.append_nil] at hb' hf'
    exact (hm.handed.handedOut d hd).of_perm (List.Perm.of_eq (hrefs _ _)) hb' hf'
  case mine =>
    rw [hφc]
    obtain ⟨letter, hletter, hperm⟩ := hmine.references
    have hin : (b.regimeId == c.regimeId && b.region == c.region) = true := by
      simp [hkey.1, hkey.2]
    have hb' := hview _ hnum.1 c.regimeId c.region
    have hf' := hview _ hnum.2 c.regimeId c.region
    rw [hin, if_pos rfl, (hf b).2.1] at hb'
    rw [hin, if_pos rfl, (hf b).2.2.1] at hf'
    obtain ⟨hR', hG', htn', hbn'⟩ := hc'
    refine ⟨⟨letter, hletter, ?_⟩, ?_, ?_⟩
    · rw [hR', hG', htn', hrefs]
      exact hperm
    · -- one more bill run number, the one handed out
      rw [hR', hG', hbn', Int64.range'_succ (a := 10000) (by simpa using hfloor.2.1) hmax]
      refine (hb'.map _).trans ?_
      rw [List.map_append]
      exact hmine.billRunNumbers.append (List.Perm.refl _)
    · -- one more file reference when the bill run bills an invoice
      rw [hR', hG']
      rcases hfile with ⟨e, e'⟩ | ⟨hfmax, e, e'⟩
      · rw [e']
        rw [e, Option.toList_none, List.append_nil] at hf'
        exact hf'.trans hmine.fileReferences
      · rw [e']
        rw [e] at hf'
        rw [Int64.range'_succ (a := 50000) (by simpa using hfloor.2.2) hfmax, List.map_append]
        refine hf'.trans (hmine.fileReferences.append (List.Perm.of_eq ?_))
        rw [List.map_singleton, hkey.2, Int.toNat_of_nonneg (by omega)]
        rfl
  case unsent =>
    intro x hx hsent
    obtain ⟨y, hy, rfl⟩ := List.mem_map.1 hx
    by_cases hyb : y.id = b.id
    · simp [hyb, (hf y).2.2.2, Status.sent] at hsent
    · -- another bill run: its rows are those it had
      simp only [hyb, beq_iff_eq, if_false] at hsent ⊢
      have hy₀ : y ∈ s₀.billRuns := by rw [← hm.billRuns, ← hbr]; exact hy
      have h₀ := hu y hy₀ hsent
      refine ⟨fun z hz hzid => ?_, fun i hi hiid => ?_⟩
      · obtain ⟨w, hw, rfl⟩ := List.mem_map.1 hz
        by_cases hwb : w.id = b.id
        · rw [if_pos (by simpa using hwb), (BillRun.place_eq (hf w).1).1, hwb] at hzid
          exact absurd hzid.symm hyb
        · rw [if_neg (by simpa using hwb)] at hzid ⊢
          exact h₀.1 w (by rw [← hm.billRuns, ← hbr]; exact hw) hzid
      · rw [show (s'.mapBillRun b.id f).invoices = s.invoices from hinv] at hi
        exact h₀.2 i (hm.others i hi (by rw [hiid]; exact hyb)) hiid


theorem counter?_movedOn (q : Sequence) (now : Instant) :
    (s.movedOn q R G now).counter? R G = (s.counter? R G).map (·.advance q now) := by
  unfold counter? movedOn
  rw [List.find?_map]
  -- moving a counter on keeps its regime and region, which is all the search reads
  have hp : ((fun c : Counter => c.regimeId == R && c.region == G) ∘
      fun d => if d.regimeId == R && d.region == G then d.advance q now else d) =
      fun c => c.regimeId == R && c.region == G := by
    funext d
    simp only [Function.comp_apply]
    split
    · rw [(Counter.advance_key d q now).1, (Counter.advance_key d q now).2]
    · rfl
  rw [hp]
  cases h : s.counters.find? (fun c => c.regimeId == R && c.region == G) with
  | none => rfl
  | some c =>
    simp only [Option.map_some]
    rw [if_pos (List.find?_some h)]

/-- Numbering a bill run found approved, one without numbers yet, numbers it once: where it
returns the numbering holds again and only sent bill runs carry numbers. -/
theorem assignReferences_handed (now : Instant) (ref : BillRunRef) {b : BillRun}
    (h₀ : s₀.Handed) (hu : s₀.Unsent) (hs : s₀.Sound) (hb : b ∈ s₀.billRuns)
    (hblank : s₀.Unnumbered b.id) :
    Triple (· = s₀) (BillRun.assignReferences now ref b) (fun _ s => s.Handed ∧ s.Unsent)
      (fun _ => True) := by
  have hids : (s₀.billRuns.map (·.id)).Nodup := hs.billRuns_nodup
  have hnum : b.numbers = (none, none) := hblank.1 b hb rfl
  have hinvids := hs.invoiceIds_nodup
  unfold BillRun.assignReferences
  refine Triple.get_bind (Triple.bind ((Triple.forM (Midway b s₀) fun inv rest =>
    Midway.number hb hids now ref inv rest).mono ?start (fun _ _ h => h) fun _ h => h)
    fun _ => Triple.of_eq fun s hm => ?_)
  case start =>
    rintro s rfl
    refine ⟨h₀, rfl, fun j hj _ => hj, hinvids, fun i hi => ?_, ?_⟩
    · obtain ⟨hmem, hbr⟩ := mem_invoicesOf.1 (List.mem_filter.1 hi).1
      exact ⟨i, hmem, rfl, hbr, hblank.2 i hmem hbr⟩
    · refine List.Nodup.sublist (List.filter_sublist.map _) ?_
      exact ((sortBy_perm _ _).map _).nodup_iff.2 (hinvids.sublist (List.filter_sublist.map _))
  refine Triple.bind (nextNumber_spec now ref b .billRun) fun number => Triple.of_eq fun s₁ h₁ => ?_
  obtain ⟨c, hc, hmax, rfl, rfl⟩ := h₁
  have hcmem := List.mem_of_find?_eq_some hc
  have hkey : c.regimeId = b.regimeId ∧ c.region = b.region := by
    simpa using List.find?_some hc
  have hin : ∀ d : Counter, (d.regimeId == b.regimeId && d.region == b.region) = true ↔
      (d.regimeId, d.region) = (c.regimeId, c.region) := fun d => by
    simp [hkey.1, hkey.2]
  extract_lets assign
  have hassign : ∀ (file : Option String) (φ : Counter → Counter) (s' : Store),
      (∀ d, (d.regimeId, d.region) ≠ (c.regimeId, c.region) → φ d = d) →
      (φ c).regimeId = c.regimeId ∧ (φ c).region = c.region ∧
        (φ c).transactionNumber = c.transactionNumber ∧
        (φ c).billRunNumber = c.billRunNumber + 1 →
      ((file = none ∧ (φ c).fileNumber = c.fileNumber) ∨ (c.fileNumber ≠ Int64.maxValue ∧
        file = some (TransactionFile.reference b.region.name c.fileNumber.toInt) ∧
        (φ c).fileNumber = c.fileNumber + 1)) →
      s'.counters = s.counters.map φ → s'.billRuns = s.billRuns → s'.invoices = s.invoices →
      Triple (· = s') (assign file) (fun _ s => s.Handed ∧ s.Unsent) (fun _ => True) := by
    intro file φ s' hφ hc' hfile hcs hbr hinv
    refine Triple.bind (Triple.modifyGet (Q := fun ok s => ok = true → s.Handed ∧ s.Unsent)
      fun s'' e hok => ?_) fun ok => ?_
    · subst e
      rw [(guarded_true hok).1]
      exact Midway.assigned hm hb hids hnum hu hcmem hkey hmax hfile hc' φ hφ rfl hcs hbr hinv _
        fun _ => ⟨rfl, rfl, rfl, rfl⟩
    · cases ok
      · exact (conflict_fails _ _).mono (fun _ _ => trivial) (fun _ _ h => h.elim) fun _ _ => trivial
      · exact Triple.pure fun _ h => h rfl
  split
  · -- nothing billed: no file, and the counter moves on by the bill run number alone
    refine Triple.bind (Triple.pure (Q := fun file s' => file = none ∧
      s' = s.movedOn .billRun b.regimeId b.region now) fun _ e => ⟨rfl, e⟩)
      fun file => Triple.of_eq fun s' h => ?_
    obtain ⟨rfl, rfl⟩ := h
    refine hassign none _ _ (fun d hd => ?_) ?_ (Or.inl ⟨rfl, ?_⟩) rfl rfl rfl
    · rw [if_neg fun h => hd ((hin d).1 h)]
    · rw [if_pos ((hin c).2 rfl)]
      exact ⟨rfl, rfl, rfl, rfl⟩
    · rw [if_pos ((hin c).2 rfl)]
      rfl
  · -- the file takes the next file number of the same counter
    refine Triple.bind ((next_spec .file b.regimeId b.region now).mono (fun _ h => h)
      (fun _ _ h => h) fun _ _ => trivial) fun f => Triple.of_eq fun s₂ h₂ => ?_
    rw [counter?_movedOn, hc] at h₂
    rcases h₂ with ⟨h0, -, -⟩ | ⟨c₂, hc₂, hmax₂, rfl, rfl⟩
    · exact absurd h0 (Option.some_ne_none _)
    obtain rfl := Option.some.inj hc₂
    refine Triple.bind (Triple.pure (Q := fun file s' =>
      file = some (TransactionFile.reference b.region.name c.fileNumber.toInt) ∧
      s' = (s.movedOn .billRun b.regimeId b.region now).movedOn .file b.regimeId b.region now)
      fun _ e => ⟨rfl, e⟩) fun file => Triple.of_eq fun s' h => ?_
    obtain ⟨rfl, rfl⟩ := h
    refine hassign _
      (fun d => if d.regimeId == b.regimeId && d.region == b.region then
        (d.advance .billRun now).advance .file now else d) _ (fun d hd => ?_) ?_
      (Or.inr ⟨hmax₂, rfl, ?_⟩) ?_ rfl rfl
    · rw [if_neg fun h => hd ((hin d).1 h)]
    · rw [if_pos ((hin c).2 rfl)]
      exact ⟨rfl, rfl, rfl, rfl⟩
    · rw [if_pos ((hin c).2 rfl)]
      rfl
    · simp only [movedOn, List.map_map]
      refine List.map_congr_left fun d _ => ?_
      simp only [Function.comp_apply]
      split
      · rename_i h
        rw [if_pos (by rw [(Counter.advance_key d _ now).1, (Counter.advance_key d _ now).2]; exact h)]
      · rfl

end Store

end ChargeLedger
