import ChargeLedger.Proofs.Numbering

/-!
# Every run hands its numbers out once

Sending, with its transmission, numbers the bill run it names once and then only moves it on
through sent statuses (`send_run_handed`). Every other request leaves each bill run's rows as they
were or without numbers, and the counters as they were (`step_sameNumbers`). So every reachable
ledger has handed out its numbers once (`Reachable.handed`).

No request touches the regimes or the regime and region a counter is of, so every regime of a
reachable ledger keeps a counter in every region (`Reachable.stocked`). The written forms of the
numbers tell them apart, so no two invoices of a regime share a transaction reference and no two
bill runs of a regime and region share a bill run number or a file reference
(`Reachable.numbers_handed_out_once`).
-/

set_option autoImplicit false

namespace ChargeLedger

open Op Store

/-! ## Reading a number back from its written form -/

namespace TransactionFile

theorem ofDigitChars_padded (w k : Nat) : Nat.ofDigitChars 10 (padded w k).toList 0 = k := by
  have hpos : ¬ ((k : Int) < 0) := by omega
  simp only [padded, hpos, if_false, Int.natAbs_natCast, String.toList_append,
    String.toList_ofList, Nat.toString_eq_repr, Nat.toList_repr]
  rw [Nat.ofDigitChars_append, Nat.ofDigitChars_replicate_zero, Nat.mul_zero,
    Nat.ofDigitChars_ten_toDigits]

theorem padded_inj {w a b : Nat} (h : padded w a = padded w b) : a = b := by
  rw [← ofDigitChars_padded w a, ← ofDigitChars_padded w b, h]

theorem reference_inj {region : String} {a b : Nat}
    (h : reference region a = reference region b) : a = b := by
  have e := congrArg String.toList h
  simp only [reference, String.toList_append, List.append_assoc] at e
  exact padded_inj (String.toList_inj.1 (List.append_cancel_left (List.append_cancel_left
    (List.append_cancel_left e))))

end TransactionFile

theorem Region.name_length (G : Region) : G.name.toList.length = 1 := by
  cases G <;> decide

theorem transactionReference_inj {G G' : Region} {l l' : String} {a b : Nat}
    (hl : l = "I" ∨ l = "C") (hl' : l' = "I" ∨ l' = "C")
    (h : G.name ++ l ++ TransactionFile.padded 7 a ++ "T" =
      G'.name ++ l' ++ TransactionFile.padded 7 b ++ "T") : G = G' ∧ a = b := by
  have hone : ∀ m : String, m.toList.length = 1 → ∃ d, m.toList = [d] := fun m hm =>
    List.length_eq_one_iff.1 hm
  have hletter : ∀ m : String, m = "I" ∨ m = "C" → m.toList.length = 1 := fun m hm => by
    rcases hm with rfl | rfl <;> decide
  obtain ⟨c, hc⟩ := hone _ (Region.name_length G)
  obtain ⟨c', hc'⟩ := hone _ (Region.name_length G')
  obtain ⟨d, hd⟩ := hone l (hletter l hl)
  obtain ⟨d', hd'⟩ := hone l' (hletter l' hl')
  have e := congrArg String.toList h
  simp only [String.toList_append, hc, hc', hd, hd', List.cons_append, List.nil_append,
    List.cons.injEq] at e
  obtain ⟨rfl, -, e⟩ := e
  have hG : G.name = G'.name := String.toList_inj.1 (hc.trans hc'.symm)
  refine ⟨Option.some.inj ((Region.ofName?_name G).symm.trans (hG ▸ Region.ofName?_name G')), ?_⟩
  exact TransactionFile.padded_inj (String.toList_inj.1 (List.append_cancel_right e))

theorem eq_of_filterMap_nodup {α β : Type} {l : List α} {f : α → Option β}
    (h : (l.filterMap f).Nodup) {a b : α} (ha : a ∈ l) (hb : b ∈ l) {x : β}
    (hfa : f a = some x) (hfb : f b = some x) : a = b := by
  induction l with
  | nil => cases ha
  | cons c l ih =>
    have hnot : ∀ y ∈ l, f c = some x → f y = some x → False := fun y hy hc hy' => by
      rw [List.filterMap_cons, hc] at h
      exact (List.nodup_cons.1 h).1 (List.mem_filterMap.2 ⟨y, hy, hy'⟩)
    have ht : (l.filterMap f).Nodup := by
      rw [List.filterMap_cons] at h
      cases hfc : f c <;> simp only [hfc] at h
      · exact h
      · exact (List.nodup_cons.1 h).2
    rcases List.mem_cons.1 ha with rfl | ha'
    · rcases List.mem_cons.1 hb with rfl | hb'
      · rfl
      · exact (hnot b hb' hfa hfb).elim
    · rcases List.mem_cons.1 hb with rfl | hb'
      · exact (hnot a ha' hfb hfa).elim
      · exact ih ht ha' hb'

/-! ## Numbers only on sent bill runs -/

namespace Store

variable {s₀ s : Store} {X B : Uuid}

theorem Unsent.guarded (hs : s.Sound) (h : s.Unsent) {allowed : List Status}
    {f : BillRun → BillRun} (hf : ∀ b, (f b).place = b.place ∧ (f b).numbers = b.numbers)
    (hsent : ∀ b, allowed.contains b.status = true → (f b).status.sent = false →
      b.status.sent = false) :
    (s.guarded X allowed f).2.Unsent := by
  cases hg : (s.guarded X allowed f).1
  · rw [guarded_false hg]
    exact h
  · obtain ⟨b₀, hb₀, hok⟩ := guarded_found hg
    rw [(guarded_true hg).1]
    have hkeep : ∀ y ∈ s.billRuns, y.status.sent = false → (s.mapBillRun X f).Unnumbered y.id :=
      fun y hy hu => (Unnumbering.unnumbered y.id).rewrites.mapBillRun s X f hf (h y hy hu)
    intro x hx hx'
    obtain ⟨y, hy, rfl⟩ := List.mem_map.1 hx
    by_cases hyX : y.id = X
    · -- the row written is the one the guard found
      have hyb : y = b₀ := Option.some.inj ((hs.billRun?_of_mem hy).symm.trans
        (by rw [hyX]; exact hb₀))
      rw [if_pos (by simpa using hyX)] at hx' ⊢
      rw [(BillRun.place_eq (hf y).1).1]
      exact hkeep y hy (hsent y (by rw [hyb]; exact hok) hx')
    · rw [if_neg (by simpa using hyX)] at hx' ⊢
      exact hkeep y hy hx'

theorem Unsent.transition (now : Instant) (X : Uuid) (source target : Status)
    (ht : target.sent = true) :
    Keeps (fun s => s.Coherent ∧ s.Unsent) (BillRun.transition now X source target) := by
  refine .bind (.modifyGet fun s h => ⟨⟨Coherent.inPlace.guarded h.1 fun _ => rfl,
    h.2.guarded h.1.1.sound (fun _ => ⟨rfl, rfl⟩) fun _ _ e => by simp [ht] at e⟩,
    Nat.le_of_eq guarded_issued.symm⟩) fun ok => ?_
  cases ok
  · exact conflict_keeps _ _
  · exact .pure ()

theorem Unsent.transmit (env : Env) (ref : BillRunRef) :
    Keeps (fun s => s.Coherent ∧ s.Unsent) (BillRun.transmit env ref) := by
  refine .bind (Unsent.transition _ _ _ _ rfl) fun _ => .bind (billRunOf_keeps ref) fun b => ?_
  split
  · exact .bind (Unsent.transition _ _ _ _ rfl) fun _ => .pure _
  · refine .bind .get fun _ => ?_
    split
    split
    · exact .throw _
    · exact .bind (Unsent.transition _ _ _ _ rfl) fun _ => .pure _

theorem Unsent.sent_of_numbered (hs : s.Sound) (hu : s.Unsent) (hB : ¬ s.Unnumbered B) :
    ∃ a, s.statusOf B = some a ∧ a.sent = true := by
  cases hb : s.billRun? B with
  | none =>
    refine absurd ⟨fun b hb' e => ?_, fun i hi e => ?_⟩ hB
    · rw [← e, hs.billRun?_of_mem hb'] at hb
      cases hb
    · obtain ⟨b, hb', e'⟩ := List.mem_map.1
        (hs.invoice_parent (i.id, i.billRunId) (List.mem_map_of_mem hi))
      rw [← e, ← show b.id = i.billRunId from e', hs.billRun?_of_mem hb'] at hb
      cases hb
  | some b =>
    have hbid := id_of_billRun? hb
    cases hsent : b.status.sent
    · exact absurd (by rw [← hbid]; exact hu b (List.mem_of_find?_eq_some hb) hsent) hB
    · exact ⟨b.status, by rw [statusOf, hb, Option.map_some], hsent⟩

end Store

/-! ## One request -/

section Step

variable {s₀ : Store} (env : Env)

theorem step_keeps_sent (hc : s₀.Consistent) (r : Request) {X : Uuid} {a : Status}
    (hX : s₀.statusOf X = some a) (ha : a.sent = true) : (r.step env s₀).part X = s₀.part X := by
  -- recovery is about no bill run, so it is taken apart first
  by_cases hrec : ∃ threshold batch, r = .recover threshold batch
  · obtain ⟨threshold, batch, rfl⟩ := hrec
    exact Request.step_of env _ (recover_run_keeps env threshold batch hX fun e => by
      subst e
      exact absurd ha (by decide))
  by_cases hXt : X = r.target s₀
  · subst hXt
    exact Request.step_of env r (run_on_sent env hc r hX ha)
  · exact ((step_within env r hc fun t b e => absurd ⟨t, b, e⟩ hrec).2 X hXt).symm

/-- A request other than a send, with its work, leaves each bill run's rows as they were, or
without numbers before and after. -/
theorem step_sameNumbers (hc : s₀.Consistent) (hu : s₀.Unsent) (r : Request)
    (hr : ∀ slug X, r ≠ .send slug X) (B : Uuid) : SameNumbers B s₀ (r.step env s₀) := by
  by_cases hB : s₀.Unnumbered B
  · exact Or.inr ⟨hB, Request.step_of env r ((Unnumbering.unnumbered B).run env hB r hr)⟩
  · obtain ⟨a, hX, ha⟩ := hu.sent_of_numbered hc.sound hB
    exact Or.inl (step_keeps_sent env hc r hX ha)

theorem send_handed (now : Instant) (ref : BillRunRef) (h₀ : s₀.Handed) (hu : s₀.Unsent)
    (hs : s₀.Sound) :
    Triple (· = s₀) (BillRun.send now ref)
      (fun task s => task = .transmit ref ∧ s.Handed ∧ s.Unsent) (fun s => s.Handed ∧ s.Unsent) := by
  refine Triple.bind ((billRunOf_found ref).mono (fun _ h => h) (fun _ _ h => h)
    fun _ e => by rw [e]; exact ⟨h₀, hu⟩) fun b => Triple.of_eq fun s h => ?_
  obtain ⟨e, hb⟩ := h
  subst s
  have hbm := List.mem_of_find?_eq_some hb
  refine Triple.require_bind (fun _ _ e => by rw [e]; exact ⟨h₀, hu⟩) fun happ => ?_
  have hblank : s₀.Unnumbered b.id := hu b hbm (by rw [eq_of_beq happ]; rfl)
  refine Triple.bind (Triple.atomically fun s₁ e => ?_) fun _ => Triple.pure fun _ h => ⟨rfl, h⟩
  subst s₁
  exact (assignReferences_handed now ref h₀ hu hs hbm hblank).mono (fun _ h => h)
    (fun _ _ h => h) fun _ _ => ⟨h₀.congr rfl rfl rfl, hu⟩

/-- A send request, with its transmission, numbers the bill run it names once, or leaves the
numbering as it was. -/
theorem send_run_handed (hcoh : s₀.Coherent) (h₀ : s₀.Handed) (hu : s₀.Unsent) (slug : String)
    (X : Uuid) :
    Triple (· = s₀) ((Request.send slug X).run env)
      (Request.Finishes env fun s => s.Handed ∧ s.Unsent) (fun s => s.Handed ∧ s.Unsent) := by
  refine answered_work env slug X ⟨h₀, hu⟩ fun ref _ => ?_
  refine ((send_handed env.now ref h₀ hu hcoh.1.sound).conj
    (InPlace.send Coherent.inPlace env.now ref).triple).mono (fun _ e => ⟨e, by rw [e]; exact hcoh⟩)
    (fun task s h => ?_) fun _ h => h.1
  obtain ⟨⟨rfl, hh, hsu⟩, hcs⟩ := h
  exact ((Unsent.transmit env ref).and (Handed.rewrites.transmit env ref)).triple.mono
    (fun _ e => by rw [e]; exact ⟨⟨hcs, hsu⟩, hh⟩) (fun _ _ h => ⟨h.2, h.1.2⟩) fun _ h => ⟨h.2, h.1.2⟩

theorem step_handed (hc : s₀.Consistent) (hcoh : s₀.Coherent) (h₀ : s₀.Handed) (hu : s₀.Unsent)
    (r : Request) : (r.step env s₀).Handed ∧ (r.step env s₀).Unsent := by
  by_cases hsend : ∃ slug X, r = .send slug X
  · obtain ⟨slug, X, rfl⟩ := hsend
    exact Request.step_of env _ (send_run_handed env hcoh h₀ hu slug X)
  have hr : ∀ slug X, r ≠ .send slug X := fun slug X e => hsend ⟨slug, X, e⟩
  have hunsent : (r.step env s₀).Unsent :=
    hu.of_parts fun B => (step_sameNumbers env hc hu r hr B).imp id (·.2)
  refine ⟨?_, hunsent⟩
  by_cases hrec : ∃ threshold batch, r = .recover threshold batch
  · -- recovery only moves statuses
    obtain ⟨threshold, batch, rfl⟩ := hrec
    exact Request.step_of env _ (Triple.bind ((Handed.rewrites.recover env.now threshold
      batch).triple.mono (fun _ e => by rw [e]; exact h₀) (fun _ _ h => h) fun _ h => h)
      fun _ => Triple.pure fun _ h => h)
  · have hcounters : (r.step env s₀).counters = s₀.counters :=
      Request.step_of env r ((Unnumbering.counters s₀.counters).run env rfl r hr)
    have hcounted : (r.step env s₀).Counted :=
      Request.step_of env r (Unnumbering.counted.run env h₀.counted r hr)
    exact h₀.of_frame hcounters hcounted (step_within env r hc fun t b e => absurd ⟨t, b, e⟩ hrec).2
      (step_sameNumbers env hc hu r hr (r.target s₀))

end Step

/-! ## Regimes and counters stay -/

namespace Store

variable {s : Store} {R : Uuid} {G : Region}

def counterKeys (s : Store) : List (Uuid × Region) := s.counters.map fun c => (c.regimeId, c.region)

/-- Every regime has a counter in every region. -/
def Stocked (s : Store) : Prop := ∀ r ∈ s.regimes, ∀ G : Region, (r.id, G) ∈ s.counterKeys

theorem counterKeys_movedOn (q : Sequence) (now : Instant) :
    (s.movedOn q R G now).counterKeys = s.counterKeys := by
  simp only [counterKeys, movedOn, List.map_map]
  refine List.map_congr_left fun d _ => ?_
  simp only [Function.comp_apply]
  split
  · rw [(Counter.advance_key d q now).1, (Counter.advance_key d q now).2]
  · rfl

theorem guarded_tables (X : Uuid) (allowed : List Status) (f : BillRun → BillRun) :
    (s.guarded X allowed f).2.regimes = s.regimes ∧ (s.guarded X allowed f).2.counters = s.counters := by
  cases hg : (s.guarded X allowed f).1
  · rw [guarded_false hg]
    exact ⟨rfl, rfl⟩
  · rw [(guarded_true hg).1]
    exact ⟨rfl, rfl⟩

section Roster

variable (Rs : List Regime) (K : List (Uuid × Region))

theorem Unnumbering.roster : Unnumbering fun s => s.regimes = Rs ∧ s.counterKeys = K where
  rewrites := ⟨fun _ _ _ _ h => h, fun _ _ _ _ h => h, fun _ _ h _ => h⟩
  rows _ _ _ _ hc hr h := ⟨hr.trans h.1, by rw [counterKeys, hc]; exact h.2⟩
  insertBillRun _ _ _ _ h := h
  insertInvoice _ _ _ h := h

theorem next_keeps_roster (q : Sequence) (R : Uuid) (G : Region) (now : Instant) :
    Keeps (fun s => s.regimes = Rs ∧ s.counterKeys = K) (next q R G now) := by
  refine .bind .get fun _ => ?_
  split
  · exact .pure _
  · split
    · exact .bind (.throw _) fun _ => .bind (.modify fun s h =>
        ⟨⟨h.1, (counterKeys_movedOn (s := s) q now).trans h.2⟩, Nat.le_refl _⟩) fun _ => .pure _
    · exact .bind (.modify fun s h =>
        ⟨⟨h.1, (counterKeys_movedOn (s := s) q now).trans h.2⟩, Nat.le_refl _⟩) fun _ => .pure _

theorem send_keeps_roster (now : Instant) (ref : BillRunRef) :
    Keeps (fun s => s.regimes = Rs ∧ s.counterKeys = K) (BillRun.send now ref) := by
  have hw := (Unnumbering.roster Rs K).rewrites
  have hguard : ∀ (X : Uuid) (allowed : List Status) (f : BillRun → BillRun),
      Keeps (fun s => s.regimes = Rs ∧ s.counterKeys = K)
        (modifyGet fun s => s.guarded X allowed f : Op Bool) := fun X allowed f =>
    .modifyGet fun s h => ⟨⟨(guarded_tables X allowed f).1.trans h.1,
      by rw [counterKeys, (guarded_tables X allowed f).2]; exact h.2⟩,
      Nat.le_of_eq guarded_issued.symm⟩
  have hnext : ∀ (b : BillRun) q, Keeps (fun s => s.regimes = Rs ∧ s.counterKeys = K)
      (BillRun.nextNumber now ref b q) := fun _ _ =>
    .bind (next_keeps_roster Rs K _ _ _ _) fun _ => .bind (.require _ _) fun _ => .pure _
  refine .bind (billRunOf_keeps ref) fun b => .bind (.require _ _) fun _ =>
    .bind (.atomic ?_ hw.issue) fun _ => .pure _
  unfold BillRun.assignReferences
  refine .bind .get fun _ => .bind (.forM fun _ _ => .bind (hnext _ _) fun _ =>
    .modify fun _ h => ⟨h, Nat.le_refl _⟩) fun _ => .bind (hnext _ _) fun _ => ?_
  extract_lets assign
  have hassign : ∀ file, Keeps (fun s => s.regimes = Rs ∧ s.counterKeys = K) (assign file) :=
    fun _ => .bind (hguard _ _ _) fun ok => by
      cases ok
      · exact conflict_keeps _ _
      · exact .pure ()
  split
  · exact .bind (.pure _) hassign
  · exact .bind (next_keeps_roster Rs K _ _ _ _) fun _ => .bind (.pure _) hassign

theorem step_roster (env : Env) (r : Request) {s₀ : Store}
    (h₀ : s₀.regimes = Rs ∧ s₀.counterKeys = K) :
    (r.step env s₀).regimes = Rs ∧ (r.step env s₀).counterKeys = K := by
  by_cases hr : ∃ slug X, r = .send slug X
  · obtain ⟨slug, X, rfl⟩ := hr
    exact Request.step_of env _ (Request.finishes_of_keeps env h₀
      (.bind (refIn_keeps _ _) fun _ => .bind (send_keeps_roster Rs K _ _) fun _ => .pure _)
      ((Unnumbering.roster Rs K).work env))
  · exact Request.step_of env r ((Unnumbering.roster Rs K).run env h₀ r
      fun slug X e => hr ⟨slug, X, e⟩)

end Roster

theorem Stocked.step (h : s.Stocked) (env : Env) (r : Request) : (r.step env s).Stocked := by
  obtain ⟨hR, hK⟩ := step_roster s.regimes s.counterKeys env r ⟨rfl, rfl⟩
  intro x hx G
  rw [hK]
  exact h x (hR ▸ hx) G

/-! ## The seeded ledger -/

theorem counterKeys_seeded (t : Instant) : (seeded t).counterKeys = (seeded ⟨0⟩).counterKeys := rfl

theorem stocked_seeded (t : Instant) : (seeded t).Stocked := by
  have hids : (seeded t).regimes.map (·.id) = (seeded ⟨0⟩).regimes.map (·.id) := rfl
  intro r hr G
  have hid : r.id ∈ (seeded ⟨0⟩).regimes.map (·.id) := hids ▸ List.mem_map_of_mem hr
  rw [counterKeys_seeded]
  revert hid
  generalize r.id = u
  revert u
  cases G <;> decide

theorem handed_seeded (t : Instant) : (seeded t).Handed := by
  have hfirst : ∀ c ∈ (seeded t).counters, c.transactionNumber = 1 ∧ c.billRunNumber = 10000 ∧
      c.fileNumber = 50000 := by
    have ht : (seeded t).counters.map (·.transactionNumber) = List.replicate 32 1 := rfl
    have hb : (seeded t).counters.map (·.billRunNumber) = List.replicate 32 10000 := rfl
    have hf : (seeded t).counters.map (·.fileNumber) = List.replicate 32 50000 := rfl
    intro c hc
    exact ⟨List.eq_of_mem_replicate (ht ▸ List.mem_map_of_mem hc),
      List.eq_of_mem_replicate (hb ▸ List.mem_map_of_mem hc),
      List.eq_of_mem_replicate (hf ▸ List.mem_map_of_mem hc)⟩
  refine ⟨?keys, fun _ hb => absurd hb List.not_mem_nil, fun c hc => ?_, fun c hc => ?_⟩
  case keys =>
    show (seeded t).counterKeys.Nodup
    rw [counterKeys_seeded]
    decide
  · obtain ⟨h1, h2, h3⟩ := hfirst c hc
    rw [h1, h2, h3]
    decide
  · obtain ⟨h1, h2, h3⟩ := hfirst c hc
    refine ⟨⟨fun _ => "I", fun _ => Or.inl rfl, ?_⟩, ?_, ?_⟩
    · rw [h1]
      exact List.Perm.refl _
    · rw [h2]
      exact List.Perm.refl _
    · rw [h3]
      exact List.Perm.refl _

/-! ## Written numbers tell numbers apart -/

variable {c : Counter}

theorem HandedOut.mem_references (h : s.HandedOut c) {x : String}
    (hx : x ∈ s.references c.regimeId c.region) : ∃ (l : String) (n : Nat), (l = "I" ∨ l = "C") ∧
      x = c.region.name ++ l ++ TransactionFile.padded 7 n ++ "T" := by
  obtain ⟨letter, hletter, hperm⟩ := h.references
  obtain ⟨n, -, rfl⟩ := List.mem_map.1 (hperm.subset hx)
  exact ⟨letter n, n, hletter n, rfl⟩

theorem HandedOut.references_nodup (h : s.HandedOut c) :
    (s.references c.regimeId c.region).Nodup := by
  obtain ⟨letter, hletter, hperm⟩ := h.references
  exact hperm.nodup_iff.2 (List.Nodup.map_on (fun a _ b _ e =>
    (transactionReference_inj (hletter a) (hletter b) e).2) List.nodup_range')

theorem HandedOut.billRunNumbers_nodup (h : s.HandedOut c) :
    (s.billRunNumbers c.regimeId c.region).Nodup :=
  List.Nodup.of_map _ (h.billRunNumbers.nodup_iff.2 List.nodup_range')

theorem HandedOut.fileReferences_nodup (h : s.HandedOut c) :
    (s.fileReferences c.regimeId c.region).Nodup :=
  h.fileReferences.nodup_iff.2 (List.Nodup.map_on (fun _ _ _ _ e => TransactionFile.reference_inj e)
    List.nodup_range')

theorem Handed.counter_handedOut (h : s.Handed) (hst : s.Stocked) {r : Regime} (hr : r ∈ s.regimes)
    (G : Region) : ∃ c, s.counter? r.id G = some c ∧ s.HandedOut c := by
  obtain ⟨c, hc, e⟩ := List.mem_map.1 (hst r hr G)
  simp only [Prod.mk.injEq] at e
  have hsome : (s.counter? r.id G).isSome := List.find?_isSome.2 ⟨c, hc, by simp [e.1, e.2]⟩
  obtain ⟨c', hc'⟩ := Option.isSome_iff_exists.1 hsome
  exact ⟨c', hc', h.handedOut c' (List.mem_of_find?_eq_some hc')⟩

theorem Handed.reference_unique (h : s.Handed) {i j : Invoice} (hi : i ∈ s.invoices)
    (hj : j ∈ s.invoices) {bi bj : BillRun} (hbi : bi ∈ s.billRuns) (hbj : bj ∈ s.billRuns)
    (ei : bi.id = i.billRunId) (ej : bj.id = j.billRunId) (hR : bi.regimeId = bj.regimeId)
    {x : String} (hxi : i.transactionReference = some x) (hxj : j.transactionReference = some x) :
    i = j := by
  obtain ⟨ci, hci, -, hciR, hciG⟩ := h.counter_of_mem hbi
  obtain ⟨cj, hcj, -, hcjR, hcjG⟩ := h.counter_of_mem hbj
  have hin : ∀ {k : Invoice} {b : BillRun} {d : Counter}, k ∈ s.invoices → b ∈ s.billRuns →
      b.id = k.billRunId → d.regimeId = b.regimeId → d.region = b.region →
      k ∈ s.invoices.filter fun k => s.isIn d.regimeId d.region k.billRunId :=
    fun hk hb e hdR hdG => List.mem_filter.2 ⟨hk, List.any_eq_true.2 ⟨_, hb, by simp [e, hdR, hdG]⟩⟩
  have hxi' := (h.handedOut ci hci).mem_references
    (List.mem_filterMap.2 ⟨i, hin hi hbi ei hciR hciG, hxi⟩)
  have hxj' := (h.handedOut cj hcj).mem_references
    (List.mem_filterMap.2 ⟨j, hin hj hbj ej hcjR hcjG, hxj⟩)
  obtain ⟨l, n, hl, rfl⟩ := hxi'
  obtain ⟨l', n', hl', e⟩ := hxj'
  have hG : bi.region = bj.region := by
    rw [← hciG, ← hcjG]
    exact (transactionReference_inj hl hl' e).1
  exact eq_of_filterMap_nodup (h.handedOut ci hci).references_nodup (hin hi hbi ei hciR hciG)
    (hin hj hbj ej (hciR.trans hR) (hciG.trans hG)) hxi hxj

theorem Handed.billRun_unique (h : s.Handed) {b b' : BillRun} (hb : b ∈ s.billRuns)
    (hb' : b' ∈ s.billRuns) (hR : b.regimeId = b'.regimeId) (hG : b.region = b'.region)
    (hnum : b.billRunNumber.isSome ∧ b.billRunNumber = b'.billRunNumber ∨
      b.fileReference.isSome ∧ b.fileReference = b'.fileReference) : b = b' := by
  obtain ⟨c, hc, -, hcR, hcG⟩ := h.counter_of_mem hb
  have hin : ∀ {x : BillRun}, x ∈ s.billRuns → x.regimeId = b.regimeId → x.region = b.region →
      x ∈ s.billRunsIn c.regimeId c.region := fun hx hxR hxG =>
    List.mem_filter.2 ⟨hx, by simp [hcR, hcG, hxR, hxG]⟩
  rcases hnum with ⟨hsome, e⟩ | ⟨hsome, e⟩
  · obtain ⟨n, hn⟩ := Option.isSome_iff_exists.1 hsome
    exact eq_of_filterMap_nodup (h.handedOut c hc).billRunNumbers_nodup (hin hb rfl rfl)
      (hin hb' hR.symm hG.symm) hn (e ▸ hn)
  · obtain ⟨f, hf⟩ := Option.isSome_iff_exists.1 hsome
    exact eq_of_filterMap_nodup (h.handedOut c hc).fileReferences_nodup (hin hb rfl rfl)
      (hin hb' hR.symm hG.symm) hf (e ▸ hf)

end Store

/-! ## Every reachable ledger -/

/-- Every reachable ledger has handed out its numbers once, with numbers on sent bill runs only. -/
theorem Reachable.handed {ok : Env → Prop} {s : Store} (h : Reachable ok s) :
    s.Handed ∧ s.Unsent := by
  induction h with
  | seeded t => exact ⟨handed_seeded t, fun _ hb => absurd hb List.not_mem_nil⟩
  | step env r _ hreach ih => exact step_handed env hreach.consistent hreach.coherent ih.1 ih.2 r

/-- Every regime of a reachable ledger has a counter in every region. -/
theorem Reachable.stocked {ok : Env → Prop} {s : Store} (h : Reachable ok s) : s.Stocked := by
  induction h with
  | seeded t => exact stocked_seeded t
  | step env r _ _ ih => exact ih.step env r

/-- In every reachable ledger, whatever the surroundings, every regime has a counter in each
region, and that counter has handed out its numbers once each: the transaction references on the
invoices of its regime and region are those of the numbers from 1 below its transaction number,
with `I` or `C` before the number; the bill run numbers of its bill runs are the numbers from 10000
below its bill run number; their file references are those of the numbers from 50000 below its
file number. So no two invoices of a regime share a transaction reference, and no two bill runs of
a regime and region share a bill run number or a file reference. -/
theorem Reachable.numbers_handed_out_once {ok : Env → Prop} {s : Store} (h : Reachable ok s) :
    (∀ r ∈ s.regimes, ∀ G : Region, ∃ c, s.counter? r.id G = some c ∧ s.HandedOut c) ∧
    (∀ i ∈ s.invoices, ∀ j ∈ s.invoices, ∀ bi ∈ s.billRuns, ∀ bj ∈ s.billRuns,
      bi.id = i.billRunId → bj.id = j.billRunId → bi.regimeId = bj.regimeId →
      ∀ x, i.transactionReference = some x → j.transactionReference = some x → i = j) ∧
    (∀ b ∈ s.billRuns, ∀ b' ∈ s.billRuns, b.regimeId = b'.regimeId → b.region = b'.region →
      (b.billRunNumber.isSome ∧ b.billRunNumber = b'.billRunNumber ∨
        b.fileReference.isSome ∧ b.fileReference = b'.fileReference) → b = b') := by
  have hh := h.handed.1
  exact ⟨fun r hr G => hh.counter_handedOut h.stocked hr G,
    fun i hi j hj bi hbi bj hbj ei ej hR x hxi hxj =>
      hh.reference_unique hi hj hbi hbj ei ej hR hxi hxj,
    fun b hb b' hb' hR hG hnum => hh.billRun_unique hb hb' hR hG hnum⟩

/-- After a bill run is created on a seeded ledger, the numbers are handed out once. -/
theorem numbers_handed_out_after_create :
    Reachable (fun _ => True)
        (Request.step { now := ⟨0⟩ } (.create "wrls" "system" "A" "sroc") (Store.seeded ⟨0⟩)) ∧
      let s := Request.step { now := ⟨0⟩ } (.create "wrls" "system" "A" "sroc") (Store.seeded ⟨0⟩)
      (∀ r ∈ s.regimes, ∀ G : Region, ∃ c, s.counter? r.id G = some c ∧ s.HandedOut c) ∧
      (∀ i ∈ s.invoices, ∀ j ∈ s.invoices, ∀ bi ∈ s.billRuns, ∀ bj ∈ s.billRuns,
        bi.id = i.billRunId → bj.id = j.billRunId → bi.regimeId = bj.regimeId →
        ∀ x, i.transactionReference = some x → j.transactionReference = some x → i = j) ∧
      (∀ b ∈ s.billRuns, ∀ b' ∈ s.billRuns, b.regimeId = b'.regimeId → b.region = b'.region →
        (b.billRunNumber.isSome ∧ b.billRunNumber = b'.billRunNumber ∨
          b.fileReference.isSome ∧ b.fileReference = b'.fileReference) → b = b') :=
  have h := @Reachable.step (fun _ => True) _ { now := ⟨0⟩ } (.create "wrls" "system" "A" "sroc")
    trivial (Reachable.seeded ⟨0⟩)
  ⟨h, Reachable.numbers_handed_out_once h⟩

end ChargeLedger
