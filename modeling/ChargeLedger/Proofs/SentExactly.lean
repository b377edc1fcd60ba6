import ChargeLedger.Proofs.Sequences
import ChargeLedger.Proofs.Legibility
import ChargeLedger.Proofs.Grouping

/-!
# A send numbers and files exactly

Sending an approved bill run takes its billable invoices in invoice order and hands each the
next transaction number of the counter of its regime and region, written into its reference
(`BillRun.referencesFrom`); the bill run then takes the next bill run number and, when it bills
an invoice, the next file number. Where the counter has room for all of that, the send returns
and leaves the ledger exactly as `Store.numbered` says: its invoices stamped with their
references (`Store.stampInvoices`), its counter moved on (`Counter.afterSend`) and the bill run
numbered and pending. Its transmission then ends it billed with its one file delivered, or billing
not required with none.

Past the counter's room a send fails, so the counters of a regime bound what it can send.
-/

set_option autoImplicit false

namespace ChargeLedger

open Op Store

/-! ## Runs that return and runs that fail -/

section Outcomes

variable {α : Type} {P : Store → Prop} {Q : α → Store → Prop} {E : Store → Prop} {x : Op α}

theorem Op.Triple.anyFault (h : Triple P x Q (fun _ => False)) : Triple P x Q E :=
  h.mono (fun _ h => h) (fun _ _ h => h) fun _ h => h.elim

theorem Op.Triple.returns (h : Triple P x Q (fun _ => False)) {s : Store} (hs : P s) :
    ∃ a s', x s = .ok a s' ∧ Q a s' := by
  have hx := h.apply hs
  split at hx
  · rename_i a s' e
    exact ⟨a, s', e, hx⟩
  · exact hx.elim

theorem Op.Triple.fails (h : Triple P x (fun _ _ => False) E) {s : Store} (hs : P s) :
    ∃ e s', x s = .error e s' ∧ E s' := by
  have hx := h.apply hs
  split at hx
  · exact hx.elim
  · rename_i e s' he
    exact ⟨e, s', he, hx⟩

end Outcomes

/-! ## The references handed out -/

namespace BillRun

/-- The transaction references sending hands out, from number `t` on, to the invoices `bills`
of a bill run in region `G`: each in turn takes the next number, written in seven digits after
the region and `C` for an invoice whose net is below zero or `I` for any other, and before `T`. -/
def referencesFrom (G : Region) : Int → List Invoice → List (Uuid × String)
  | _, [] => []
  | t, i :: rest =>
    (i.id, G.name ++ (if i.tally.net < 0 then "C" else "I") ++ TransactionFile.padded 7 t ++ "T") ::
      referencesFrom G (t + 1) rest

variable (G : Region)

theorem referencesFrom_concat (t : Int) (l : List Invoice) (i : Invoice) :
    referencesFrom G t (l ++ [i]) = referencesFrom G t l ++
      [(i.id, G.name ++ (if i.tally.net < 0 then "C" else "I") ++
        TransactionFile.padded 7 (t + l.length) ++ "T")] := by
  induction l generalizing t with
  | nil => simp [referencesFrom]
  | cons j l ih =>
    have ht : t + 1 + (l.length : Int) = t + ((l.length + 1 : Nat) : Int) := by omega
    rw [List.cons_append, referencesFrom, referencesFrom, ih, List.length_cons, List.cons_append, ht]

theorem keys_referencesFrom (t : Int) (l : List Invoice) :
    (referencesFrom G t l).map Prod.fst = l.map (·.id) := by
  induction l generalizing t with
  | nil => rfl
  | cons i l ih => simp [referencesFrom, ih]

theorem lookup_referencesFrom {l : List Invoice} (hl : (l.map (·.id)).Nodup) (t : Int) (j : Nat)
    (hj : j < l.length) :
    (referencesFrom G t l).lookup l[j].id = some (G.name ++
      (if l[j].tally.net < 0 then "C" else "I") ++ TransactionFile.padded 7 (t + j) ++ "T") := by
  induction l generalizing t j with
  | nil => cases hj
  | cons i l ih =>
    cases j with
    | zero => simp [referencesFrom]
    | succ k =>
      have hk : k < l.length := by simpa using hj
      have hne : (l[k].id == i.id) = false := beq_eq_false_iff_ne.2 fun e =>
        (List.nodup_cons.1 hl).1 (List.mem_map.2 ⟨l[k], List.getElem_mem _, e⟩)
      have ht : t + 1 + (k : Int) = t + ((k + 1 : Nat) : Int) := by omega
      rw [referencesFrom, List.getElem_cons_succ, List.lookup_cons, hne,
        ih (List.nodup_cons.1 hl).2 (t + 1) k hk, ht]

theorem lookup_referencesFrom_eq_none {l : List Invoice} (t : Int) {k : Uuid}
    (hk : k ∉ l.map (·.id)) : (referencesFrom G t l).lookup k = none := by
  refine List.lookup_eq_none_iff.2 fun p hp => bne_iff_ne.2 fun e => hk ?_
  rw [← keys_referencesFrom G t, e]
  exact List.mem_map_of_mem hp

end BillRun

/-! ## Stamped invoices and moved counters -/

namespace Invoice

def stamp (refs : List (Uuid × String)) (now : Instant) (i : Invoice) : Invoice :=
  match refs.lookup i.id with
  | some r => { i with transactionReference := some r, updatedAt := now }
  | none => i

variable (refs : List (Uuid × String)) (now : Instant) (i : Invoice)

theorem unsent_stamp : (i.stamp refs now).unsent = i.unsent := by
  unfold stamp
  split <;> rfl

@[simp] theorem stamp_id : (i.stamp refs now).id = i.id := by
  unfold stamp
  split <;> rfl

@[simp] theorem stamp_billRunId : (i.stamp refs now).billRunId = i.billRunId := by
  unfold stamp
  split <;> rfl

@[simp] theorem stamp_tally : (i.stamp refs now).tally = i.tally := by
  unfold stamp
  split <;> rfl

@[simp] theorem stamp_flags : (i.stamp refs now).flags = i.flags := by
  unfold stamp
  split <;> rfl

theorem stamp_transactionReference :
    (i.stamp refs now).transactionReference = (refs.lookup i.id).or i.transactionReference := by
  unfold stamp
  split <;> rename_i h <;> simp [h]

end Invoice

namespace Store

variable {s s₀ : Store} {R : Uuid} {G : Region}

/-- The ledger with its invoices stamped at `now` with the references `refs` gives them. -/
def stampInvoices (s : Store) (refs : List (Uuid × String)) (now : Instant) : Store :=
  { s with invoices := s.invoices.map (Invoice.stamp refs now) }

def withCounter (s : Store) (R : Uuid) (G : Region) (f : Counter → Counter) : Store :=
  { s with counters := s.counters.map fun d => if d.regimeId == R && d.region == G then f d else d }

theorem stampInvoices_mapInvoice (refs : List (Uuid × String)) (now : Instant) {k : Uuid}
    {r : String} (hk : k ∉ refs.map Prod.fst) :
    (s.stampInvoices refs now).mapInvoice k
        (fun i => { i with transactionReference := some r, updatedAt := now }) =
      s.stampInvoices (refs ++ [(k, r)]) now := by
  have hnone : refs.lookup k = none :=
    List.lookup_eq_none_iff.2 fun p hp => bne_iff_ne.2 fun e => hk (e ▸ List.mem_map_of_mem hp)
  simp only [mapInvoice, stampInvoices, List.map_map]
  congr 2
  funext i
  simp only [Function.comp_apply, Invoice.stamp_id]
  by_cases hi : i.id = k
  · -- the invoice written took nothing from `refs`, and takes `r` now
    have hl : (refs ++ [(k, r)]).lookup i.id = some r := by
      rw [List.lookup_append, hi, hnone, Option.none_or, List.lookup_cons_self]
    have hl₀ : refs.lookup i.id = none := hi ▸ hnone
    rw [if_pos (by simpa using hi)]
    simp only [Invoice.stamp, hl, hl₀]
  · have hl : (refs ++ [(k, r)]).lookup i.id = refs.lookup i.id := by
      rw [List.lookup_append, List.lookup_cons, beq_eq_false_iff_ne.2 hi]
      exact Option.or_none
    rw [if_neg (by simpa using hi)]
    simp only [Invoice.stamp, hl]

theorem withCounter_withCounter (f g : Counter → Counter)
    (hf : ∀ d, (f d).regimeId = d.regimeId ∧ (f d).region = d.region) :
    (s.withCounter R G f).withCounter R G g = s.withCounter R G (g ∘ f) := by
  simp only [withCounter, List.map_map]
  congr 2
  funext d
  simp only [Function.comp_apply]
  split
  · rename_i h
    rw [if_pos (by rw [(hf d).1, (hf d).2]; exact h)]
  · rfl

theorem counter?_withCounter {f : Counter → Counter}
    (hf : ∀ d, (f d).regimeId = d.regimeId ∧ (f d).region = d.region) :
    (s.withCounter R G f).counter? R G = (s.counter? R G).map f := by
  unfold counter? withCounter
  rw [List.find?_map]
  have hp : ((fun c : Counter => c.regimeId == R && c.region == G) ∘
      fun d => if d.regimeId == R && d.region == G then f d else d) =
      fun c => c.regimeId == R && c.region == G := by
    funext d
    simp only [Function.comp_apply]
    split
    · rw [(hf d).1, (hf d).2]
    · rfl
  rw [hp]
  cases h : s.counters.find? (fun c => c.regimeId == R && c.region == G) with
  | none => rfl
  | some c =>
    simp only [Option.map_some]
    rw [if_pos (List.find?_some h)]

theorem mapInvoice_withCounter {K : Uuid} {g : Invoice → Invoice} {f : Counter → Counter} :
    (s.withCounter R G f).mapInvoice K g = (s.mapInvoice K g).withCounter R G f := rfl

@[simp] theorem stampInvoices_nil (now : Instant) : s.stampInvoices [] now = s := by
  have hstamp : Invoice.stamp [] now = id := by
    funext i
    rfl
  simp only [stampInvoices, hstamp, List.map_id]

@[simp] theorem withCounter_id : s.withCounter R G id = s := by
  have hid : (fun d : Counter => if d.regimeId == R && d.region == G then id d else d) = id := by
    funext d
    split <;> rfl
  simp only [withCounter, hid, List.map_id]

end Store

namespace Counter

variable (now : Instant)

theorem advance_iterate_key (q : Sequence) (j : Nat) (c : Counter) :
    ((·.advance q now)^[j] c).regimeId = c.regimeId ∧
      ((·.advance q now)^[j] c).region = c.region := by
  induction j with
  | zero => exact ⟨rfl, rfl⟩
  | succ j ih =>
    rw [Function.iterate_succ_apply', (advance_key _ q now).1, (advance_key _ q now).2]
    exact ih

theorem advance_iterate_numbers (j : Nat) (c : Counter)
    (h : c.transactionNumber.toInt + j ≤ Int64.maxValue.toInt) :
    ((·.advance .transaction now)^[j] c).transactionNumber.toInt = c.transactionNumber.toInt + j ∧
      ((·.advance .transaction now)^[j] c).billRunNumber = c.billRunNumber ∧
      ((·.advance .transaction now)^[j] c).fileNumber = c.fileNumber := by
  induction j with
  | zero => exact ⟨by simp, rfl, rfl⟩
  | succ j ih =>
    obtain ⟨hn, hb, hf⟩ := ih (by omega)
    -- the number before the last step is below the largest, so the step adds one
    have hne : ((·.advance .transaction now)^[j] c).transactionNumber ≠ Int64.maxValue := fun e => by
      rw [e] at hn
      omega
    rw [Function.iterate_succ_apply']
    exact ⟨by rw [advance, Int64.toInt_add_one_of_ne hne, hn]; push_cast; omega, hb, hf⟩

end Counter

namespace Store

variable {s₀ : Store}

theorem next_returns (q : Sequence) (R : Uuid) (G : Region) (now : Instant) {c : Counter}
    (hc : s₀.counter? R G = some c) (hmax : c.number q ≠ Int64.maxValue) :
    Triple (· = s₀) (next q R G now)
      (fun n s => n = c.number q ∧ s = s₀.withCounter R G (·.advance q now)) (fun _ => False) := by
  unfold next
  refine Triple.get_bind ?_
  simp only [hc]
  split
  · rename_i hm
    exact absurd (eq_of_beq hm) hmax
  · exact Triple.bind (Triple.modify (Q := fun _ s => s = s₀.withCounter R G (·.advance q now))
      fun _ e => by rw [e]; rfl) fun _ => Triple.pure fun _ e => ⟨rfl, e⟩

theorem nextNumber_returns (now : Instant) (ref : BillRunRef) (b : BillRun) (q : Sequence)
    {c : Counter} (hc : s₀.counter? b.regimeId b.region = some c)
    (hmax : c.number q ≠ Int64.maxValue) (h0 : c.number q ≠ 0) :
    Triple (· = s₀) (BillRun.nextNumber now ref b q)
      (fun n s => n = c.number q ∧ s = s₀.withCounter b.regimeId b.region (·.advance q now))
      (fun _ => False) := by
  refine Triple.bind (next_returns q b.regimeId b.region now hc hmax) fun n =>
    Triple.of_eq fun s h => ?_
  obtain ⟨rfl, rfl⟩ := h
  refine Triple.require_bind (fun h => absurd ?_ h0) fun _ => Triple.pure fun _ e => ⟨rfl, e⟩
  simpa using h

theorem numberInvoices_returns (now : Instant) (ref : BillRunRef) (b : BillRun) {c : Counter}
    (bills : List Invoice) (hc : s₀.counter? b.regimeId b.region = some c)
    (hfloor : 1 ≤ c.transactionNumber.toInt)
    (hroom : c.transactionNumber.toInt + bills.length ≤ Int64.maxValue.toInt)
    (hids : (bills.map (·.id)).Nodup) :
    Triple (· = s₀) (bills.forM fun inv => do
        let n ← BillRun.nextNumber now ref b .transaction
        setReference inv.id (BillRun.transactionReference b.region inv n) now)
      (fun _ s => s = (s₀.stampInvoices
        (BillRun.referencesFrom b.region c.transactionNumber.toInt bills) now).withCounter
          b.regimeId b.region (·.advance .transaction now)^[bills.length])
      (fun _ => False) := by
  -- the invariant: the invoices numbered so far are stamped, the counter moved on by as many
  refine (Triple.forM (fun todo s => ∃ done, done ++ todo = bills ∧
      s = (s₀.stampInvoices (BillRun.referencesFrom b.region c.transactionNumber.toInt done)
        now).withCounter b.regimeId b.region (·.advance .transaction now)^[done.length])
      fun inv rest => ?step).mono (fun s e => ⟨[], rfl, ?start⟩) ?finish fun _ h => h
  case start =>
    rw [e]
    simp [BillRun.referencesFrom]
  case finish =>
    rintro _ s ⟨done, hd, rfl⟩
    rw [List.append_nil] at hd
    rw [hd]
  case step =>
    refine Triple.of_eq fun s ⟨done, hd, e⟩ => ?_
    subst e
    have hj : done.length + 1 ≤ bills.length := by
      rw [← hd, List.length_append, List.length_cons]
      omega
    have hkey := Counter.advance_iterate_key now .transaction done.length
    obtain ⟨hnum, -, -⟩ := Counter.advance_iterate_numbers now done.length c (by omega)
    have hcj : ((s₀.stampInvoices (BillRun.referencesFrom b.region c.transactionNumber.toInt done)
        now).withCounter b.regimeId b.region (·.advance .transaction now)^[done.length]).counter?
          b.regimeId b.region = some ((·.advance .transaction now)^[done.length] c) := by
      rw [counter?_withCounter hkey]
      exact congrArg (Option.map _) hc
    refine Triple.bind (nextNumber_returns now ref b .transaction hcj ?_ ?_) fun n =>
      Triple.of_eq fun s h => ?_
    · -- the number handed out is below the largest
      intro e
      have := congrArg Int64.toInt e
      simp only [Counter.number] at this
      omega
    · intro e
      have := congrArg Int64.toInt e
      simp only [Counter.number, Int64.toInt_zero] at this
      omega
    obtain ⟨rfl, rfl⟩ := h
    have hfresh : inv.id ∉ (BillRun.referencesFrom b.region c.transactionNumber.toInt done).map
        Prod.fst := by
      rw [BillRun.keys_referencesFrom]
      rw [← hd, List.map_append, List.map_cons] at hids
      exact fun hm => (List.nodup_append.1 hids).2.2 _ hm _ List.mem_cons_self rfl
    refine Triple.modify fun _ e => ⟨done ++ [inv], by rw [List.append_assoc]; exact hd, ?_⟩
    rw [e, withCounter_withCounter _ _ (hkey ·), ← Function.iterate_succ', List.length_append,
      List.length_singleton, BillRun.referencesFrom_concat]
    rw [mapInvoice_withCounter, stampInvoices_mapInvoice _ now hfresh]
    simp only [BillRun.transactionReference, Counter.number, hnum]

end Store

/-! ## What a send writes -/

namespace Counter

/-- Counter `c` after sending a bill run that bills `k` invoices: `k` transaction numbers, one
bill run number and, when `k` is not zero, one file number further on. -/
def afterSend (now : Instant) (k : Nat) (c : Counter) : Counter :=
  let d := ((·.advance .transaction now)^[k] c).advance .billRun now
  if k = 0 then d else d.advance .file now

/-- Counter `c` has room to send a bill run that bills `k` invoices: `k` transaction numbers from
its own up to the largest 64-bit number, a bill run number below it and, when `k` is not zero, a
file number below it. -/
def RoomFor (c : Counter) (k : Nat) : Prop :=
  c.transactionNumber.toInt + k ≤ Int64.maxValue.toInt ∧ c.billRunNumber ≠ Int64.maxValue ∧
    (k ≠ 0 → c.fileNumber ≠ Int64.maxValue)

instance (c : Counter) (k : Nat) : Decidable (c.RoomFor k) :=
  inferInstanceAs (Decidable (_ ∧ _ ∧ _))

variable (now : Instant) (k : Nat) (c : Counter)

theorem afterSend_key : (c.afterSend now k).regimeId = c.regimeId ∧
    (c.afterSend now k).region = c.region := by
  obtain ⟨hR, hG⟩ := advance_iterate_key now .transaction k c
  unfold afterSend
  split <;> exact ⟨hR, hG⟩

theorem afterSend_numbers (h : c.RoomFor k) :
    (c.afterSend now k).transactionNumber.toInt = c.transactionNumber.toInt + k ∧
      (c.afterSend now k).billRunNumber.toInt = c.billRunNumber.toInt + 1 ∧
      (c.afterSend now k).fileNumber.toInt = c.fileNumber.toInt + if k = 0 then 0 else 1 := by
  obtain ⟨ht, hb, hf⟩ := advance_iterate_numbers now k c h.1
  have hbn : (((·.advance .transaction now)^[k] c).billRunNumber + 1).toInt =
      c.billRunNumber.toInt + 1 := by
    rw [hb, Int64.toInt_add_one_of_ne h.2.1]
  simp only [afterSend]
  split
  · rename_i hk
    refine ⟨ht, hbn, ?_⟩
    show ((·.advance .transaction now)^[k] c).fileNumber.toInt = _
    rw [hf, Int.add_zero]
  · rename_i hk
    refine ⟨ht, hbn, ?_⟩
    show (((·.advance .transaction now)^[k] c).fileNumber + 1).toInt = _
    rw [hf, Int64.toInt_add_one_of_ne (h.2.2 hk)]

end Counter

/-- Bill run `x` given number `number` and file `file`, made at `now`, and pending. -/
def BillRun.numbered (number : Int64) (file : Option String) (now : Instant) (x : BillRun) :
    BillRun :=
  { x with billRunNumber := some number, fileReference := file,
           fileCreatedAt := file.map fun _ => now, status := .pending, updatedAt := now }

namespace Store

def billableInvoices (s : Store) (X : Uuid) : List Invoice := (s.invoicesOf X).filter (·.isBillable)

def fileOf (s : Store) (b : BillRun) (c : Counter) : Option String :=
  if (s.billableInvoices b.id).isEmpty then none
  else some (TransactionFile.reference b.region.name c.fileNumber.toInt)

def sent (s : Store) (b : BillRun) (c : Counter) (now : Instant) : Store :=
  ((s.stampInvoices (BillRun.referencesFrom b.region c.transactionNumber.toInt
      (s.billableInvoices b.id)) now).withCounter b.regimeId b.region
        (Counter.afterSend now (s.billableInvoices b.id).length)).mapBillRun b.id
    (BillRun.numbered c.billRunNumber (s.fileOf b c) now)

variable {s₀ : Store}

theorem billable_ids_nodup (hids : (s₀.invoices.map (·.id)).Nodup) (X : Uuid) :
    ((s₀.billableInvoices X).map (·.id)).Nodup :=
  (((sortBy_perm _ _).map _).nodup_iff.2 (hids.sublist (List.filter_sublist.map _))).sublist
    (List.filter_sublist.map _)

theorem assignReferences_returns (now : Instant) (ref : BillRunRef) {b : BillRun} {c : Counter}
    (hb : s₀.billRun? b.id = some b) (happ : b.status = .approved)
    (hc : s₀.counter? b.regimeId b.region = some c)
    (hfloor : 1 ≤ c.transactionNumber.toInt ∧ 10000 ≤ c.billRunNumber.toInt)
    (hroom : c.RoomFor (s₀.billableInvoices b.id).length) (hids : (s₀.invoices.map (·.id)).Nodup) :
    Triple (· = s₀) (BillRun.assignReferences now ref b) (fun _ s => s = s₀.sent b c now)
      (fun _ => False) := by
  unfold BillRun.assignReferences
  refine Triple.get_bind (Triple.bind (numberInvoices_returns now ref b (s₀.billableInvoices b.id) hc
    hfloor.1 hroom.1 (billable_ids_nodup hids b.id)) fun _ => Triple.of_eq fun s₁ e => ?_)
  subst e
  obtain ⟨-, hbn, hfn⟩ := Counter.advance_iterate_numbers now _ c hroom.1
  have hkey := Counter.advance_iterate_key now .transaction (s₀.billableInvoices b.id).length
  have hc₁ : ((s₀.stampInvoices (BillRun.referencesFrom b.region c.transactionNumber.toInt
      (s₀.billableInvoices b.id)) now).withCounter b.regimeId b.region
        (·.advance .transaction now)^[(s₀.billableInvoices b.id).length]).counter? b.regimeId b.region =
      some ((·.advance .transaction now)^[(s₀.billableInvoices b.id).length] c) := by
    rw [counter?_withCounter hkey]
    exact congrArg (Option.map _) hc
  refine Triple.bind (nextNumber_returns now ref b .billRun hc₁ ?_ ?_) fun number =>
    Triple.of_eq fun s₂ h => ?_
  · simpa [Counter.number, hbn] using hroom.2.1
  · intro e
    have := congrArg Int64.toInt e
    simp only [Counter.number, hbn, Int64.toInt_zero] at this
    omega
  obtain ⟨hn, rfl⟩ := h
  have hnum : number = c.billRunNumber := hn.trans hbn
  subst hnum
  extract_lets assign
  have hassign : ∀ (file : Option String) (s' : Store), s'.billRun? b.id = some b →
      Triple (· = s') (assign file)
        (fun _ s => s = s'.mapBillRun b.id (BillRun.numbered c.billRunNumber file now))
        (fun _ => False) := by
    intro file s' hb'
    refine Triple.bind (Triple.modifyGet (Q := fun ok s => ok = true ∧
      s = s'.mapBillRun b.id (BillRun.numbered c.billRunNumber file now)) fun s e => ?_)
      fun ok => Triple.of_eq fun s h => ?_
    · subst e
      rw [guarded_of_billRun? hb' (by simp [happ])]
      exact ⟨rfl, rfl⟩
    · obtain ⟨rfl, rfl⟩ := h
      exact Triple.pure fun _ e => e
  have hkey' : ∀ d : Counter, ((·.advance .transaction now)^[(s₀.billableInvoices b.id).length] d).regimeId
      = d.regimeId ∧ ((·.advance .transaction now)^[(s₀.billableInvoices b.id).length] d).region =
        d.region := fun d => Counter.advance_iterate_key now .transaction _ d
  split
  · -- nothing billed: no file
    rename_i hempty
    have hk : (s₀.billableInvoices b.id).length = 0 := List.isEmpty_iff_length_eq_zero.1 hempty
    refine Triple.bind (Triple.pure (Q := fun file s' => file = none ∧ s' =
      ((s₀.stampInvoices (BillRun.referencesFrom b.region c.transactionNumber.toInt
        (s₀.billableInvoices b.id)) now).withCounter b.regimeId b.region
          (·.advance .transaction now)^[(s₀.billableInvoices b.id).length]).withCounter b.regimeId
            b.region (·.advance .billRun now)) fun _ e => ⟨rfl, e⟩)
      fun file => Triple.of_eq fun s' h => ?_
    obtain ⟨rfl, rfl⟩ := h
    refine (hassign none _ ?_).mono (fun _ h => h) (fun _ s e => ?_) fun _ h => h
    · exact hb
    have hempty' : (s₀.billableInvoices b.id).isEmpty = true := hempty
    rw [e, withCounter_withCounter _ _ hkey', sent, fileOf, if_pos hempty']
    congr 2
    funext d
    simp [Counter.afterSend, hk]
  · -- the file takes the next file number of the same counter
    rename_i hbills
    have hk : (s₀.billableInvoices b.id).length ≠ 0 := fun h => hbills (List.isEmpty_iff_length_eq_zero.2 h)
    have hkey₂ : ∀ d : Counter, (d.advance .billRun now).regimeId = d.regimeId ∧
        (d.advance .billRun now).region = d.region := fun d => Counter.advance_key d .billRun now
    have hc₂ : (((s₀.stampInvoices (BillRun.referencesFrom b.region c.transactionNumber.toInt
        (s₀.billableInvoices b.id)) now).withCounter b.regimeId b.region
          (·.advance .transaction now)^[(s₀.billableInvoices b.id).length]).withCounter b.regimeId b.region
            (·.advance .billRun now)).counter? b.regimeId b.region =
        some (((·.advance .transaction now)^[(s₀.billableInvoices b.id).length] c).advance .billRun now) := by
      rw [counter?_withCounter hkey₂, hc₁]
      rfl
    refine Triple.bind (next_returns .file b.regimeId b.region now hc₂ ?_) fun f =>
      Triple.of_eq fun s' h => ?_
    · show ((·.advance .transaction now)^[(s₀.billableInvoices b.id).length] c).fileNumber ≠ _
      rw [hfn]
      exact hroom.2.2 hk
    obtain ⟨hf, rfl⟩ := h
    have hfile : f = c.fileNumber := hf.trans hfn
    subst hfile
    simp only [pure_bind]
    refine (hassign _ _ ?_).mono (fun _ h => h) (fun _ s e => ?_) fun _ h => h
    · exact hb
    have hbills' : (s₀.billableInvoices b.id).isEmpty = false := Bool.eq_false_iff.2 hbills
    rw [e, withCounter_withCounter _ _ hkey₂, withCounter_withCounter _ _ hkey', sent, fileOf,
      if_neg (by simp [hbills'])]
    congr 2
    funext d
    simp [Counter.afterSend, hk]

theorem send_returns (now : Instant) (ref : BillRunRef) {b : BillRun} {c : Counter}
    (hs : s₀.Sound) (hb : s₀.billRunIn? ref.regimeId ref.billRunId = some b)
    (hread : b.readable = true) (happ : b.status = .approved)
    (hc : s₀.counter? b.regimeId b.region = some c)
    (hfloor : 1 ≤ c.transactionNumber.toInt ∧ 10000 ≤ c.billRunNumber.toInt)
    (hroom : c.RoomFor (s₀.billableInvoices b.id).length) :
    Triple (· = s₀) (BillRun.send now ref)
      (fun task s => task = .transmit ref ∧ s = s₀.sent b c now) (fun _ => False) := by
  have hrow : s₀.billRun? b.id = some b := by
    rw [(id_of_billRunIn? hb).1]
    exact hs.billRun?_of_billRunIn? hb
  have hids := hs.invoiceIds_nodup
  refine Triple.bind (billRunOf_some hb hread) fun b' => Triple.of_eq fun s h => ?_
  obtain ⟨rfl, rfl⟩ := h
  refine Triple.require_bind (fun h => absurd h (by simp [happ])) fun _ => ?_
  refine Triple.bind (Triple.atomically fun s e => ?_) fun _ => Triple.pure fun _ e => ⟨rfl, e⟩
  subst e
  exact assignReferences_returns now ref hrow happ hc hfloor hroom hids

theorem transmit_returns (env : Env) (henv : env.Reliable) (ref : BillRunRef) {b : BillRun}
    (hb : s₀.billRun? ref.billRunId = some b) (hR : b.regimeId = ref.regimeId)
    (hst : b.status = .pending) (hcreated : b.createdAt.storable = true)
    (hfile : b.fileCreatedAt.all Instant.storable = true) :
    Triple (· = s₀) (BillRun.transmit env ref)
      (fun ups s => s = (s₀.mapBillRun ref.billRunId fun x =>
          { x with status := .sending, updatedAt := env.now }).mapBillRun ref.billRunId (fun x =>
          { x with status := if b.fileReference.isSome then .billed else .billingNotRequired,
                   updatedAt := env.now }) ∧
        ups.map (·.key) = b.fileReference.toList.map (TransactionFile.storageKey ref.regimeSlug))
      (fun _ => False) := by
  have hbid := id_of_billRun? hb
  unfold BillRun.transmit
  refine Triple.bind (transition_taken env.now hb hst) fun _ => Triple.of_eq fun s e => ?_
  subst e
  have hrow : (s₀.mapBillRun ref.billRunId fun x =>
      { x with status := .sending, updatedAt := env.now }).billRun? ref.billRunId =
      some { b with status := .sending, updatedAt := env.now } :=
    billRun?_mapBillRun_self (fun _ => rfl) hb
  have hread : BillRun.readable { b with status := .sending, updatedAt := env.now } = true := by
    simp [BillRun.readable, hcreated, henv.2, hfile]
  refine Triple.bind (billRunOf_some (billRunIn?_of_billRun? hrow hR) hread) fun b' =>
    Triple.of_eq fun s h => ?_
  obtain ⟨rfl, rfl⟩ := h
  have hlast : Triple (· = s₀.mapBillRun ref.billRunId fun x =>
        { x with status := .sending, updatedAt := env.now })
      (BillRun.transition env.now b.id .sending
        (if b.fileReference.isSome then .billed else .billingNotRequired))
      (fun _ s => s = (s₀.mapBillRun ref.billRunId fun x =>
          { x with status := .sending, updatedAt := env.now }).mapBillRun ref.billRunId (fun x =>
          { x with status := if b.fileReference.isSome then .billed else .billingNotRequired,
                   updatedAt := env.now })) (fun _ => False) := by
    rw [hbid]
    exact transition_taken env.now hrow rfl
  split
  · rename_i hnone
    have hnone' : b.fileReference = none := hnone
    rw [hnone'] at hlast ⊢
    exact Triple.bind hlast fun _ => Triple.pure fun _ e => ⟨e, rfl⟩
  · rename_i reference hsome
    have hsome' : b.fileReference = some reference := hsome
    rw [hsome'] at hlast ⊢
    refine Triple.get_bind ?_
    rw [henv.1]
    exact Triple.bind hlast fun _ => Triple.pure fun _ e => ⟨e, rfl⟩

end Store

/-! ## Past the counter's room -/

namespace Store

variable {s₀ : Store}

theorem next_fails (q : Sequence) (R : Uuid) (G : Region) (now : Instant) {c : Counter}
    (hc : s₀.counter? R G = some c) (hmax : c.number q = Int64.maxValue) :
    Triple (· = s₀) (next q R G now) (fun _ _ => False) (· = s₀) := by
  unfold next
  refine Triple.get_bind ?_
  simp only [hc]
  split
  · exact Triple.bind (Triple.throw fun _ e => e) fun _ => Triple.absurd _
  · rename_i hm
    exact absurd (by simp [hmax]) hm

theorem nextNumber_fails (now : Instant) (ref : BillRunRef) (b : BillRun) (q : Sequence)
    {c : Counter} (hc : s₀.counter? b.regimeId b.region = some c)
    (hmax : c.number q = Int64.maxValue) :
    Triple (· = s₀) (BillRun.nextNumber now ref b q) (fun _ _ => False) (· = s₀) :=
  Triple.bind (next_fails q b.regimeId b.region now hc hmax) fun _ => Triple.absurd _

theorem numberInvoices_fails (now : Instant) (ref : BillRunRef) (b : BillRun) {c : Counter}
    (bills : List Invoice) (hc : s₀.counter? b.regimeId b.region = some c)
    (hfloor : 1 ≤ c.transactionNumber.toInt)
    (hover : Int64.maxValue.toInt < c.transactionNumber.toInt + bills.length) :
    Triple (· = s₀) (bills.forM fun inv => do
        let n ← BillRun.nextNumber now ref b .transaction
        setReference inv.id (BillRun.transactionReference b.region inv n) now)
      (fun _ _ => False) (fun s => s.issued = s₀.issued) := by
  -- the invariant: the counter has moved on once for each invoice numbered, all within its room
  refine (Triple.forM (fun todo s => ∃ done, done ++ todo = bills ∧
      s.counter? b.regimeId b.region = some ((·.advance .transaction now)^[done.length] c) ∧
      s.issued = s₀.issued ∧ c.transactionNumber.toInt + done.length ≤ Int64.maxValue.toInt)
      fun inv rest => ?step).mono (fun s e => ⟨[], rfl, by rw [e]; exact hc, by rw [e], ?start⟩)
      ?finish fun _ h => h
  case start =>
    have hle := c.transactionNumber.toInt_le
    have hmax : Int64.maxValue.toInt = 2 ^ 63 - 1 := by decide
    simp only [List.length_nil, Nat.cast_zero, Int.add_zero]
    omega
  case finish =>
    rintro _ s ⟨done, hd, -, -, hroom⟩
    rw [List.append_nil] at hd
    rw [hd] at hroom
    omega
  case step =>
    refine Triple.of_eq fun s ⟨done, hd, hcs, hiss, hroom⟩ => ?_
    have hj : done.length + 1 ≤ bills.length := by
      rw [← hd, List.length_append, List.length_cons]
      omega
    obtain ⟨hnum, -, -⟩ := Counter.advance_iterate_numbers now done.length c hroom
    by_cases hlast : c.transactionNumber.toInt + done.length = Int64.maxValue.toInt
    · -- the counter is at the largest number: handing it out fails
      refine Triple.bind ((nextNumber_fails now ref b .transaction hcs ?_).mono (fun _ h => h)
        (fun _ _ h => h) fun _ e => by rw [e]; exact hiss) fun _ => Triple.absurd _
      exact Int64.toInt_inj.1 (hnum.trans hlast)
    · refine Triple.bind (nextNumber_returns now ref b .transaction hcs ?_ ?_).anyFault fun n =>
        Triple.of_eq fun s' h => ?_
      · intro e
        have := congrArg Int64.toInt e
        simp only [Counter.number] at this
        omega
      · intro e
        have := congrArg Int64.toInt e
        simp only [Counter.number, Int64.toInt_zero] at this
        omega
      obtain ⟨-, rfl⟩ := h
      refine Triple.modify fun _ e => ⟨done ++ [inv], by rw [List.append_assoc]; exact hd, ?_,
        by rw [e]; exact hiss, by rw [List.length_append, List.length_singleton]; omega⟩
      rw [e, List.length_append, List.length_singleton, Function.iterate_succ_apply']
      show (s.withCounter b.regimeId b.region (·.advance .transaction now)).counter? _ _ = _
      rw [counter?_withCounter fun d => Counter.advance_key d .transaction now, hcs]
      rfl

theorem assignReferences_fails (now : Instant) (ref : BillRunRef) {b : BillRun} {c : Counter}
    (hc : s₀.counter? b.regimeId b.region = some c)
    (hfloor : 1 ≤ c.transactionNumber.toInt ∧ 10000 ≤ c.billRunNumber.toInt)
    (hroom : ¬ c.RoomFor (s₀.billableInvoices b.id).length)
    (hids : (s₀.invoices.map (·.id)).Nodup) :
    Triple (· = s₀) (BillRun.assignReferences now ref b) (fun _ _ => False)
      (fun s => s.issued = s₀.issued) := by
  unfold BillRun.assignReferences
  refine Triple.get_bind ?_
  by_cases ht : c.transactionNumber.toInt + (s₀.billableInvoices b.id).length ≤
    Int64.maxValue.toInt
  · -- every invoice is numbered; the bill run number or the file number is the one out of room
    refine Triple.bind (numberInvoices_returns now ref b (s₀.billableInvoices b.id) hc hfloor.1 ht
      (billable_ids_nodup hids b.id)).anyFault fun _ => Triple.of_eq fun s₁ e₁ => ?_
    obtain ⟨-, hbn, hfn⟩ := Counter.advance_iterate_numbers now _ c ht
    have hc₁ : s₁.counter? b.regimeId b.region =
        some ((·.advance .transaction now)^[(s₀.billableInvoices b.id).length] c) := by
      rw [e₁, counter?_withCounter (Counter.advance_iterate_key now .transaction _)]
      exact congrArg (Option.map _) hc
    have hiss₁ : s₁.issued = s₀.issued := by rw [e₁]; rfl
    by_cases hbmax : c.billRunNumber = Int64.maxValue
    · refine Triple.bind ((nextNumber_fails now ref b .billRun hc₁ (hbn.trans hbmax)).mono
        (fun _ h => h) (fun _ _ h => h) fun _ e => by rw [e]; exact hiss₁) fun _ => Triple.absurd _
    have hfmax : (s₀.billableInvoices b.id).length ≠ 0 ∧ c.fileNumber = Int64.maxValue := by
      by_contra hf
      exact hroom ⟨ht, hbmax, fun hk => fun e => hf ⟨hk, e⟩⟩
    refine Triple.bind (nextNumber_returns now ref b .billRun hc₁ (hbn.trans_ne hbmax) ?_).anyFault
      fun number => Triple.of_eq fun s₂ h => ?_
    · intro e
      have := congrArg Int64.toInt e
      simp only [Counter.number, hbn, Int64.toInt_zero] at this
      omega
    obtain ⟨-, e₂⟩ := h
    have hc₂ : s₂.counter? b.regimeId b.region = some
        (((·.advance .transaction now)^[(s₀.billableInvoices b.id).length] c).advance .billRun now) := by
      rw [e₂, counter?_withCounter fun d => Counter.advance_key d .billRun now, hc₁]
      rfl
    split
    · rename_i hempty
      exact absurd (List.isEmpty_iff_length_eq_zero.1 hempty) hfmax.1
    · refine Triple.bind ((next_fails .file b.regimeId b.region now hc₂ (hfn.trans hfmax.2)).mono
        (fun _ h => h) (fun _ _ h => h) fun _ e => by rw [e, e₂]; exact hiss₁) fun _ =>
          Triple.absurd _
  · have hover : Int64.maxValue.toInt <
        c.transactionNumber.toInt + (s₀.billableInvoices b.id).length := by omega
    exact Triple.bind (numberInvoices_fails now ref b _ hc hfloor.1 hover) fun _ =>
      Triple.absurd _

theorem send_fails (now : Instant) (ref : BillRunRef) {b : BillRun} {c : Counter}
    (hs : s₀.Sound) (hb : s₀.billRunIn? ref.regimeId ref.billRunId = some b)
    (hread : b.readable = true) (happ : b.status = .approved)
    (hc : s₀.counter? b.regimeId b.region = some c)
    (hfloor : 1 ≤ c.transactionNumber.toInt ∧ 10000 ≤ c.billRunNumber.toInt)
    (hroom : ¬ c.RoomFor (s₀.billableInvoices b.id).length) :
    Triple (· = s₀) (BillRun.send now ref) (fun _ _ => False) (· = s₀) := by
  have hids := hs.invoiceIds_nodup
  refine Triple.bind (billRunOf_some hb hread).anyFault fun b' => Triple.of_eq fun s h => ?_
  obtain ⟨rfl, rfl⟩ := h
  refine Triple.require_bind (fun h => absurd h (by simp [happ])) fun _ => ?_
  refine Triple.bind (Triple.atomically fun s e => ?_) fun _ => Triple.absurd _
  subst e
  exact (assignReferences_fails now ref hc hfloor hroom hids).mono (fun _ h => h)
    (fun _ _ h => h) fun s' e => by rw [e]

end Store

/-! ## The ledger a send leaves -/

namespace Store

variable {s : Store} {b : BillRun} {c : Counter} {now : Instant}

theorem sent_invoices : (s.sent b c now).invoices = s.invoices.map (Invoice.stamp
    (BillRun.referencesFrom b.region c.transactionNumber.toInt (s.billableInvoices b.id)) now) :=
  rfl

theorem sent_billRun? (hb : s.billRun? b.id = some b) :
    (s.sent b c now).billRun? b.id = some (b.numbered c.billRunNumber (s.fileOf b c) now) :=
  billRun?_mapBillRun_self (fun _ => rfl) hb

theorem sent_counter? (hc : s.counter? b.regimeId b.region = some c) :
    (s.sent b c now).counter? b.regimeId b.region =
      some (c.afterSend now (s.billableInvoices b.id).length) := by
  have hrows : (s.sent b c now).counter? b.regimeId b.region =
      ((s.stampInvoices (BillRun.referencesFrom b.region c.transactionNumber.toInt
        (s.billableInvoices b.id)) now).withCounter b.regimeId b.region
          (Counter.afterSend now (s.billableInvoices b.id).length)).counter? b.regimeId b.region :=
    rfl
  rw [hrows, counter?_withCounter (Counter.afterSend_key now _)]
  exact congrArg (Option.map _) hc

theorem sent_billed (hids : (s.invoices.map (·.id)).Nodup) (j : Nat)
    (hj : j < (s.billableInvoices b.id).length) :
    ∃ i ∈ (s.sent b c now).invoices, i.id = (s.billableInvoices b.id)[j].id ∧
      i.transactionReference = some (b.region.name ++
        (if (s.billableInvoices b.id)[j].tally.net < 0 then "C" else "I") ++
          TransactionFile.padded 7 (c.transactionNumber.toInt + j) ++ "T") := by
  have hmem : (s.billableInvoices b.id)[j] ∈ s.invoices :=
    (mem_invoicesOf.1 (List.mem_filter.1 (List.getElem_mem hj)).1).1
  refine ⟨_, List.mem_map_of_mem hmem, Invoice.stamp_id _ _ _, ?_⟩
  rw [Invoice.stamp_transactionReference,
    BillRun.lookup_referencesFrom _ (billable_ids_nodup hids b.id) _ j hj]
  rfl

theorem sent_unbilled {i : Invoice} (hi : i ∈ (s.sent b c now).invoices)
    (hnot : i.id ∉ (s.billableInvoices b.id).map (·.id)) :
    ∃ i₀ ∈ s.invoices, i₀.id = i.id ∧ i₀.billRunId = i.billRunId ∧
      i.transactionReference = i₀.transactionReference := by
  obtain ⟨i₀, hi₀, rfl⟩ := List.mem_map.1 hi
  refine ⟨i₀, hi₀, (Invoice.stamp_id _ _ _).symm, (Invoice.stamp_billRunId _ _ _).symm, ?_⟩
  rw [Invoice.stamp_id] at hnot
  rw [Invoice.stamp_transactionReference, BillRun.lookup_referencesFrom_eq_none _ _ hnot,
    Option.none_or]

end Store

theorem Task.perform_returns {env : Env} {t : Task} {s : Store} {Q : List Upload → Store → Prop}
    (h : Triple (· = s) (t.run env) Q (fun _ => False)) :
    ∃ s' ups, t.perform env s = (s', ups, none) ∧ Q ups s' := by
  obtain ⟨ups, s', hrun, hq⟩ := h.returns rfl
  exact ⟨s', ups, by rw [Task.perform, hrun], hq⟩

/-! ## Sending a bill run of a reachable ledger -/

/-- What sending bill run `b` of ledger `s` at `now`, with its transmission, leaves in ledger `s'`
with the files `ups` delivered under regime `slug`, `c` the counter of the bill run's regime and
region in `s`: the `j`-th of its billable invoices, in invoice order, carries the reference of the
`j`-th number from the counter's transaction number on, and no other invoice of the bill run
carries one; the bill run has the counter's bill run number; when it bills an invoice it has the
file of the counter's file number, made at `now` and delivered alone under the regime, and is
billed; when it bills none it has no file, nothing is delivered and it is billing not required;
and the counter has moved on by the invoices billed, one bill run and, when there is one, one
file. -/
structure SentAndFiled (s : Store) (b : BillRun) (c : Counter) (now : Instant) (slug : String)
    (s' : Store) (ups : List Upload) : Prop where
  billed : ∀ j (hj : j < (s.billableInvoices b.id).length), ∃ i ∈ s'.invoices,
    i.id = (s.billableInvoices b.id)[j].id ∧ i.transactionReference = some (b.region.name ++
      (if (s.billableInvoices b.id)[j].tally.net < 0 then "C" else "I") ++
        TransactionFile.padded 7 (c.transactionNumber.toInt + j) ++ "T")
  unbilled : ∀ i ∈ s'.invoices, i.billRunId = b.id → i.id ∉ (s.billableInvoices b.id).map (·.id) →
    i.transactionReference = none
  billRun : ∃ b', s'.billRun? b.id = some b' ∧ b'.billRunNumber = some c.billRunNumber ∧
    (s.billableInvoices b.id ≠ [] → b'.fileReference =
        some (TransactionFile.reference b.region.name c.fileNumber.toInt) ∧
      b'.fileCreatedAt = some now ∧ b'.status = .billed ∧
      ups.map (·.key) = [TransactionFile.storageKey slug
        (TransactionFile.reference b.region.name c.fileNumber.toInt)]) ∧
    (s.billableInvoices b.id = [] → b'.fileReference = none ∧ b'.status = .billingNotRequired ∧
      ups = [])
  counter : ∃ c', s'.counter? b.regimeId b.region = some c' ∧
    c'.transactionNumber.toInt = c.transactionNumber.toInt + (s.billableInvoices b.id).length ∧
    c'.billRunNumber.toInt = c.billRunNumber.toInt + 1 ∧
    c'.fileNumber.toInt = c.fileNumber.toInt + if s.billableInvoices b.id = [] then 0 else 1

/-- In a ledger reached with clocks that read back, sending an approved bill run whose counter
has room for it returns its transmission, which runs to its end without a notice where the file
store takes the upload and the clock reads back: its billable invoices are numbered in invoice
order from the counter's transaction number and no other invoice of the bill run carries a
reference, the bill run takes the counter's bill run number and, when it bills an invoice, the
file of the counter's file number, delivered alone, and ends billed, or without a file, nothing
delivered, billing not required; the counter moves on by as many numbers. -/
theorem Reachable.send_numbers_and_files {s : Store}
    (h : Reachable (fun env => env.now.storable = true) s) {env : Env}
    (henv : env.Reliable) {ref : BillRunRef} {b : BillRun} (hb : b ∈ s.billRuns)
    (hid : b.id = ref.billRunId) (hR : b.regimeId = ref.regimeId) (happ : b.status = .approved)
    {c : Counter} (hc : s.counter? b.regimeId b.region = some c)
    (hroom : c.RoomFor (s.billableInvoices b.id).length) :
    ∃ s₁, BillRun.send env.now ref s = .ok (.transmit ref) s₁ ∧
      ∃ s' ups, (Task.transmit ref).perform env s₁ = (s', ups, none) ∧
        SentAndFiled s b c env.now ref.regimeSlug s' ups := by
  have hs := h.consistent.sound
  have hids := hs.invoiceIds_nodup
  obtain ⟨hh, hu⟩ := h.handed
  have hrow : s.billRun? b.id = some b := hs.billRun?_of_mem hb
  have hfloor := hh.floors c (List.mem_of_find?_eq_some hc)
  have hread : b.readable = true := Reachable.legible (fun _ h => h) h b hb
  have hblank : s.Unnumbered b.id := hu b hb (by rw [happ]; rfl)
  obtain ⟨task, s₁, hsend, rfl, rfl⟩ := (Store.send_returns env.now ref hs
    (billRunIn?_of_billRun? (hid ▸ hrow) hR) hread happ hc ⟨hfloor.1, hfloor.2.1⟩ hroom).returns rfl
  have hcreated : b.createdAt.storable = true := by
    simp only [BillRun.readable, Bool.and_eq_true] at hread
    exact hread.1.1
  have hfile : ((s.fileOf b c).map fun _ => env.now).all Instant.storable = true := by
    cases s.fileOf b c <;> simp [henv.2]
  obtain ⟨s', ups, hperform, hs', hups⟩ := Task.perform_returns (t := .transmit ref)
    (Store.transmit_returns
    (b := b.numbered c.billRunNumber (s.fileOf b c) env.now) env henv ref
    (hid ▸ Store.sent_billRun? hrow) hR rfl hcreated hfile)
  refine ⟨_, hsend, s', ups, hperform, ⟨fun j hj => ?_, fun i hi hib hnot => ?_, ?_, ?_⟩⟩
  · rw [hs']
    exact Store.sent_billed hids j hj
  · rw [hs'] at hi
    obtain ⟨i₀, hi₀, hid₀, hib₀, href⟩ := Store.sent_unbilled hi hnot
    rw [href]
    exact hblank.2 i₀ hi₀ (hib₀.trans hib)
  · -- the bill run's row, numbered by the send and moved on by the transmission
    rw [← hid] at hs'
    have hrow' : s'.billRun? b.id = some { { b.numbered c.billRunNumber (s.fileOf b c) env.now with
        status := .sending, updatedAt := env.now } with
        status := if (s.fileOf b c).isSome then .billed else .billingNotRequired,
        updatedAt := env.now } := by
      rw [hs']
      exact billRun?_mapBillRun_self (fun _ => rfl)
        (billRun?_mapBillRun_self (fun _ => rfl) (Store.sent_billRun? hrow))
    have hups' : ups.map (·.key) = (s.fileOf b c).toList.map
        (TransactionFile.storageKey ref.regimeSlug) := hups
    refine ⟨_, hrow', rfl, fun hne => ?_, fun hnil => ?_⟩
    · have hf : s.fileOf b c = some (TransactionFile.reference b.region.name c.fileNumber.toInt) := by
        simp [Store.fileOf, hne]
      rw [hf] at hups'
      exact ⟨by simp [BillRun.numbered, hf], by simp [BillRun.numbered, hf], by simp [hf], hups'⟩
    · have hf : s.fileOf b c = none := by simp [Store.fileOf, hnil]
      rw [hf] at hups'
      exact ⟨by simp [BillRun.numbered, hf], by simp [hf], List.map_eq_nil_iff.1 hups'⟩
  · -- the counter, moved on by the send alone
    obtain ⟨ht, hbn, hfn⟩ := Counter.afterSend_numbers env.now _ c hroom
    rw [hs']
    refine ⟨_, Store.sent_counter? hc, ht, hbn, ?_⟩
    rw [hfn]
    simp only [List.length_eq_zero_iff]

/-- In a ledger reached with clocks that read back, sending an approved bill run numbers and files
it exactly when its counter has room for the invoices it bills, one bill run and, when it bills any, one file: the
send returns its transmission, which runs to its end where the file store takes the upload and
the clock reads back, and leaves what `SentAndFiled` says. Past the counter's room the send fails
and leaves the ledger as it was. -/
theorem Reachable.send_exactly_within_room {s : Store}
    (h : Reachable (fun env => env.now.storable = true) s) {env : Env}
    (henv : env.Reliable) {ref : BillRunRef} {b : BillRun} (hb : b ∈ s.billRuns)
    (hid : b.id = ref.billRunId) (hR : b.regimeId = ref.regimeId) (happ : b.status = .approved)
    {c : Counter} (hc : s.counter? b.regimeId b.region = some c) :
    (c.RoomFor (s.billableInvoices b.id).length →
      ∃ s₁, BillRun.send env.now ref s = .ok (.transmit ref) s₁ ∧
        ∃ s' ups, (Task.transmit ref).perform env s₁ = (s', ups, none) ∧
          SentAndFiled s b c env.now ref.regimeSlug s' ups) ∧
    (¬ c.RoomFor (s.billableInvoices b.id).length →
      ∃ e, BillRun.send env.now ref s = .error e s) := by
  refine ⟨h.send_numbers_and_files henv hb hid hR happ hc, fun hroom => ?_⟩
  have hs := h.consistent.sound
  obtain ⟨hh, -⟩ := h.handed
  have hfloor := hh.floors c (List.mem_of_find?_eq_some hc)
  have hread : b.readable = true := Reachable.legible (fun _ h => h) h b hb
  obtain ⟨e, s', hsend, rfl⟩ := (Store.send_fails env.now ref hs
    (billRunIn?_of_billRun? (hid ▸ hs.billRun?_of_mem hb) hR) hread happ hc
    ⟨hfloor.1, hfloor.2.1⟩ hroom).fails rfl
  exact ⟨e, hsend⟩

def approvedRun : Store :=
  Request.step tenPoundRules (.approve "wrls" (Uuid.ofSerial 36)) <|
  Request.step tenPoundRules (.generate "wrls" (Uuid.ofSerial 36)) <|
  Request.step tenPoundRules (.record "wrls" (Uuid.ofSerial 36) "system" srocLine) <|
  Request.step tenPoundRules (.create "wrls" "system" "A" "sroc") (Store.seeded ⟨0⟩)

theorem approvedRun_reachable : Reachable Env.Reliable approvedRun :=
  have hrel : tenPoundRules.Reliable := ⟨rfl, by decide⟩
  .step _ _ hrel <| .step _ _ hrel <| .step _ _ hrel <| .step _ _ hrel <| .seeded ⟨0⟩

theorem approvedRun_sent_exactly :
    ∃ b c, b ∈ approvedRun.billRuns ∧ b.status = .approved ∧
      approvedRun.counter? b.regimeId b.region = some c ∧
      c.RoomFor (approvedRun.billableInvoices b.id).length ∧
      (approvedRun.billableInvoices b.id).isEmpty = false ∧
      (c.RoomFor (approvedRun.billableInvoices b.id).length →
        ∃ s₁, BillRun.send tenPoundRules.now ⟨Uuid.ofSerial 27, "wrls", Uuid.ofSerial 36⟩
            approvedRun = .ok (.transmit ⟨Uuid.ofSerial 27, "wrls", Uuid.ofSerial 36⟩) s₁ ∧
          ∃ s' ups, (Task.transmit ⟨Uuid.ofSerial 27, "wrls", Uuid.ofSerial 36⟩).perform
              tenPoundRules s₁ = (s', ups, none) ∧
            SentAndFiled approvedRun b c tenPoundRules.now "wrls" s' ups) ∧
      (¬ c.RoomFor (approvedRun.billableInvoices b.id).length →
        ∃ e, BillRun.send tenPoundRules.now ⟨Uuid.ofSerial 27, "wrls", Uuid.ofSerial 36⟩
          approvedRun = .error e approvedRun) := by
  have hrel : tenPoundRules.Reliable := ⟨rfl, by decide⟩
  have hreach := approvedRun_reachable.mono fun _ h => h.2
  obtain ⟨b, hb⟩ := Option.isSome_iff_exists.1 (by decide +kernel :
    (approvedRun.billRun? (Uuid.ofSerial 36)).isSome = true)
  have hfacts : (approvedRun.billRun? (Uuid.ofSerial 36)).map (fun b =>
      (b.regimeId, b.status)) = some (Uuid.ofSerial 27, .approved) := by
    decide +kernel
  have hcounter : ((approvedRun.billRun? (Uuid.ofSerial 36)).bind fun b =>
      (approvedRun.counter? b.regimeId b.region).map fun c =>
        (decide (c.RoomFor (approvedRun.billableInvoices b.id).length),
          (approvedRun.billableInvoices b.id).isEmpty)) = some (true, false) := by
    decide +kernel
  rw [hb, Option.map_some, Option.some.injEq, Prod.mk.injEq] at hfacts
  rw [hb, Option.bind_some, Option.map_eq_some_iff] at hcounter
  obtain ⟨c, hc, hroom⟩ := hcounter
  simp only [Prod.mk.injEq, decide_eq_true_eq] at hroom
  have hbid : b.id = Uuid.ofSerial 36 := id_of_billRun? hb
  have hbmem := List.mem_of_find?_eq_some hb
  exact ⟨b, c, hbmem, hfacts.2, hc, hroom.1, hroom.2,
    hreach.send_exactly_within_room hrel hbmem hbid hfacts.1 hfacts.2 hc⟩

/-- `approvedRun` with the bill run number of its counter at the largest 64-bit number. No run of
requests written out here gets there (it takes that many bill runs); an operator sets the counter
table so. -/
def cappedRun : Store :=
  approvedRun.withCounter (Uuid.ofSerial 27) .A fun c => { c with billRunNumber := Int64.maxValue }

def yearTenThousand : Instant := ⟨253402300800000000000⟩

/-- Past its counter's room the send of an approved bill run is refused; and with a clock past
the year 9999 it is taken, but its transmission cannot read the bill run back, which is left
sending and never billed. -/
theorem send_fails_past_counter_or_clock :
    (∃ b c, b ∈ cappedRun.billRuns ∧ b.id = Uuid.ofSerial 36 ∧ b.status = .approved ∧
      cappedRun.counter? b.regimeId b.region = some c ∧ c.billRunNumber = Int64.maxValue ∧
      ¬ ∃ s₁, BillRun.send tenPoundRules.now ⟨Uuid.ofSerial 27, "wrls", Uuid.ofSerial 36⟩
        cappedRun = .ok (.transmit ⟨Uuid.ofSerial 27, "wrls", Uuid.ofSerial 36⟩) s₁) ∧
    Reachable (fun env => env.now.storable = true) approvedRun ∧
      approvedRun.statusOf (Uuid.ofSerial 36) = some .approved ∧
      yearTenThousand.storable = false ∧
      (Request.step { tenPoundRules with now := yearTenThousand } (.send "wrls" (Uuid.ofSerial 36))
        approvedRun).statusOf (Uuid.ofSerial 36) = some .sending := by
  refine ⟨?_, approvedRun_reachable.mono fun _ h => h.2, by decide +kernel, by decide +kernel,
    by decide +kernel⟩
  obtain ⟨b, hb⟩ := Option.isSome_iff_exists.1 (by decide +kernel :
    (cappedRun.billRun? (Uuid.ofSerial 36)).isSome = true)
  have hst : (cappedRun.billRun? (Uuid.ofSerial 36)).map (·.status) = some .approved := by
    decide +kernel
  have hcounter : ((cappedRun.billRun? (Uuid.ofSerial 36)).bind fun b =>
      (cappedRun.counter? b.regimeId b.region).map (·.billRunNumber)) = some Int64.maxValue := by
    decide +kernel
  have hfail : (EStateM.run' (BillRun.send tenPoundRules.now
      ⟨Uuid.ofSerial 27, "wrls", Uuid.ofSerial 36⟩) cappedRun).isNone = true := by
    decide +kernel
  rw [hb, Option.map_some, Option.some.injEq] at hst
  rw [hb, Option.bind_some, Option.map_eq_some_iff] at hcounter
  obtain ⟨c, hc, hmax⟩ := hcounter
  refine ⟨b, c, List.mem_of_find?_eq_some hb, id_of_billRun? hb, hst, hc, hmax, ?_⟩
  rintro ⟨s₁, hsend⟩
  delta EStateM.run' EStateM.run at hfail
  rw [hsend] at hfail
  exact Bool.false_ne_true hfail

def zeroRules : Env :=
  { now := ⟨0⟩, rules := fun _ => .answered 200 "\x7b\"calculation\":\x7b\"chargeValue\":0\x7d\x7d" }

def zeroRun : Store :=
  Request.step zeroRules (.approve "wrls" (Uuid.ofSerial 36)) <|
  Request.step zeroRules (.generate "wrls" (Uuid.ofSerial 36)) <|
  Request.step zeroRules (.record "wrls" (Uuid.ofSerial 36) "system" srocLine) <|
  Request.step zeroRules (.create "wrls" "system" "A" "sroc") (Store.seeded ⟨0⟩)

/-- Sent with a clock past the year 9999 and a file store that takes every upload, the approved
bill run of `zeroRun` is left sending between requests. -/
theorem zeroRun_left_sending_past_year_9999 :
    Reachable Env.Reliable zeroRun ∧ zeroRun.statusOf (Uuid.ofSerial 36) = some .approved ∧
      yearTenThousand.storable = false ∧
      ({ now := yearTenThousand } : Env).uploadRefusal = none ∧
      (Request.step { now := yearTenThousand } (.send "wrls" (Uuid.ofSerial 36))
        zeroRun).statusOf (Uuid.ofSerial 36) = some .sending := by
  have hrel : zeroRules.Reliable := ⟨rfl, by decide⟩
  refine ⟨.step _ _ hrel <| .step _ _ hrel <| .step _ _ hrel <| .step _ _ hrel <| .seeded ⟨0⟩,
    by decide +kernel, by decide +kernel, rfl, by decide +kernel⟩

end ChargeLedger
