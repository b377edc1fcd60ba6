import Mathlib
import ChargeLedger.Proofs.Csv
import ChargeLedger.Proofs.ChargeDates
import ChargeLedger.Proofs.SentExactly

/-!
# The transaction file reads back

A transaction file read with a comma-separated reader gives back its records: the header, one
body record per line billed, numbered from 1 in file order, and the tail. The header shows the
file number a one-letter region's file reference was made from, as the reference is cut at its
fifth octet; each body record has the width of its ruleset; its line attributes show as the
line's kind calls for: an ordinary line all but attributes 11 and 12, a compensation charge only
those two, a minimum charge adjustment none.
-/

set_option autoImplicit false

namespace ChargeLedger.TransactionFile

open Utf8

/-! ## The file number in the header -/

theorem padded_ascii (w : Nat) (n : Int) : ∀ c ∈ (padded w n).toList, isAscii c = true := by
  have hdigits : ∀ c ∈ (toString n.natAbs).toList, isAscii c = true := by
    rw [Nat.toString_eq_ofList_toDigits, String.toList_ofList]
    exact fun c hc =>
      ChargeDate.isAscii_of_isDigit (Nat.isDigit_of_mem_toDigits (by decide) (by decide) hc)
  have hzeros : ∀ k, ∀ c ∈ (String.ofList (List.replicate k '0')).toList, isAscii c = true := by
    intro k c hc
    rw [String.toList_ofList] at hc
    rw [List.eq_of_mem_replicate hc]
    rfl
  intro c hc
  unfold padded at hc
  dsimp only at hc
  split_ifs at hc
  · simp only [String.toList_append, List.mem_append] at hc
    rcases hc with hc | hc | hc
    · have hminus : c = '-' := by simpa using hc
      rw [hminus]
      rfl
    · exact hzeros _ c hc
    · exact hdigits c hc
  · simp only [String.toList_append, List.mem_append] at hc
    exact hc.elim (hzeros _ c) (hdigits c)

theorem toList_reference (r : String) (f : Int) :
    (reference r f).toList = ['n', 'a', 'l'] ++ (Case.lowerText r).toList ++ 'i' :: (padded 5 f).toList := by
  simp [reference, String.toList_append, List.append_assoc]

theorem fileNumberOf_reference {b : BillRun} {r : String} {f : Int}
    (href : b.fileReference = some (reference r f)) (hr : r.length = 1)
    (hascii : ∀ c ∈ r.toList, isAscii c = true) : fileNumberOf b = padded 5 f := by
  obtain ⟨c, hc⟩ : ∃ c, r.toList = [c] :=
    List.length_eq_one_iff.1 (by rw [String.length_toList]; exact hr)
  have hc128 : c.toNat < 128 := by simpa [isAscii] using hascii c (by simp [hc])
  have hlower : (Case.lowerText r).toList = [Case.lower c] := by
    simp [Case.lowerText, hc]
  have hlc : isAscii (Case.lower c) = true := by
    simp only [isAscii, decide_eq_true_eq, ChargeDate.toNat_lower_ascii hc128]
    split_ifs <;> omega
  have hchars : (reference r f).toList =
      ['n', 'a', 'l', Case.lower c, 'i'] ++ (padded 5 f).toList := by
    rw [toList_reference, hlower]
    rfl
  have hascii' : ∀ x ∈ (reference r f).toList, isAscii x = true := by
    rw [hchars]
    intro x hx
    simp only [List.cons_append, List.nil_append, List.mem_cons] at hx
    rcases hx with rfl | rfl | rfl | rfl | rfl | hx
    · rfl
    · rfl
    · rfl
    · exact hlc
    · rfl
    · exact padded_ascii 5 f x hx
  have hlen : ¬ (octets (reference r f)).length < 5 := by
    rw [octets_ascii hascii', List.length_map, hchars]
    simp
  rw [fileNumberOf, href]
  dsimp only
  rw [if_neg hlen, dropOctets_ascii hascii', hchars]
  simp

/-! ## Body records -/

def columns : Ruleset → Nat
  | .presroc => 43
  | .sroc => 46

def attributeColumns : Ruleset → Nat
  | .presroc => 14
  | .sroc => 15

def attributeShown (t : Transaction) (k : Nat) (v : String) : String :=
  if t.minimumChargeAdjustment then ""
  else if t.compensation then (if k = 10 ∨ k = 11 then v else "")
  else if k = 10 ∨ k = 11 then "" else v

theorem getElem?_detail (t : Transaction) (attrs : List String) (k : Nat) :
    (detail t attrs)[k]? = attrs[k]?.map (attributeShown t k) := by
  unfold detail
  rw [List.getElem?_map]
  by_cases hk : k < attrs.length
  · rw [List.getElem?_eq_getElem (by simpa using hk), List.getElem_zip, List.getElem_range,
      List.getElem?_eq_getElem hk, Option.map_some, Option.map_some]
    congr 1
    -- the two flags and the column settle which branch shows the attribute
    simp only [attributeShown]
    cases t.compensation <;> cases t.minimumChargeAdjustment <;> by_cases h10 : k = 10 <;>
      by_cases h11 : k = 11 <;> simp [h10, h11]
  · rw [List.getElem?_eq_none (by simp; omega), List.getElem?_eq_none (by omega)]
    rfl

theorem getElem?_attributes (t : Transaction) {n k : Nat} (hk : k < n) :
    ((List.range n).map fun j => t.lineAttr (j + 1))[k]? = some (t.lineAttr (k + 1)) := by
  rw [List.getElem?_map, List.getElem?_range hk, Option.map_some]

theorem length_body (ruleset : Ruleset) (index : Nat) (row : Row) (fileDate : Instant) :
    (body ruleset index row fileDate).length = columns ruleset := by
  cases ruleset <;> simp [body, leading, detail, columns]

theorem getElem?_body_attribute {ruleset : Ruleset} {k : Nat} (hk : k < attributeColumns ruleset)
    (index : Nat) (row : Row) (fileDate : Instant) :
    (body ruleset index row fileDate)[25 + k]? =
      some (attributeShown row.line k (row.line.lineAttr (k + 1))) := by
  have hlead : (leading index row fileDate).length = 25 := rfl
  cases ruleset with
  | presroc =>
    have hk' : k < 14 := hk
    rw [body, List.getElem?_append_left (by simp [hlead, detail]; omega),
      List.getElem?_append_right (by omega), hlead, Nat.add_sub_cancel_left, getElem?_detail,
      getElem?_attributes _ hk', Option.map_some]
  | sroc =>
    have hk' : k < 15 := hk
    rw [body, List.getElem?_append_left (by simp [hlead, detail]; omega),
      List.getElem?_append_right (by omega), hlead, Nat.add_sub_cancel_left, getElem?_detail,
      getElem?_attributes _ hk', Option.map_some]

/-- A body record numbered `index` for `row`, in a ruleset: its width, kind and number, and its
line attribute columns by the kind of line. -/
structure BodyRecord (ruleset : Ruleset) (index : Nat) (row : Row) (fields : List String) :
    Prop where
  width : fields.length = columns ruleset
  kind : fields[0]? = some "D"
  number : fields[1]? = some (padded 7 index)
  ordinary : row.line.compensation = false → row.line.minimumChargeAdjustment = false →
    ∀ k < attributeColumns ruleset,
      fields[25 + k]? = some (if k = 10 ∨ k = 11 then "" else row.line.lineAttr (k + 1))
  adjustment : row.line.minimumChargeAdjustment = true →
    ∀ k < attributeColumns ruleset, fields[25 + k]? = some ""
  compensation : row.line.compensation = true → row.line.minimumChargeAdjustment = false →
    ∀ k < attributeColumns ruleset,
      fields[25 + k]? = some (if k = 10 ∨ k = 11 then row.line.lineAttr (k + 1) else "")

theorem body_record (ruleset : Ruleset) (index : Nat) (row : Row) (fileDate : Instant) :
    BodyRecord ruleset index row (body ruleset index row fileDate) where
  width := length_body ruleset index row fileDate
  kind := by cases ruleset <;> rfl
  number := by cases ruleset <;> rfl
  ordinary hc ha k hk := by
    rw [getElem?_body_attribute hk, attributeShown, if_neg (by simp [ha]), if_neg (by simp [hc])]
  adjustment ha k hk := by rw [getElem?_body_attribute hk, attributeShown, if_pos ha]
  compensation hc ha k hk := by
    rw [getElem?_body_attribute hk, attributeShown, if_neg (by simp [ha]), if_pos hc]

/-! ## The order of body records -/

theorem rowOrder_eq : rowOrder = compareLex (compareOn fun r : Row => r.reference)
    (compareLex (compareOn fun r : Row => r.line.licenceNumber)
      (compareLex (compareOn fun r : Row => r.line.compensation)
        (compareLex (compareOn fun r : Row => r.line.createdAt.storedText)
          (compareOn fun r : Row => r.line.id.value)))) := rfl

instance : Std.TransCmp rowOrder := by
  rw [rowOrder_eq]
  infer_instance

theorem sortBy_pairwise {α : Type} (cmp : α → α → Ordering) [Std.TransCmp cmp] (xs : List α) :
    (Store.sortBy cmp xs).Pairwise fun a b => cmp a b ≠ .gt := by
  refine (@List.pairwise_mergeSort α (fun a b => cmp a b != .gt)
    (fun a b c hab hbc => ?_) (fun a b => ?_) _).imp fun h => by simpa using h
  · simp only [bne_iff_ne, ne_eq] at hab hbc ⊢
    exact Std.TransCmp.le_trans hab hbc
  · by_cases h : cmp a b = .gt
    · simpa [h] using Std.OrientedCmp.not_gt_of_gt h
    · simp [h]

theorem rows_sorted (s : Store) (billRun : Uuid) :
    (rows s billRun).Pairwise fun a b => rowOrder a b ≠ .gt :=
  sortBy_pairwise rowOrder _

/-! ## The records of a file -/

def records (s : Store) (b : BillRun) (fileDate : Instant) : List (List String) :=
  header b fileDate :: ((rows s b.id).zip (List.range (rows s b.id).length)).map
    (fun (r, i) => body b.ruleset (i + 1) r fileDate) ++ [tail b (rows s b.id).length]

variable {s : Store} {b : BillRun} {fileDate : Instant}

theorem render_fst : (render s b fileDate).1 = String.join ((records s b fileDate).map recordLine) :=
  rfl

theorem length_records : (records s b fileDate).length = (rows s b.id).length + 2 := by
  simp [records]

theorem getElem?_records_body {i : Nat} (hi : i < (rows s b.id).length) :
    (records s b fileDate)[i + 1]? = some (body b.ruleset (i + 1) (rows s b.id)[i] fileDate) := by
  rw [records, List.getElem?_append_left (by simpa using hi), List.getElem?_cons_succ,
    List.getElem?_map, List.getElem?_eq_getElem (by simpa using hi), List.getElem_zip,
    List.getElem_range, Option.map_some]

theorem getElem?_records_tail :
    (records s b fileDate)[(rows s b.id).length + 1]? = some (tail b (rows s b.id).length) := by
  rw [records, List.getElem?_append_right (by simp)]
  simp

theorem records_ne_nil : ∀ r ∈ records s b fileDate, r ≠ [] := by
  intro r hr
  simp only [records, List.mem_append, List.mem_cons, List.mem_map, List.not_mem_nil,
    or_false] at hr
  rcases hr with (rfl | ⟨⟨row, i⟩, -, rfl⟩) | rfl
  · simp [header]
  · exact List.ne_nil_of_length_pos (by rw [length_body]; cases b.ruleset <;> decide)
  · simp [tail]

theorem parse_render : Csv.parse (render s b fileDate).1 = some (records s b fileDate) := by
  rw [render_fst]
  exact Csv.parse_join_recordLine records_ne_nil

/-! ## What a transaction file reads as -/

/-- A bill run's transaction file, read with a comma-separated reader, gives back, whatever its
fields hold: the header, showing the file number the bill run's reference was made from when
its region is one ASCII letter; a body record for each line billed, in file order and numbered
from 1, as wide as its ruleset calls for and its attribute columns as the line's kind calls for;
and the tail with the count of records and the bill run's values. -/
theorem render_reads_back {s : Store} {b : BillRun} {fileDate : Instant} {r : String} {f : Int}
    (href : b.fileReference = some (reference r f)) (hr : r.length = 1)
    (hascii : ∀ c ∈ r.toList, isAscii c = true) :
    ∃ recs, Csv.parse (render s b fileDate).1 = some recs ∧
      recs.length = (rows s b.id).length + 2 ∧
      recs[0]? = some ["H", "0000000", "NAL", b.region.name, "I", padded 5 f, billRunNumberOf b,
        ChargeDate.format fileDate.date] ∧
      (∀ i (hi : i < (rows s b.id).length), ∃ fields, recs[i + 1]? = some fields ∧
        BodyRecord b.ruleset (i + 1) (rows s b.id)[i] fields) ∧
      recs[(rows s b.id).length + 1]? = some ["T", padded 7 ((rows s b.id).length + 1),
        toString ((rows s b.id).length + 2), toString b.summary.invoiceValue.toInt,
        toString (-b.summary.creditNoteValue).toInt] ∧
      (rows s b.id).Pairwise fun x y => rowOrder x y ≠ .gt := by
  refine ⟨records s b fileDate, parse_render, length_records, ?_,
    fun i hi => ⟨_, getElem?_records_body hi, body_record _ _ _ _⟩, ?_, rows_sorted s b.id⟩
  · rw [records, List.getElem?_append_left (by simp), List.getElem?_cons_zero, header,
      fileNumberOf_reference href hr hascii]
    rfl
  · simp only [getElem?_records_tail, tail, recordIndex]

def sentRun : Store := Request.step tenPoundRules (.send "wrls" (Uuid.ofSerial 36)) approvedRun

theorem sentRun_file_reads_back :
    ∃ b ∈ sentRun.billRuns, b.fileReference = some (reference "A" 50000) ∧
      (rows sentRun b.id).length = 1 ∧
      ∃ recs, Csv.parse (render sentRun b ⟨0⟩).1 = some recs ∧
        recs.length = (rows sentRun b.id).length + 2 ∧
        recs[0]? = some ["H", "0000000", "NAL", b.region.name, "I", padded 5 50000,
          billRunNumberOf b, ChargeDate.format (Instant.date ⟨0⟩)] ∧
        (∀ i (hi : i < (rows sentRun b.id).length), ∃ fields, recs[i + 1]? = some fields ∧
          BodyRecord b.ruleset (i + 1) (rows sentRun b.id)[i] fields) ∧
        recs[(rows sentRun b.id).length + 1]? = some ["T",
          padded 7 ((rows sentRun b.id).length + 1), toString ((rows sentRun b.id).length + 2),
          toString b.summary.invoiceValue.toInt, toString (-b.summary.creditNoteValue).toInt] ∧
        (rows sentRun b.id).Pairwise fun x y => rowOrder x y ≠ .gt := by
  obtain ⟨b, hb⟩ := Option.isSome_iff_exists.1 (by decide +kernel :
    (sentRun.billRun? (Uuid.ofSerial 36)).isSome = true)
  have href : (sentRun.billRun? (Uuid.ofSerial 36)).map (·.fileReference) =
      some (some (reference "A" 50000)) := by
    decide +kernel
  have hrows : (rows sentRun (Uuid.ofSerial 36)).length = 1 := by decide +kernel
  rw [hb, Option.map_some, Option.some.injEq] at href
  have hbid : b.id = Uuid.ofSerial 36 := Store.id_of_billRun? hb
  have hascii : ∀ c ∈ "A".toList, isAscii c = true :=
    List.all_eq_true.1 (by decide : "A".toList.all isAscii = true)
  rw [← hbid] at hrows
  exact ⟨b, List.mem_of_find?_eq_some hb, href, hrows, render_reads_back href rfl hascii⟩

def percentRules : Env :=
  { now := ⟨0⟩,
    rules := fun _ => .answered 200
      "\x7b\"calculation\":\x7b\"chargeValue\":10,\"compensationChargePercent\":0.5\x7d\x7d" }

def percentRun : Store :=
  Request.step percentRules (.send "wrls" (Uuid.ofSerial 36)) <|
  Request.step percentRules (.approve "wrls" (Uuid.ofSerial 36)) <|
  Request.step percentRules (.generate "wrls" (Uuid.ofSerial 36)) <|
  Request.step percentRules (.record "wrls" (Uuid.ofSerial 36) "system" srocLine) <|
  Request.step percentRules (.create "wrls" "system" "A" "sroc") (Store.seeded ⟨0⟩)

/-- The one line `percentRun` bills is an ordinary line carrying attribute 11, yet column 36 of
its record, as the file reads back, is blank. -/
theorem percentRun_file_blanks_attribute_eleven :
    ∃ b, percentRun.billRun? (Uuid.ofSerial 36) = some b ∧ ∃ row fields,
      (rows percentRun b.id)[0]? = some row ∧ row.line.compensation = false ∧
      row.line.minimumChargeAdjustment = false ∧ row.line.lineAttr 11 = "0.5" ∧
      (Csv.parse (render percentRun b ⟨0⟩).1).bind (fun recs => recs[1]?) = some fields ∧
      fields[35]? = some "" := by
  obtain ⟨b, hb⟩ := Option.isSome_iff_exists.1 (by decide +kernel :
    (percentRun.billRun? (Uuid.ofSerial 36)).isSome = true)
  obtain ⟨row, hrow⟩ := Option.isSome_iff_exists.1 (by decide +kernel :
    (rows percentRun (Uuid.ofSerial 36))[0]?.isSome = true)
  have hkind : ((rows percentRun (Uuid.ofSerial 36))[0]?).map (fun r =>
      (r.line.compensation, r.line.minimumChargeAdjustment, r.line.lineAttr 11)) =
      some (false, false, "0.5") := by
    decide +kernel
  rw [hrow, Option.map_some, Option.some.injEq, Prod.mk.injEq, Prod.mk.injEq] at hkind
  rw [← Store.id_of_billRun? hb] at hrow
  obtain ⟨hlen, hget⟩ := List.getElem?_eq_some_iff.1 hrow
  have hblank := (body_record b.ruleset 1 row ⟨0⟩).ordinary hkind.1 hkind.2.1 10
    (by cases b.ruleset <;> decide)
  rw [if_pos (Or.inl rfl)] at hblank
  refine ⟨b, hb, row, _, hrow, hkind.1, hkind.2.1, hkind.2.2, ?_, hblank⟩
  rw [parse_render, Option.bind_some, ← hget]
  exact getElem?_records_body hlen

end ChargeLedger.TransactionFile
