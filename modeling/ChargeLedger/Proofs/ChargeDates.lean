import Mathlib
import ChargeLedger.ChargeDate
import ChargeLedger.Proofs.Ascii

/-!
# Charge dates print and read back

A date is written `DD-MMM-YYYY` with its month in upper case, and read in that shape with the
month in any case, as `YYYY-MM-DD` or as `DD/MM/YYYY`. The reading is taken apart from both ends:
each field written in a fixed number of digits reads back as its number and nothing else
(`Writes`), and each reader accepts exactly the texts its shape builds (`readNamed_eq_some` and
its kin). The third character tells the shapes apart, so the order in which they are tried never
matters. The casing of the month before reading changes no letter's upper case, which is why a
text in the named shape formats back as itself in upper case.
-/

set_option autoImplicit false

namespace ChargeLedger.ChargeDate

/-! ## Characters and case -/

theorem toNat_ofNat_small {n : Nat} (h : n < 0xD800) : (Char.ofNat n).toNat = n := by
  simp [Char.ofNat, Nat.isValidChar, h, Char.ofNatAux, Char.toNat]

theorem char_le_iff {a b : Char} : a ≤ b ↔ a.toNat ≤ b.toNat := by
  rw [Char.le_def, UInt32.le_iff_toNat_le]; rfl

theorem toNat_asciiLower (c : Char) :
    (asciiLower c).toNat = if 65 ≤ c.toNat ∧ c.toNat ≤ 90 then c.toNat + 32 else c.toNat := by
  unfold asciiLower
  simp only [Bool.and_eq_true, decide_eq_true_eq, char_le_iff]
  have hA : 'A'.toNat = 65 := rfl
  have hZ : 'Z'.toNat = 90 := rfl
  rw [hA, hZ]
  split
  · exact toNat_ofNat_small (by omega)
  · rfl

theorem toNat_upper_ascii {c : Char} (h : c.toNat < 128) :
    (Case.upper c).toNat = if 97 ≤ c.toNat ∧ c.toNat ≤ 122 then c.toNat - 32 else c.toNat := by
  unfold Case.upper
  simp only [Bool.and_eq_true, decide_eq_true_eq, char_le_iff]
  have ha : 'a'.toNat = 97 := rfl
  have hz : 'z'.toNat = 122 := rfl
  rw [ha, hz]
  split
  · exact toNat_ofNat_small (by omega)
  · rfl

theorem toNat_lower_ascii {c : Char} (h : c.toNat < 128) :
    (Case.lower c).toNat = if 65 ≤ c.toNat ∧ c.toNat ≤ 90 then c.toNat + 32 else c.toNat := by
  unfold Case.lower
  simp only [Bool.and_eq_true, decide_eq_true_eq, char_le_iff]
  have hA : 'A'.toNat = 65 := rfl
  have hZ : 'Z'.toNat = 90 := rfl
  rw [hA, hZ]
  split
  · exact toNat_ofNat_small (by omega)
  · rfl

theorem upper_eq_of_asciiLower {x y : Char} (hx : x.toNat < 128) (hy : y.toNat < 128)
    (h : asciiLower x = asciiLower y) : Case.upper x = Case.upper y := by
  have e := congrArg Char.toNat h
  rw [toNat_asciiLower, toNat_asciiLower] at e
  apply Char.toNat_inj.1
  rw [toNat_upper_ascii hx, toNat_upper_ascii hy]
  split_ifs at e ⊢ <;> omega

theorem asciiLower_upper {c : Char} (h : c.toNat < 128) : asciiLower (Case.upper c) = asciiLower c := by
  apply Char.toNat_inj.1
  rw [toNat_asciiLower, toNat_asciiLower, toNat_upper_ascii h]
  split_ifs <;> omega

theorem asciiLower_lower {c : Char} (h : c.toNat < 128) : asciiLower (Case.lower c) = asciiLower c := by
  apply Char.toNat_inj.1
  rw [toNat_asciiLower, toNat_asciiLower, toNat_lower_ascii h]
  split_ifs <;> omega

theorem upper_upper {c : Char} (h : Utf8.isAscii c = true) : Case.upper (Case.upper c) = Case.upper c := by
  have hc : c.toNat < 128 := by simpa [Utf8.isAscii] using h
  have hu : (Case.upper c).toNat < 128 := by rw [toNat_upper_ascii hc]; split_ifs <;> omega
  exact upper_eq_of_asciiLower hu hc (asciiLower_upper hc)

theorem upper_lower {c : Char} (h : Utf8.isAscii c = true) : Case.upper (Case.lower c) = Case.upper c := by
  have hc : c.toNat < 128 := by simpa [Utf8.isAscii] using h
  have hl : (Case.lower c).toNat < 128 := by rw [toNat_lower_ascii hc]; split_ifs <;> omega
  exact upper_eq_of_asciiLower hl hc (asciiLower_lower hc)

/-! ## Numbers of a fixed width -/

/-- `ds` writes the number `n` in exactly `k` decimal digits. -/
structure Writes (ds : List Char) (k n : Nat) : Prop where
  length : ds.length = k
  digit : ∀ c ∈ ds, c.isDigit = true
  value : Nat.ofDigitChars 10 ds 0 = n

theorem toNat_of_isDigit {c : Char} (h : c.isDigit = true) : 48 ≤ c.toNat ∧ c.toNat ≤ 57 :=
  Char.isDigit_iff_toNat.1 h

theorem ofDigitChars_cons_zero (c : Char) (cs : List Char) :
    Nat.ofDigitChars 10 (c :: cs) 0 = 10 ^ cs.length * (c.toNat - 48) + Nat.ofDigitChars 10 cs 0 := by
  rw [Nat.ofDigitChars_cons, Nat.ofDigitChars_eq_ofDigitChars_zero, Nat.mul_zero, Nat.zero_add]
  rfl

theorem ofDigitChars_lt {ds : List Char} (h : ∀ c ∈ ds, c.isDigit = true) :
    Nat.ofDigitChars 10 ds 0 < 10 ^ ds.length := by
  induction ds with
  | nil => simp
  | cons c ds ih =>
    have hc := toNat_of_isDigit (h c (by simp))
    have hr := ih fun d hd => h d (List.mem_cons_of_mem c hd)
    have hm : 10 ^ ds.length * (c.toNat - 48) ≤ 10 ^ ds.length * 9 :=
      Nat.mul_le_mul_left _ (by omega)
    rw [ofDigitChars_cons_zero, List.length_cons, Nat.pow_succ]
    omega

theorem Writes.unique {a b : List Char} {k n : Nat} (ha : Writes a k n) (hb : Writes b k n) :
    a = b := by
  induction a generalizing b k n with
  | nil => rw [List.length_eq_zero_iff.1 (hb.length.trans ha.length.symm)]
  | cons x a ih =>
    obtain ⟨y, b, rfl⟩ : ∃ y b', b = y :: b' := List.exists_cons_of_length_pos (by
      rw [hb.length, ← ha.length]; simp)
    have hlen : b.length = a.length := by
      have := hb.length.trans ha.length.symm
      simpa using this
    have hx := toNat_of_isDigit (ha.digit x (by simp))
    have hy := toNat_of_isDigit (hb.digit y (by simp))
    have hra := ofDigitChars_lt fun d hd => ha.digit d (List.mem_cons_of_mem x hd)
    have hrb := ofDigitChars_lt fun d hd => hb.digit d (List.mem_cons_of_mem y hd)
    have e := ha.value.trans hb.value.symm
    rw [ofDigitChars_cons_zero, ofDigitChars_cons_zero, hlen] at e
    rw [hlen] at hrb
    -- the leading digits agree: a smaller one would leave the number short
    have hlead : x.toNat - 48 = y.toNat - 48 := by
      rcases Nat.lt_trichotomy (x.toNat - 48) (y.toNat - 48) with hlt | heq | hgt
      · have := Nat.mul_le_mul_left (10 ^ a.length) (Nat.succ_le_of_lt hlt)
        rw [Nat.mul_succ] at this
        omega
      · exact heq
      · have := Nat.mul_le_mul_left (10 ^ a.length) (Nat.succ_le_of_lt hgt)
        rw [Nat.mul_succ] at this
        omega
    have hxy : x = y := Char.toNat_inj.1 (by omega)
    subst hxy
    rw [hlead] at e
    have hrest : Writes a a.length (Nat.ofDigitChars 10 a 0) :=
      ⟨rfl, fun d hd => ha.digit d (List.mem_cons_of_mem x hd), rfl⟩
    rw [ih hrest ⟨hlen, fun d hd => hb.digit d (List.mem_cons_of_mem x hd), by omega⟩]

theorem digits_append {ds : List Char} {k n : Nat} (h : Writes ds k n) (rest : List Char) :
    digits (ds ++ rest) k = some (n, rest) := by
  obtain ⟨hk, hd, hv⟩ := h
  subst hk hv
  simp [digits, Instant.digitsN, List.all_eq_true.2 hd, Nat.ofDigitChars, Nat.mul_comm]

theorem digits_eq_some {cs rest : List Char} {k n : Nat} (h : digits cs k = some (n, rest)) :
    ∃ ds, cs = ds ++ rest ∧ Writes ds k n := by
  simp only [digits, Instant.digitsN] at h
  split at h
  · rename_i hc
    simp only [Option.some.injEq, Prod.mk.injEq] at h
    obtain ⟨rfl, rfl⟩ := h
    simp only [Bool.and_eq_true, beq_iff_eq, List.all_eq_true] at hc
    exact ⟨cs.take k, (List.take_append_drop k cs).symm, hc.1, hc.2, by
      simp [Nat.ofDigitChars, Nat.mul_comm]⟩
  · exact absurd h (by simp)

theorem writes_toDigits (n : Nat) : Writes (Nat.toDigits 10 n) (Nat.toDigits 10 n).length n :=
  ⟨rfl, fun _ h => Nat.isDigit_of_mem_toDigits (by decide) (by decide) h,
    Nat.ofDigitChars_ten_toDigits⟩

theorem Writes.zeros {ds : List Char} {k n : Nat} (h : Writes ds k n) (z : Nat) :
    Writes (List.replicate z '0' ++ ds) (z + k) n where
  length := by rw [List.length_append, List.length_replicate, h.length]
  digit c hc := by
    rcases List.mem_append.1 hc with hc | hc
    · rw [List.eq_of_mem_replicate hc]; rfl
    · exact h.digit c hc
  value := by rw [Nat.ofDigitChars_append, Nat.ofDigitChars_replicate_zero, Nat.mul_zero, h.value]

theorem length_toDigits_le {n k : Nat} (h : n < 10 ^ k) (hk : 0 < k) :
    (Nat.toDigits 10 n).length ≤ k :=
  (Nat.length_toDigits_le_iff (by decide) hk).2 h

theorem writes_pad2 {n : Nat} (h : n < 100) : Writes (Date.pad2 n).toList 2 n := by
  unfold Date.pad2
  split
  · rename_i hn
    have hw := (writes_toDigits n).zeros 1
    rw [Nat.toDigits_of_lt_base hn] at hw
    simpa [Nat.toString_eq_ofList_toDigits, Nat.toDigits_of_lt_base hn] using hw
  · rename_i hn
    have hlen : (Nat.toDigits 10 n).length = 2 := by
      have h2 := length_toDigits_le (n := n) (k := 2) h (by decide)
      have h1 : ¬ (Nat.toDigits 10 n).length ≤ 1 := fun h1 =>
        hn ((Nat.length_toDigits_le_iff (by decide) (by decide)).1 h1)
      omega
    have hw := writes_toDigits n
    rw [hlen] at hw
    simpa using hw

theorem writes_pad4 {y : Int} (h0 : 0 ≤ y) (h : y ≤ 9999) :
    Writes (Date.pad4 y).toList 4 y.toNat := by
  have hn : y.natAbs < 10 ^ 4 := by omega
  have hlen := length_toDigits_le hn (by decide)
  have hw := (writes_toDigits y.natAbs).zeros (4 - (Nat.toDigits 10 y.natAbs).length)
  rw [Nat.sub_add_cancel hlen] at hw
  have hy : y.natAbs = y.toNat := by omega
  have hl : y.toNat.repr.length = (Nat.toDigits 10 y.toNat).length := by
    rw [← Nat.toList_repr, String.length_toList]
  simpa [Date.pad4, show ¬ y < 0 by omega, hy, hl] using hw
/-! ## The three readers -/

theorem sep_eq_some {c : Char} {cs r : List Char} (h : sep c cs = some r) : cs = c :: r := by
  unfold sep at h
  split at h
  · split at h
    · rename_i d r' hd
      simp only [Option.some.injEq] at h
      simp_all
    · exact absurd h (by simp)
  · exact absurd h (by simp)

@[simp] theorem sep_cons (c : Char) (r : List Char) : sep c (c :: r) = some r := by
  simp [sep]

theorem finish_eq_some {y m d : Nat} {rest : List Char} {date : Date}
    (h : finish y m d rest = some date) : rest = [] ∧ date = ⟨y, m, d⟩ ∧ date.valid = true := by
  unfold finish at h
  dsimp only at h
  split at h
  · rename_i hc
    simp only [Option.some.injEq] at h
    subst h
    simp only [Bool.and_eq_true, List.isEmpty_iff] at hc
    exact ⟨hc.1, rfl, hc.2⟩
  · exact absurd h (by simp)

theorem finish_nil (y m d : Nat) :
    finish y m d [] = if (⟨y, m, d⟩ : Date).valid then some ⟨y, m, d⟩ else none := by
  simp [finish]

theorem monthAt_append {M : List Char} (hM : M.length = 3) (rest : List Char) :
    monthAt (M ++ rest) = ((monthNames.zip (List.range 12)).find?
      (fun p => p.1.toList.map asciiLower == M.map asciiLower)).map (fun p => (p.2 + 1, rest)) := by
  unfold monthAt
  rw [List.take_left' hM, List.drop_left' hM]
  dsimp only
  split
  · rename_i h
    rw [h]
    rfl
  · rename_i h
    rw [h]
    rfl

theorem find_monthName : ∀ i < 12, (monthNames.zip (List.range 12)).find?
    (fun p => p.1.toList.map asciiLower == monthNames[i]!.toList.map asciiLower) =
      some (monthNames[i]!, i) := by
  decide

theorem mem_monthNames_zip : ∀ p ∈ monthNames.zip (List.range 12), p.2 < 12 ∧ p.1 = monthNames[p.2]! := by
  decide

theorem digits_self {ds : List Char} {k n : Nat} (h : Writes ds k n) :
    digits ds k = some (n, []) := by
  simpa using digits_append h []

theorem readNamed_eq {D N Y : List Char} {day m y : Nat} (hD : Writes D 2 day) (hY : Writes Y 4 y)
    (hN : monthAt (N ++ '-' :: Y) = some (m, '-' :: Y)) :
    readNamed (D ++ '-' :: (N ++ '-' :: Y)) = finish y m day [] := by
  simp [readNamed, digits_append hD, hN, digits_self hY]

theorem monthAt_eq_some {cs r : List Char} {m : Nat} (h : monthAt cs = some (m, r)) :
    cs = cs.take 3 ++ r ∧ ∃ i < 12, m = i + 1 ∧
      (cs.take 3).map asciiLower = monthNames[i]!.toList.map asciiLower := by
  unfold monthAt at h
  dsimp only at h
  split at h
  · rename_i a i hf
    simp only [Option.some.injEq, Prod.mk.injEq] at h
    obtain ⟨rfl, rfl⟩ := h
    have hp := List.find?_some hf
    obtain ⟨hi, ha⟩ : i < 12 ∧ a = monthNames[i]! :=
      mem_monthNames_zip _ (List.mem_of_find?_eq_some hf)
    simp only [beq_iff_eq] at hp
    refine ⟨(List.take_append_drop 3 cs).symm, i, hi, rfl, ?_⟩
    rw [← hp, ha]
  · exact absurd h (by simp)

theorem readNamed_eq_some {cs : List Char} {date : Date} (h : readNamed cs = some date) :
    ∃ D N Y day y i, cs = D ++ '-' :: (N ++ '-' :: Y) ∧ Writes D 2 day ∧ Writes Y 4 y ∧ i < 12 ∧
      N.map asciiLower = monthNames[i]!.toList.map asciiLower ∧ date = ⟨y, i + 1, day⟩ ∧
      date.valid = true := by
  simp only [readNamed, Option.bind_eq_bind, Option.bind_eq_some_iff] at h
  obtain ⟨⟨day, cs₁⟩, hd, cs₂, hs₁, ⟨m, cs₃⟩, hm, cs₄, hs₂, ⟨y, cs₅⟩, hy, hf⟩ := h
  obtain ⟨D, rfl, hD⟩ := digits_eq_some hd
  obtain ⟨Y, rfl, hY⟩ := digits_eq_some hy
  obtain ⟨rfl, rfl, hvalid⟩ := finish_eq_some hf
  cases sep_eq_some hs₁
  cases sep_eq_some hs₂
  obtain ⟨hcs, i, hi, rfl, hN⟩ := monthAt_eq_some hm
  rw [List.append_nil] at hcs ⊢
  exact ⟨D, cs₂.take 3, Y, day, y, i, by rw [← hcs], hD, hY, hi, hN, rfl, hvalid⟩

theorem readIso_eq {Y Mo D : List Char} {y m d : Nat} (hY : Writes Y 4 y) (hM : Writes Mo 2 m)
    (hD : Writes D 2 d) : readIso (Y ++ '-' :: (Mo ++ '-' :: D)) = finish y m d [] := by
  simp [readIso, digits_append hY, digits_append hM, digits_self hD]

theorem readSlashed_eq {D Mo Y : List Char} {d m y : Nat} (hD : Writes D 2 d) (hM : Writes Mo 2 m)
    (hY : Writes Y 4 y) : readSlashed (D ++ '/' :: (Mo ++ '/' :: Y)) = finish y m d [] := by
  simp [readSlashed, digits_append hD, digits_append hM, digits_self hY]

theorem readIso_eq_some {cs : List Char} {date : Date} (h : readIso cs = some date) :
    ∃ Y Mo D y m d, cs = Y ++ '-' :: (Mo ++ '-' :: D) ∧ Writes Y 4 y ∧ Writes Mo 2 m ∧
      Writes D 2 d ∧ date = ⟨y, m, d⟩ ∧ date.valid = true := by
  simp only [readIso, Option.bind_eq_bind, Option.bind_eq_some_iff] at h
  obtain ⟨⟨y, cs₁⟩, hy, cs₂, hs₁, ⟨m, cs₃⟩, hm, cs₄, hs₂, ⟨d, cs₅⟩, hd, hf⟩ := h
  obtain ⟨Y, rfl, hY⟩ := digits_eq_some hy
  obtain ⟨Mo, rfl, hM⟩ := digits_eq_some hm
  obtain ⟨D, rfl, hD⟩ := digits_eq_some hd
  obtain ⟨rfl, rfl, hvalid⟩ := finish_eq_some hf
  cases sep_eq_some hs₁
  cases sep_eq_some hs₂
  exact ⟨Y, Mo, D, y, m, d, by rw [List.append_nil], hY, hM, hD, rfl, hvalid⟩

theorem readSlashed_eq_some {cs : List Char} {date : Date} (h : readSlashed cs = some date) :
    ∃ D Mo Y d m y, cs = D ++ '/' :: (Mo ++ '/' :: Y) ∧ Writes D 2 d ∧ Writes Mo 2 m ∧
      Writes Y 4 y ∧ date = ⟨y, m, d⟩ ∧ date.valid = true := by
  simp only [readSlashed, Option.bind_eq_bind, Option.bind_eq_some_iff] at h
  obtain ⟨⟨d, cs₁⟩, hd, cs₂, hs₁, ⟨m, cs₃⟩, hm, cs₄, hs₂, ⟨y, cs₅⟩, hy, hf⟩ := h
  obtain ⟨D, rfl, hD⟩ := digits_eq_some hd
  obtain ⟨Mo, rfl, hM⟩ := digits_eq_some hm
  obtain ⟨Y, rfl, hY⟩ := digits_eq_some hy
  obtain ⟨rfl, rfl, hvalid⟩ := finish_eq_some hf
  cases sep_eq_some hs₁
  cases sep_eq_some hs₂
  exact ⟨D, Mo, Y, d, m, y, by rw [List.append_nil], hD, hM, hY, rfl, hvalid⟩

theorem getElem?_after_day {D rest : List Char} (hD : D.length = 2) (c : Char) :
    (D ++ c :: rest)[2]? = some c := by
  simp only [List.getElem?_append_right (Nat.le_of_eq hD), hD, Nat.sub_self, List.getElem?_cons_zero]

theorem third_of_readNamed {cs : List Char} {date : Date} (h : readNamed cs = some date) :
    cs[2]? = some '-' := by
  obtain ⟨D, N, Y, _, _, _, rfl, hD, -⟩ := readNamed_eq_some h
  exact getElem?_after_day hD.length _

theorem third_of_readIso {cs : List Char} {date : Date} (h : readIso cs = some date) :
    ∃ c : Char, cs[2]? = some c ∧ c.isDigit = true := by
  obtain ⟨Y, Mo, D, _, _, _, rfl, hY, -⟩ := readIso_eq_some h
  have h2 : 2 < Y.length := by rw [hY.length]; decide
  exact ⟨Y[2], by rw [List.getElem?_append_left h2, List.getElem?_eq_getElem h2],
    hY.digit _ (List.getElem_mem h2)⟩

theorem third_of_readSlashed {cs : List Char} {date : Date} (h : readSlashed cs = some date) :
    cs[2]? = some '/' := by
  obtain ⟨D, Mo, Y, _, _, _, rfl, hD, -⟩ := readSlashed_eq_some h
  exact getElem?_after_day hD.length _

open Utf8 in
theorem caseMonth_named {cs : List Char} (ha : ∀ c ∈ cs, isAscii c = true) (hlen : cs.length = 11)
    (h2 : cs[2]? = some '-') (h6 : cs[6]? = some '-') :
    caseMonth (String.ofList cs) = String.ofList (cs.take 3 ++ ((cs.drop 3).take 1).map Case.upper ++
      ((cs.drop 4).take 2).map Case.lower ++ cs.drop 6) := by
  have ha' : ∀ c ∈ (String.ofList cs).toList, isAscii c = true := by
    rw [String.toList_ofList]; exact ha
  have ho := octets_ascii ha'
  rw [String.toList_ofList] at ho
  have hsub : ∀ l, List.Sublist l cs → ∀ c ∈ l, isAscii c = true := fun l hl c hc => ha c (hl.subset hc)
  unfold caseMonth
  rw [ho, if_pos (by rw [List.length_map, hlen, List.getElem?_map, h2, List.getElem?_map, h6]; decide)]
  simp only [← List.map_take, ← List.map_drop, toText_ascii _ (hsub _ (List.take_sublist 3 cs)),
    toText_ascii _ (hsub _ (List.drop_sublist 6 cs)),
    decodeLossy_ascii _ (hsub _ ((List.take_sublist 1 _).trans (List.drop_sublist 3 cs))),
    decodeLossy_ascii _ (hsub _ ((List.take_sublist 2 _).trans (List.drop_sublist 4 cs))),
    String.ofList_append]

open Utf8 in
theorem caseMonth_of_length {s : String} (h : (octets s).length ≠ 11) : caseMonth s = s := by
  unfold caseMonth
  rw [if_neg (by simp [h])]

/-! ## Characters of the three shapes -/

theorem isAscii_of_isDigit {c : Char} (h : c.isDigit = true) : Utf8.isAscii c = true := by
  have := toNat_of_isDigit h
  simp only [Utf8.isAscii, decide_eq_true_eq]
  omega

theorem isAscii_of_asciiLower {c : Char} (h : Utf8.isAscii (asciiLower c) = true) :
    Utf8.isAscii c = true := by
  simp only [Utf8.isAscii, decide_eq_true_eq, toNat_asciiLower] at h ⊢
  split_ifs at h <;> omega

theorem upper_of_isDigit {c : Char} (h : c.isDigit = true) : Case.upper c = c := by
  have := toNat_of_isDigit h
  apply Char.toNat_inj.1
  rw [toNat_upper_ascii (by omega)]
  split_ifs <;> omega

theorem isSpace_of_isDigit {c : Char} (h : c.isDigit = true) : Space.isSpace c = false := by
  have := toNat_of_isDigit h
  simp only [Space.isSpace, Bool.or_eq_false_iff, Bool.and_eq_false_iff, beq_eq_false_iff_ne,
    decide_eq_false_iff_not]
  omega

theorem Writes.ascii {ds : List Char} {k n : Nat} (h : Writes ds k n) :
    ∀ c ∈ ds, Utf8.isAscii c = true := fun c hc => isAscii_of_isDigit (h.digit c hc)

theorem Writes.map_upper {ds : List Char} {k n : Nat} (h : Writes ds k n) :
    ds.map Case.upper = ds :=
  (List.map_congr_left fun c hc => upper_of_isDigit (h.digit c hc)).trans (List.map_id ds)

theorem map_upper_eq {M N : List Char} (hM : ∀ c ∈ M, Utf8.isAscii c = true)
    (hN : ∀ c ∈ N, Utf8.isAscii c = true) (h : M.map asciiLower = N.map asciiLower) :
    M.map Case.upper = N.map Case.upper := by
  induction M generalizing N with
  | nil => rw [List.map_eq_nil_iff.1 h.symm]
  | cons x M ih =>
    cases N with
    | nil => simp at h
    | cons y N => ?_
    simp only [List.map_cons, List.cons.injEq] at h ⊢
    have hx : x.toNat < 128 := by simpa [Utf8.isAscii] using hM x (by simp)
    have hy : y.toNat < 128 := by simpa [Utf8.isAscii] using hN y (by simp)
    exact ⟨upper_eq_of_asciiLower hx hy h.1, ih (fun c hc => hM c (by simp [hc]))
      (fun c hc => hN c (by simp [hc])) h.2⟩

/-! ## The month names -/

theorem monthName_length : ∀ i < 12, monthNames[i]!.toList.length = 3 := by decide

/- The month facts about characters are decided through `List.all`: a `∀` bounded by a list of
characters can also be read as one over every character, and decided that way. -/
theorem monthName_ascii : ∀ i < 12, ∀ c ∈ monthNames[i]!.toList, Utf8.isAscii c = true := by
  have h : ∀ i < 12, monthNames[i]!.toList.all Utf8.isAscii = true := by decide
  exact fun i hi => List.all_eq_true.1 (h i hi)

theorem upper_monthName_ascii : ∀ i < 12,
    ∀ c ∈ monthNames[i]!.toList.map Case.upper, Utf8.isAscii c = true := by
  have h : ∀ i < 12, (monthNames[i]!.toList.map Case.upper).all Utf8.isAscii = true := by decide
  exact fun i hi => List.all_eq_true.1 (h i hi)

theorem monthName_getD : ∀ i < 12, (monthNames[i]?).getD "" = monthNames[i]! := by decide

theorem monthName_cased : ∀ i < 12,
    ((monthNames[i]!.toList.map Case.upper).take 1).map Case.upper ++
      ((monthNames[i]!.toList.map Case.upper).drop 1).map Case.lower = monthNames[i]!.toList := by
  decide

theorem monthAt_name {i : Nat} (hi : i < 12) (rest : List Char) :
    monthAt (monthNames[i]!.toList ++ rest) = some (i + 1, rest) := by
  rw [monthAt_append (monthName_length i hi), find_monthName i hi]
  rfl

/-! ## Which shape reads a text -/

def readAny (cs : List Char) : Option Date := readNamed cs <|> readIso cs <|> readSlashed cs

theorem parse_eq (s : String) : parse s = match readAny (caseMonth (Space.trim s)).toList with
    | some d => .ok d
    | none => .error ⟨caseMonth (Space.trim s)⟩ := by
  unfold parse readAny
  rfl

theorem parse_eq_ok {s : String} {d : Date} (h : readAny (caseMonth (Space.trim s)).toList = some d) :
    parse s = .ok d := by
  rw [parse_eq, h]

theorem parse_eq_error {s : String} (h : readAny (caseMonth (Space.trim s)).toList = none) :
    ∃ e, parse s = .error e := by
  rw [parse_eq, h]
  exact ⟨_, rfl⟩

theorem readAny_eq_some {s : String} {d : Date} (h : parse s = .ok d) :
    readAny (caseMonth (Space.trim s)).toList = some d := by
  rw [parse_eq] at h
  split at h
  · rename_i d' hd
    cases h
    exact hd
  · cases h

theorem readAny_of_dash {cs : List Char} (h : cs[2]? = some '-') : readAny cs = readNamed cs := by
  have hiso : readIso cs = none := Option.eq_none_iff_forall_ne_some.2 fun d hd => by
    obtain ⟨c, hc, hdig⟩ := third_of_readIso hd
    rw [h, Option.some.injEq] at hc
    subst hc
    exact absurd hdig (by decide)
  have hsl : readSlashed cs = none := Option.eq_none_iff_forall_ne_some.2 fun d hd => by
    rw [third_of_readSlashed hd] at h
    exact absurd h (by decide)
  cases hn : readNamed cs <;> simp [readAny, hn, hiso, hsl]

theorem readAny_of_digit {cs : List Char} {c : Char} (h : cs[2]? = some c) (hc : c.isDigit = true) :
    readAny cs = readIso cs := by
  have hnamed : readNamed cs = none := Option.eq_none_iff_forall_ne_some.2 fun d hd => by
    rw [third_of_readNamed hd, Option.some.injEq] at h
    subst h
    exact absurd hc (by decide)
  have hsl : readSlashed cs = none := Option.eq_none_iff_forall_ne_some.2 fun d hd => by
    rw [third_of_readSlashed hd, Option.some.injEq] at h
    subst h
    exact absurd hc (by decide)
  cases hi : readIso cs <;> simp [readAny, hi, hnamed, hsl]

theorem readAny_of_slash {cs : List Char} (h : cs[2]? = some '/') : readAny cs = readSlashed cs := by
  have hnamed : readNamed cs = none := Option.eq_none_iff_forall_ne_some.2 fun d hd => by
    rw [third_of_readNamed hd] at h
    exact absurd h (by decide)
  have hiso : readIso cs = none := Option.eq_none_iff_forall_ne_some.2 fun d hd => by
    obtain ⟨c, hc, hdig⟩ := third_of_readIso hd
    rw [h, Option.some.injEq] at hc
    subst hc
    exact absurd hdig (by decide)
  simp [readAny, hnamed, hiso]

/-! ## Reading the three renderings back -/

theorem dropWhile_eq_self {p : Char → Bool} {l : List Char} (h : ∀ c ∈ l.head?, p c = false) :
    l.dropWhile p = l := by
  cases l with
  | nil => rfl
  | cons c r => exact List.dropWhile_cons_of_neg (by simp [h c rfl])

theorem trim_eq_self {cs : List Char} (h0 : ∀ c ∈ cs.head?, c.isDigit = true)
    (h1 : ∀ c ∈ cs.getLast?, c.isDigit = true) : Space.trim (String.ofList cs) = String.ofList cs := by
  rw [Space.trim, Space.trimList, String.toList_ofList,
    dropWhile_eq_self fun c hc => isSpace_of_isDigit (h0 c hc),
    dropWhile_eq_self fun c hc => isSpace_of_isDigit (h1 c (by rwa [List.head?_reverse] at hc)),
    List.reverse_reverse]

theorem Writes.eq_pair {D : List Char} {n : Nat} (h : Writes D 2 n) : ∃ a b, D = [a, b] :=
  ⟨_, _, List.eq_getElem_of_length_eq_two D h.length⟩

theorem Writes.getLast? {Y front : List Char} {k n : Nat} (hY : Writes Y k n) (hk : 0 < k) :
    ∀ c ∈ (front ++ Y).getLast?, c.isDigit = true := by
  have hne : Y ≠ [] := List.ne_nil_of_length_pos (by rw [hY.length]; exact hk)
  intro c hc
  rw [List.getLast?_append, List.getLast?_eq_some_getLast hne, Option.some_or] at hc
  exact hY.digit c (Option.mem_some_iff.1 hc ▸ List.getLast_mem hne)

theorem readAny_named_text {D Y : List Char} {day y i : Nat} (hD : Writes D 2 day)
    (hY : Writes Y 4 y) (hi : i < 12) :
    readAny (caseMonth (Space.trim (String.ofList
      (D ++ '-' :: (monthNames[i]!.toList.map Case.upper ++ '-' :: Y))))).toList =
      finish y (i + 1) day [] := by
  have hUa : ∀ c ∈ monthNames[i]!.toList.map Case.upper, Utf8.isAscii c = true :=
    upper_monthName_ascii i hi
  have hcased := monthName_cased i hi
  have hlen : (monthNames[i]!.toList.map Case.upper).length = 3 := by
    rw [List.length_map, monthName_length i hi]
  generalize monthNames[i]!.toList.map Case.upper = U at hUa hcased hlen
  obtain ⟨u₀, u₁, u₂, rfl⟩ : ∃ u₀ u₁ u₂, U = [u₀, u₁, u₂] :=
    ⟨_, _, _, List.eq_getElem_of_length_eq_three U hlen⟩
  obtain ⟨a, b, rfl⟩ := hD.eq_pair
  have htext : [a, b] ++ '-' :: ([u₀, u₁, u₂] ++ '-' :: Y) = [a, b, '-', u₀, u₁, u₂, '-'] ++ Y := rfl
  have hascii : ∀ c ∈ [a, b, '-', u₀, u₁, u₂, '-'] ++ Y, Utf8.isAscii c = true := by
    intro c hc
    simp only [List.cons_append, List.nil_append, List.mem_cons] at hc
    rcases hc with rfl | rfl | rfl | rfl | rfl | rfl | rfl | hc
    · exact hD.ascii _ (by simp)
    · exact hD.ascii _ (by simp)
    · decide
    · exact hUa _ (by simp)
    · exact hUa _ (by simp)
    · exact hUa _ (by simp)
    · decide
    · exact hY.ascii c hc
  rw [htext, trim_eq_self (by simpa using hD.digit a (by simp)) (hY.getLast? (by decide)),
    caseMonth_named hascii (by simp [hY.length]) rfl rfl]
  simp only [List.take, List.drop, List.map_cons, List.map_nil, List.cons_append,
    List.nil_append] at hcased ⊢
  have hnamed : a :: b :: '-' :: Case.upper u₀ :: Case.lower u₁ :: Case.lower u₂ :: '-' :: Y =
      [a, b] ++ '-' :: (monthNames[i]!.toList ++ '-' :: Y) := by
    rw [← hcased]; rfl
  rw [String.toList_ofList, hnamed, readAny_of_dash rfl]
  exact readNamed_eq hD hY (monthAt_name hi _)

theorem Writes.head? {D rest : List Char} {k n : Nat} (hD : Writes D k n) (hk : 0 < k) :
    ∀ c ∈ (D ++ rest).head?, c.isDigit = true := by
  obtain ⟨a, D', rfl⟩ := List.exists_cons_of_length_pos (hD.length ▸ hk)
  intro c hc
  simp only [List.cons_append, List.head?_cons, Option.mem_def, Option.some.injEq] at hc
  exact hc ▸ hD.digit a (by simp)

open Utf8 in
theorem caseMonth_ten {cs : List Char} (ha : ∀ c ∈ cs, isAscii c = true) (hlen : cs.length = 10) :
    caseMonth (String.ofList cs) = String.ofList cs := by
  apply caseMonth_of_length
  rw [octets_ascii (by rwa [String.toList_ofList]), List.length_map, String.toList_ofList, hlen]
  decide

theorem ascii_of_writes_three {A B C : List Char} {a c : Nat} {sep : Char}
    (hA : Writes A 4 a ∨ Writes A 2 a) (hB : ∀ x ∈ B, Utf8.isAscii x = true)
    (hC : Writes C 4 c ∨ Writes C 2 c)
    (hsep : Utf8.isAscii sep = true) : ∀ x ∈ A ++ sep :: (B ++ sep :: C), Utf8.isAscii x = true := by
  intro x hx
  simp only [List.mem_append, List.mem_cons] at hx
  rcases hx with hx | rfl | hx | rfl | hx
  · exact hA.elim (fun h => h.ascii x hx) fun h => h.ascii x hx
  · exact hsep
  · exact hB x hx
  · exact hsep
  · exact hC.elim (fun h => h.ascii x hx) fun h => h.ascii x hx

theorem readAny_iso_text {Y Mo D : List Char} {y m d : Nat} (hY : Writes Y 4 y)
    (hM : Writes Mo 2 m) (hD : Writes D 2 d) :
    readAny (caseMonth (Space.trim (String.ofList (Y ++ '-' :: (Mo ++ '-' :: D))))).toList =
      finish y m d [] := by
  have hlen : (Y ++ '-' :: (Mo ++ '-' :: D)).length = 10 := by
    simp [hY.length, hM.length, hD.length]
  have h2 : 2 < Y.length := by rw [hY.length]; decide
  have hends : Y ++ '-' :: (Mo ++ '-' :: D) = (Y ++ ['-'] ++ Mo ++ ['-']) ++ D := by simp
  rw [trim_eq_self (hY.head? (by decide)) (by rw [hends]; exact hD.getLast? (by decide)),
    caseMonth_ten (ascii_of_writes_three (.inl hY) hM.ascii (.inr hD) (by decide)) hlen,
    String.toList_ofList, readAny_of_digit (List.getElem?_append_left h2 ▸ List.getElem?_eq_getElem h2)
      (hY.digit _ (List.getElem_mem h2))]
  exact readIso_eq hY hM hD

theorem readAny_slashed_text {D Mo Y : List Char} {d m y : Nat} (hD : Writes D 2 d)
    (hM : Writes Mo 2 m) (hY : Writes Y 4 y) :
    readAny (caseMonth (Space.trim (String.ofList (D ++ '/' :: (Mo ++ '/' :: Y))))).toList =
      finish y m d [] := by
  have hlen : (D ++ '/' :: (Mo ++ '/' :: Y)).length = 10 := by
    simp [hY.length, hM.length, hD.length]
  have hends : D ++ '/' :: (Mo ++ '/' :: Y) = (D ++ ['/'] ++ Mo ++ ['/']) ++ Y := by simp
  have h2 : (D ++ '/' :: (Mo ++ '/' :: Y))[2]? = some '/' := getElem?_after_day hD.length _
  rw [trim_eq_self (hD.head? (by decide)) (by rw [hends]; exact hY.getLast? (by decide)),
    caseMonth_ten (ascii_of_writes_three (.inr hD) hM.ascii (.inl hY) (by decide)) hlen,
    String.toList_ofList, readAny_of_slash h2]
  exact readSlashed_eq hD hM hY

/-! ## Dates and their renderings -/

def slashed (d : Date) : String :=
  Date.pad2 d.day ++ "/" ++ Date.pad2 d.month ++ "/" ++ Date.pad4 d.year

/-- A date the three renderings can write: a year of four digits, a month that has a name, a day
of two digits. -/
structure Printable (d : Date) : Prop where
  year_nonneg : 0 ≤ d.year
  year_le : d.year ≤ 9999
  month_pos : 1 ≤ d.month
  month_le : d.month ≤ 12
  day_lt : d.day < 100

theorem Printable.of_valid {d : Date} (h : d.valid = true) (h0 : 0 ≤ d.year) (h1 : d.year ≤ 9999) :
    Printable d := by
  simp only [Date.valid, Bool.and_eq_true, decide_eq_true_eq] at h
  have hdays : Date.daysIn d.month d.year ≤ 31 := by
    unfold Date.daysIn; split_ifs <;> decide
  exact ⟨h0, h1, h.1.1.1, h.1.1.2, by omega⟩

theorem finish_date {d : Date} (h : 0 ≤ d.year) :
    finish d.year.toNat d.month d.day [] = if d.valid then some d else none := by
  have e : (⟨(d.year.toNat : Int), d.month, d.day⟩ : Date) = d := by
    obtain ⟨y, m, dd⟩ := d
    simp only [Date.mk.injEq, and_true] at h ⊢
    omega
  rw [finish_nil, e]

theorem format_toList {d : Date} (hi : d.month - 1 < 12) : (format d).toList =
    (Date.pad2 d.day).toList ++
      '-' :: (monthNames[d.month - 1]!.toList.map Case.upper ++ '-' :: (Date.pad4 d.year).toList) := by
  simp only [format, String.toList_append, Case.upperText, String.toList_ofList, monthName_getD _ hi,
    List.append_assoc]
  rfl

theorem readAny_format {d : Date} (hd : Printable d) :
    readAny (caseMonth (Space.trim (format d))).toList = if d.valid then some d else none := by
  have hi : d.month - 1 < 12 := by have := hd.month_le; omega
  have htext : format d = String.ofList ((Date.pad2 d.day).toList ++
      '-' :: (monthNames[d.month - 1]!.toList.map Case.upper ++ '-' :: (Date.pad4 d.year).toList)) := by
    rw [← String.toList_inj, format_toList hi, String.toList_ofList]
  rw [htext, readAny_named_text (writes_pad2 hd.day_lt) (writes_pad4 hd.year_nonneg hd.year_le) hi,
    Nat.sub_add_cancel hd.month_pos, finish_date hd.year_nonneg]

theorem readAny_iso {d : Date} (hd : Printable d) :
    readAny (caseMonth (Space.trim d.iso)).toList = if d.valid then some d else none := by
  have htext : d.iso = String.ofList ((Date.pad4 d.year).toList ++
      '-' :: ((Date.pad2 d.month).toList ++ '-' :: (Date.pad2 d.day).toList)) := by
    rw [← String.toList_inj]
    simp only [Date.iso, String.toList_append, String.toList_ofList, List.append_assoc]
    rfl
  rw [htext, readAny_iso_text (writes_pad4 hd.year_nonneg hd.year_le)
    (writes_pad2 (by have := hd.month_le; omega)) (writes_pad2 hd.day_lt), finish_date hd.year_nonneg]

theorem readAny_slashed {d : Date} (hd : Printable d) :
    readAny (caseMonth (Space.trim (slashed d))).toList = if d.valid then some d else none := by
  have htext : slashed d = String.ofList ((Date.pad2 d.day).toList ++
      '/' :: ((Date.pad2 d.month).toList ++ '/' :: (Date.pad4 d.year).toList)) := by
    rw [← String.toList_inj]
    simp only [slashed, String.toList_append, String.toList_ofList, List.append_assoc]
    rfl
  rw [htext, readAny_slashed_text (writes_pad2 hd.day_lt)
    (writes_pad2 (by have := hd.month_le; omega)) (writes_pad4 hd.year_nonneg hd.year_le),
    finish_date hd.year_nonneg]

theorem parse_rendering {d : Date} {text : String}
    (h : readAny (caseMonth (Space.trim text)).toList = if d.valid then some d else none) :
    (d.valid = true → parse text = .ok d) ∧ (d.valid = false → ∃ e, parse text = .error e) := by
  refine ⟨fun hv => parse_eq_ok (by rw [h, if_pos hv]), fun hv => parse_eq_error ?_⟩
  rw [h, if_neg (by simp [hv])]

/-! ## What is read -/

theorem readAny_cases {cs : List Char} {d : Date} (h : readAny cs = some d) :
    readNamed cs = some d ∨ readIso cs = some d ∨ readSlashed cs = some d := by
  unfold readAny at h
  cases hn : readNamed cs <;> cases hi : readIso cs <;> simp_all

theorem valid_of_readAny {cs : List Char} {d : Date} (h : readAny cs = some d) : d.valid = true := by
  rcases readAny_cases h with h | h | h
  · obtain ⟨_, _, _, _, _, _, _, _, _, _, _, _, hv⟩ := readNamed_eq_some h
    exact hv
  · obtain ⟨_, _, _, _, _, _, _, _, _, _, _, hv⟩ := readIso_eq_some h
    exact hv
  · obtain ⟨_, _, _, _, _, _, _, _, _, _, _, hv⟩ := readSlashed_eq_some h
    exact hv

theorem length_of_readIso {cs : List Char} {d : Date} (h : readIso cs = some d) : cs.length = 10 := by
  obtain ⟨Y, Mo, D, _, _, _, rfl, hY, hM, hD, -⟩ := readIso_eq_some h
  simp [hY.length, hM.length, hD.length]

theorem length_of_readSlashed {cs : List Char} {d : Date} (h : readSlashed cs = some d) :
    cs.length = 10 := by
  obtain ⟨D, Mo, Y, _, _, _, rfl, hD, hM, hY, -⟩ := readSlashed_eq_some h
  simp [hY.length, hM.length, hD.length]

theorem readNamed_of_length {cs : List Char} {d : Date} (h : readAny cs = some d)
    (hlen : cs.length = 11) : readNamed cs = some d := by
  rcases readAny_cases h with h | h | h
  · exact h
  · exact absurd (length_of_readIso h) (by omega)
  · exact absurd (length_of_readSlashed h) (by omega)

theorem lowerMonthName_ascii : ∀ i < 12,
    ∀ c ∈ monthNames[i]!.toList.map asciiLower, Utf8.isAscii c = true := by
  have h : ∀ i < 12, (monthNames[i]!.toList.map asciiLower).all Utf8.isAscii = true := by decide
  exact fun i hi => List.all_eq_true.1 (h i hi)

theorem readNamed_shape {cs : List Char} {d : Date} (h : readNamed cs = some d) :
    cs.length = 11 ∧ (∀ c ∈ cs, Utf8.isAscii c = true) ∧ cs[2]? = some '-' ∧ cs[6]? = some '-' := by
  obtain ⟨D, N, Y, _, _, i, rfl, hD, hY, hi, hN, -⟩ := readNamed_eq_some h
  have hNlen : N.length = 3 := by
    rw [← List.length_map (f := asciiLower), hN, List.length_map, monthName_length i hi]
  have hNa : ∀ c ∈ N, Utf8.isAscii c = true := fun c hc =>
    isAscii_of_asciiLower (lowerMonthName_ascii i hi _ (hN ▸ List.mem_map_of_mem hc))
  obtain ⟨a, b, rfl⟩ := hD.eq_pair
  obtain ⟨n₀, n₁, n₂, rfl⟩ : ∃ n₀ n₁ n₂, N = [n₀, n₁, n₂] :=
    ⟨_, _, _, List.eq_getElem_of_length_eq_three N hNlen⟩
  exact ⟨by simp [hY.length], ascii_of_writes_three (.inr hD) hNa (.inl hY) (by decide), rfl, rfl⟩

/-! ## Casing the month does not change the upper case -/

theorem take_drop_named (cs : List Char) :
    cs.take 3 ++ (cs.drop 3).take 1 ++ (cs.drop 4).take 2 ++ cs.drop 6 = cs := by
  have h4 : cs.drop 4 = (cs.drop 3).drop 1 := by rw [List.drop_drop]
  have h6 : cs.drop 6 = (cs.drop 4).drop 2 := by rw [List.drop_drop]
  simp only [List.append_assoc]
  rw [h6, List.take_append_drop, h4, List.take_append_drop, List.take_append_drop]

theorem upper_caseMonth {cs : List Char} (ha : ∀ c ∈ cs, Utf8.isAscii c = true)
    (hlen : cs.length = 11) (h2 : cs[2]? = some '-') (h6 : cs[6]? = some '-') :
    (caseMonth (String.ofList cs)).toList.map Case.upper = cs.map Case.upper := by
  have hsub : ∀ l, List.Sublist l cs → ∀ c ∈ l, Utf8.isAscii c = true :=
    fun l hl c hc => ha c (hl.subset hc)
  have hU : ((cs.drop 3).take 1).map (Case.upper ∘ Case.upper) = ((cs.drop 3).take 1).map Case.upper :=
    List.map_congr_left fun c hc =>
      upper_upper (hsub _ ((List.take_sublist 1 _).trans (List.drop_sublist 3 cs)) c hc)
  have hL : ((cs.drop 4).take 2).map (Case.upper ∘ Case.lower) = ((cs.drop 4).take 2).map Case.upper :=
    List.map_congr_left fun c hc =>
      upper_lower (hsub _ ((List.take_sublist 2 _).trans (List.drop_sublist 4 cs)) c hc)
  rw [caseMonth_named ha hlen h2 h6, String.toList_ofList]
  simp only [List.map_append, List.map_map, hU, hL]
  rw [← List.map_append, ← List.map_append, ← List.map_append, take_drop_named]

theorem getElem?_eq_dash {l : List Char} (ha : ∀ c ∈ l, Utf8.isAscii c = true) {i : Nat}
    (h : (l.map Char.toUInt8)[i]? = some 0x2D) : l[i]? = some '-' := by
  rw [List.getElem?_map, Option.map_eq_some_iff] at h
  obtain ⟨c, hc, h45⟩ := h
  have hdash : c = '-' :=
    Char.toNat_inj.1 (by rw [← Utf8.toNat_toUInt8 (ha c (List.mem_of_getElem? hc)), h45]; rfl)
  rw [hc, hdash]

open Utf8 in
theorem shape_of_caseMonth {t : String} {d : Date} (hlen : t.toList.length = 11)
    (h : readAny (caseMonth t).toList = some d) :
    (∀ c ∈ t.toList, isAscii c = true) ∧ t.toList[2]? = some '-' ∧ t.toList[6]? = some '-' := by
  by_cases hc : (octets t).length = 11 ∧ (octets t)[2]? = some 0x2D ∧ (octets t)[6]? = some 0x2D
  · obtain ⟨h11, h2, h6⟩ := hc
    have ha := ascii_of_length_octets (h11.trans hlen.symm)
    rw [octets_ascii ha] at h2 h6
    exact ⟨ha, getElem?_eq_dash ha h2, getElem?_eq_dash ha h6⟩
  · have hid : caseMonth t = t := by
      unfold caseMonth
      rw [if_neg (by simpa using hc)]
    rw [hid] at h
    obtain ⟨_, ha, h2, h6⟩ := readNamed_shape (readNamed_of_length h hlen)
    exact ⟨ha, h2, h6⟩

theorem Writes.lt {ds : List Char} {k n : Nat} (h : Writes ds k n) : n < 10 ^ k := by
  rw [← h.value, ← h.length]
  exact ofDigitChars_lt h.digit

theorem format_of_length {t : String} {d : Date} (hlen : t.toList.length = 11)
    (h : readAny (caseMonth t).toList = some d) : format d = Case.upperText t := by
  obtain ⟨ha, h2, h6⟩ := shape_of_caseMonth hlen h
  have hup := upper_caseMonth ha hlen h2 h6
  rw [String.ofList_toList] at hup
  have hnamed : readNamed (caseMonth t).toList = some d :=
    readNamed_of_length h (by rw [← List.length_map (f := Case.upper), hup, List.length_map, hlen])
  obtain ⟨-, hca, -⟩ := readNamed_shape hnamed
  obtain ⟨D, N, Y, day, y, i, hcs, hD, hY, hi, hN, rfl, -⟩ := readNamed_eq_some hnamed
  rw [hcs] at hca hup
  have hNa : ∀ c ∈ N, Utf8.isAscii c = true := fun c hc => hca c (by simp [hc])
  have hday : D = (Date.pad2 day).toList := hD.unique (writes_pad2 hD.lt)
  have hyear : Y = (Date.pad4 (y : Int)).toList := by
    have hy : y < 10000 := hY.lt
    have hw := writes_pad4 (y := (y : Int)) (by omega) (by omega)
    rw [Int.toNat_natCast] at hw
    exact hY.unique hw
  have hdash : Case.upper '-' = '-' := by decide
  rw [← String.toList_inj, format_toList (by simpa using hi), Case.upperText, String.toList_ofList,
    ← hup]
  simp only [List.map_append, List.map_cons, hD.map_upper, hY.map_upper, hdash,
    map_upper_eq hNa (monthName_ascii i hi) hN, Nat.add_sub_cancel]
  rw [hday, hyear]

/-! ## Charge dates print and read back -/

/-- A date that exists with a year of four digits reads back from each of its three renderings,
and one whose day does not exist in its month and year is refused in each; every date read
exists; a text that reads and has eleven characters once trimmed (the `DD-MMM-YYYY` shape, in any
letter case, with blanks around it) formats back as itself in upper case; and the financial year
turns in April. -/
theorem prints_and_reads_back :
    (∀ d : Date, d.valid = true → 0 ≤ d.year → d.year ≤ 9999 →
      parse (format d) = .ok d ∧ parse d.iso = .ok d ∧ parse (slashed d) = .ok d) ∧
    (∀ d : Date, d.valid = false → Printable d →
      (∃ e, parse (format d) = .error e) ∧ (∃ e, parse d.iso = .error e) ∧
        ∃ e, parse (slashed d) = .error e) ∧
    (∀ s d, parse s = .ok d → d.valid = true) ∧
    (∀ s d, parse s = .ok d → (Space.trim s).length = 11 →
      format d = Case.upperText (Space.trim s)) ∧
    (∀ d : Date, d.financialYear = if 4 ≤ d.month then d.year else d.year - 1) := by
  refine ⟨fun d hv h0 h1 => ?_, fun d hv hd => ?_, fun s d h => ?_, fun s d h hlen => ?_,
    fun d => rfl⟩
  · have hd := Printable.of_valid hv h0 h1
    exact ⟨(parse_rendering (readAny_format hd)).1 hv, (parse_rendering (readAny_iso hd)).1 hv,
      (parse_rendering (readAny_slashed hd)).1 hv⟩
  · exact ⟨(parse_rendering (readAny_format hd)).2 hv, (parse_rendering (readAny_iso hd)).2 hv,
      (parse_rendering (readAny_slashed hd)).2 hv⟩
  · exact valid_of_readAny (readAny_eq_some h)
  · rw [← String.length_toList] at hlen
    exact format_of_length hlen (readAny_eq_some h)

end ChargeLedger.ChargeDate
