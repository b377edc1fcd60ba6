import Mathlib
import ChargeLedger.Text.Utf8

/-!
# ASCII text through its octets

Rules that count and cut text in octets (a date's fixed positions, the number in a file
reference) act on ASCII text as they would on its characters: each character is one octet,
the octet of its code, and reading octets cut anywhere gives back the characters they came
from. A text has as many octets as characters exactly when it is ASCII.
-/

set_option autoImplicit false

theorem ByteArray.toList_loop_eq (bs : ByteArray) (i : Nat) (r : List UInt8) :
    ByteArray.toList.loop bs i r = r.reverse ++ bs.data.toList.drop i := by
  fun_induction ByteArray.toList.loop bs i r with
  | case1 i r hi ih =>
    rw [ih, List.reverse_cons, List.append_assoc, List.singleton_append]
    have hi' : i < bs.data.toList.length := by simpa using hi
    have hget : bs.get! i = bs.data.toList[i] := by
      simp [ByteArray.get!, getElem!_pos bs.data i (by simpa using hi)]
    rw [hget, List.getElem_cons_drop]
  | case2 i r hi =>
    rw [List.drop_eq_nil_of_le (by simpa using hi), List.append_nil]

theorem ByteArray.toList_eq_data_toList (bs : ByteArray) : bs.toList = bs.data.toList := by
  simp [ByteArray.toList, ByteArray.toList_loop_eq]

namespace ChargeLedger.Utf8

def isAscii (c : Char) : Bool := c.toNat < 128

theorem octets_eq_flatMap (s : String) : octets s = s.toList.flatMap String.utf8EncodeChar := by
  rw [octets, String.toUTF8_eq_toByteArray, ← String.utf8Encode_toList, List.utf8Encode,
    ByteArray.toList_eq_data_toList, List.toList_data_toByteArray]

theorem length_octets (s : String) : (octets s).length = (s.toList.map Char.utf8Size).sum := by
  rw [octets_eq_flatMap, List.length_flatMap]
  simp only [String.length_utf8EncodeChar]

theorem utf8Size_eq_one {c : Char} (h : isAscii c = true) : c.utf8Size = 1 := by
  rw [Char.utf8Size_eq_one_iff, UInt32.le_iff_toNat_le]
  simp only [isAscii, decide_eq_true_eq] at h
  exact Nat.le_of_lt_succ h

theorem flatMap_utf8EncodeChar_ascii (l : List Char) (h : ∀ c ∈ l, isAscii c = true) :
    l.flatMap String.utf8EncodeChar = l.map Char.toUInt8 := by
  induction l with
  | nil => rfl
  | cons c l ih =>
    rw [List.flatMap_cons, String.utf8EncodeChar_eq_singleton (utf8Size_eq_one (h c (by simp))),
      List.map_cons, ih fun d hd => h d (List.mem_cons_of_mem c hd)]
    rfl

theorem octets_ascii {s : String} (h : ∀ c ∈ s.toList, isAscii c = true) :
    octets s = s.toList.map Char.toUInt8 := by
  rw [octets_eq_flatMap, flatMap_utf8EncodeChar_ascii _ h]

theorem toNat_toUInt8 {c : Char} (h : isAscii c = true) : c.toUInt8.toNat = c.toNat := by
  simp only [isAscii, decide_eq_true_eq] at h
  simp only [Char.toUInt8, UInt32.toNat_toUInt8, Char.toNat] at h ⊢
  omega

theorem front_ascii {c : Char} (h : isAscii c = true) (rest : List UInt8) :
    front (c.toUInt8 :: rest) = (c, 1) := by
  have hlt : c.toUInt8 < 0x80 := by
    rw [UInt8.lt_iff_toNat_lt, toNat_toUInt8 h]
    simpa [isAscii] using h
  simp only [front, hlt, if_true, toNat_toUInt8 h, Char.ofNat_toNat]

theorem decodeLossy_ascii (l : List Char) (h : ∀ c ∈ l, isAscii c = true) :
    decodeLossy (l.map Char.toUInt8) = l := by
  induction l with
  | nil => exact decodeLossy_nil
  | cons c l ih =>
    rw [List.map_cons, decodeLossy.eq_def]
    simp only [front_ascii (h c (by simp)), Nat.max_self, List.drop_one, List.tail_cons]
    rw [ih fun x hx => h x (List.mem_cons_of_mem c hx)]

theorem toText_ascii (l : List Char) (h : ∀ c ∈ l, isAscii c = true) :
    toText (l.map Char.toUInt8) = String.ofList l := by
  rw [toText, decodeLossy_ascii l h]

theorem dropOctets_ascii {s : String} (h : ∀ c ∈ s.toList, isAscii c = true) (i : Nat) :
    dropOctets s i = String.ofList (s.toList.drop i) := by
  rw [dropOctets, octets_ascii h, ← List.map_drop,
    toText_ascii _ fun c hc => h c (List.mem_of_mem_drop hc)]

theorem length_le_sum_utf8Size (l : List Char) : l.length ≤ (l.map Char.utf8Size).sum := by
  induction l with
  | nil => simp
  | cons c l ih =>
    simp only [List.map_cons, List.sum_cons, List.length_cons]
    have := Char.utf8Size_pos c
    omega

theorem ascii_of_sum_utf8Size {l : List Char} (h : (l.map Char.utf8Size).sum = l.length) :
    ∀ c ∈ l, isAscii c = true := by
  induction l with
  | nil => simp
  | cons c l ih =>
    -- every character takes at least one octet, so each takes exactly one
    have hc := Char.utf8Size_pos c
    have hl := length_le_sum_utf8Size l
    simp only [List.map_cons, List.sum_cons, List.length_cons] at h
    intro d hd
    rcases List.mem_cons.1 hd with rfl | hd
    · have h1 : d.utf8Size = 1 := by omega
      rw [Char.utf8Size_eq_one_iff, UInt32.le_iff_toNat_le] at h1
      have h127 : (127 : UInt32).toNat = 127 := rfl
      simp only [isAscii, Char.toNat, decide_eq_true_eq]
      omega
    · exact ih (by omega) d hd

/-- A text has as many octets as characters only when it is ASCII. -/
theorem ascii_of_length_octets {s : String} (h : (octets s).length = s.toList.length) :
    ∀ c ∈ s.toList, isAscii c = true :=
  ascii_of_sum_utf8Size (by rw [← length_octets, h])

end ChargeLedger.Utf8
