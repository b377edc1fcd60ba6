/-!
# UTF-8 octets and their lossy reading

Some rules of the ledger count and cut text in octets (a date's fixed positions, the
number in a file reference). A cut can split a character; reading the octets back
then replaces each octet that starts no well-formed sequence by U+FFFD and goes on
with the next octet, so a stray octet costs one replacement character and never
swallows its neighbours.
-/

set_option autoImplicit false

namespace ChargeLedger.Utf8

def replacement : Char := '�'

def isTail (b : UInt8) : Bool := 0x80 ≤ b && b ≤ 0xBF

def tailBits (b : UInt8) : Nat := (b &&& 0x3F).toNat

def front : List UInt8 → Char × Nat
  | [] => (replacement, 1)
  | b0 :: rest =>
    if b0 < 0x80 then (Char.ofNat b0.toNat, 1)
    else if 0xC2 ≤ b0 && b0 ≤ 0xDF then
      match rest with
      | b1 :: _ =>
        if isTail b1 then (Char.ofNat ((b0 &&& 0x1F).toNat * 64 + tailBits b1), 2)
        else (replacement, 1)
      | [] => (replacement, 1)
    else if 0xE0 ≤ b0 && b0 ≤ 0xEF then
      match rest with
      | b1 :: b2 :: _ =>
        let lo : UInt8 := if b0 == 0xE0 then 0xA0 else 0x80
        let hi : UInt8 := if b0 == 0xED then 0x9F else 0xBF
        if lo ≤ b1 && b1 ≤ hi && isTail b2 then
          (Char.ofNat ((b0 &&& 0x0F).toNat * 4096 + tailBits b1 * 64 + tailBits b2), 3)
        else (replacement, 1)
      | _ => (replacement, 1)
    else if 0xF0 ≤ b0 && b0 ≤ 0xF4 then
      match rest with
      | b1 :: b2 :: b3 :: _ =>
        let lo : UInt8 := if b0 == 0xF0 then 0x90 else 0x80
        let hi : UInt8 := if b0 == 0xF4 then 0x8F else 0xBF
        if lo ≤ b1 && b1 ≤ hi && isTail b2 && isTail b3 then
          (Char.ofNat ((b0 &&& 0x07).toNat * 262144 + tailBits b1 * 4096 + tailBits b2 * 64
            + tailBits b3), 4)
        else (replacement, 1)
      | _ => (replacement, 1)
    else (replacement, 1)

def decodeLossy (l : List UInt8) : List Char :=
  match l with
  | [] => []
  | b :: bs =>
    let r := front (b :: bs)
    r.1 :: decodeLossy ((b :: bs).drop (max r.2 1))
termination_by l.length
decreasing_by simp only [List.length_drop, List.length_cons]; omega

def octets (s : String) : List UInt8 := s.toUTF8.toList

def toText (l : List UInt8) : String := String.ofList (decodeLossy l)

def dropOctets (s : String) (i : Nat) : String := toText ((octets s).drop i)

theorem decodeLossy_nil : decodeLossy [] = [] := by
  simp [decodeLossy]

end ChargeLedger.Utf8
