/-!
# Blocks of the spelling table

The ASCII spelling table is kept in blocks: a block names its first code point and lists the
spelling of each code point from there on. A code point before the first or past the end of
the list is not in the block.
-/

set_option autoImplicit false

namespace ChargeLedger.Spelling

/-- Consecutive code points from the first, each with the ASCII text written for it. -/
structure Block where
  first : Nat
  spellings : List String
  deriving Repr

def Block.spell? (b : Block) (n : Nat) : Option String :=
  if b.first ≤ n then b.spellings[n - b.first]? else none

def Block.last (b : Block) : Nat := b.first + b.spellings.length - 1

theorem Block.spell?_isSome_iff (b : Block) (n : Nat) :
    (b.spell? n).isSome ↔ b.first ≤ n ∧ n < b.first + b.spellings.length := by
  unfold Block.spell?
  split
  · simp only [isSome_getElem?]
    omega
  · simp only [Option.isSome_none, Bool.false_eq_true, false_iff]
    omega

end ChargeLedger.Spelling
