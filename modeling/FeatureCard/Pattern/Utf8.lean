import FeatureCard.Pattern.CharSet

/-!
# Sets of characters in UTF-8

A range of characters is written as sequences of byte ranges: a text of bytes is the encoding of a
character in the range exactly if one of the sequences takes it, byte by byte.
-/

namespace FeatureCard.Pattern

open Text (Ranges)

abbrev ByteRanges := List (Nat × Nat)

def tailMark : Nat := 0x80

/-- The sequences for numbers from `low` to `high` in a first byte and `tails` more, of six bits
each. `mark` is what the first byte holds beside its part of the number. -/
def byteSequences (mark : Nat) : (tails : Nat) → (low high : Nat) → List ByteRanges
  | 0, low, high => [[(mark + low, mark + high)]]
  | tails + 1, low, high =>
    let unit := 64 ^ (tails + 1)
    let first := low / unit
    let last := high / unit
    let under (lead low high : Nat) :=
      (byteSequences tailMark tails low high).map ((mark + lead, mark + lead) :: ·)
    if first = last then under first (low % unit) (high % unit)
    else
      -- A first byte below which not all numbers are meant stands for itself.
      let late := low % unit ≠ 0
      let early := high % unit ≠ unit - 1
      let begin := if late then first + 1 else first
      let stop := if early then last else last + 1
      let whole := (mark + begin, mark + stop - 1) ::
        List.replicate (tails + 1) (tailMark, tailMark + 63)
      (if late then under first (low % unit) (unit - 1) else []) ++
        (if begin < stop then [whole] else []) ++
        (if early then under last 0 (high % unit) else [])

/-- The characters that take a first byte and so many more, with what the first byte holds beside
the number. The surrogates are left out. -/
def utf8Blocks : List (Nat × Nat × (Nat × Nat)) :=
  [(0, 0, 0x00, 0x7F), (1, 0xC0, 0x80, 0x7FF), (2, 0xE0, 0x800, 0xD7FF),
    (2, 0xE0, 0xE000, 0xFFFF), (3, 0xF0, 0x10000, 0x10FFFF)]

def utf8Sequences (r : Nat × Nat) : List ByteRanges :=
  utf8Blocks.flatMap fun (tails, mark, block) =>
    match CharSet.overlap? r block with
    | some (low, high) => byteSequences mark tails low high
    | none => []

def CharSet.utf8 (s : CharSet) : List ByteRanges := s.ranges.flatMap utf8Sequences

end FeatureCard.Pattern
