import FeatureCard.Text.Ranges

/-!
# Sets of characters

What may stand in the place of one character: ranges in their order, no two of which touch.
-/

namespace FeatureCard.Pattern

open Text (Ranges)

structure CharSet where
  ranges : Ranges
  deriving DecidableEq, Repr

namespace CharSet

def has (c : Char) (s : CharSet) : Bool := s.ranges.has c

/-- Puts a range among others. Those that it meets become one with it. -/
def addRange (r : Nat × Nat) : Ranges → Ranges
  | [] => [r]
  | s :: rest =>
    if r.2 + 1 < s.1 then r :: s :: rest
    else if s.2 + 1 < r.1 then s :: addRange r rest
    else addRange (min r.1 s.1, max r.2 s.2) rest

def ofRanges (rs : Ranges) : CharSet := ⟨rs.foldl (fun set r => addRange r set) []⟩

def none : CharSet := ⟨[]⟩

def isNone (s : CharSet) : Bool := s.ranges.isEmpty

/-! ## Code points -/

def lastPoint : Nat := 0x10FFFF

/-- The code point after this one. Those of surrogates are left out. -/
def pointAfter (n : Nat) : Nat := if n = 0xD7FF then 0xE000 else n + 1

def pointBefore (n : Nat) : Nat := if n = 0xE000 then 0xD7FF else n - 1

def between (first last : Char) : CharSet := ⟨[(first.toNat, last.toNat)]⟩

def single (c : Char) : CharSet := between c c

def all : CharSet := ⟨[(0, lastPoint)]⟩

def ofChars (cs : List Char) : CharSet := ofRanges (cs.map fun c => (c.toNat, c.toNat))

/-! ## Operations -/

def union (s t : CharSet) : CharSet := ofRanges (s.ranges ++ t.ranges)

def overlap? (r s : Nat × Nat) : Option (Nat × Nat) :=
  let first := max r.1 s.1
  let last := min r.2 s.2
  if first ≤ last then some (first, last) else .none

def inter (s t : CharSet) : CharSet :=
  ofRanges (s.ranges.flatMap fun r => t.ranges.filterMap (overlap? r))

def without (r s : Nat × Nat) : Ranges :=
  if (overlap? r s).isNone then [r]
  else
    (if r.1 < s.1 then [(r.1, pointBefore s.1)] else []) ++
      (if s.2 < r.2 then [(pointAfter s.2, r.2)] else [])

def diff (s t : CharSet) : CharSet :=
  ofRanges (t.ranges.foldl (fun left r => left.flatMap (without · r)) s.ranges)

def rangeOf (m n : Nat) : Nat × Nat := (min m n, max m n)

/-- What lies between ranges and up to the last code point, after a range that ends at `last`.
Between two ranges that the surrogates keep apart, the two characters at their ends are taken. -/
def gaps (last : Nat) : Ranges → Ranges
  | [] => if last < lastPoint then [(pointAfter last, lastPoint)] else []
  | r :: rest => rangeOf (pointAfter last) (pointBefore r.1) :: gaps r.2 rest

def complement (s : CharSet) : CharSet :=
  match s.ranges with
  | [] => all
  | r :: rest =>
    ofRanges ((if 0 < r.1 then [(0, pointBefore r.1)] else []) ++ gaps r.2 rest)

/-- A range moved to the letters of the other case of ASCII. -/
def otherCase (r : Nat × Nat) : Ranges :=
  let lower := (overlap? r (0x61, 0x7A)).map fun s => (s.1 - 32, s.2 - 32)
  let upper := (overlap? r (0x41, 0x5A)).map fun s => (s.1 + 32, s.2 + 32)
  lower.toList ++ upper.toList

def bothCases (s : CharSet) : CharSet := ofRanges (s.ranges ++ s.ranges.flatMap otherCase)

end CharSet

end FeatureCard.Pattern
