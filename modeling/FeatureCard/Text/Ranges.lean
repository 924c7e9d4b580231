/-!
# Ranges of characters

A set of characters as a list of ranges, each from its first code point to its last.
-/

namespace FeatureCard.Text

/-- The first and the last code point of each range. -/
abbrev Ranges := List (Nat × Nat)

def Ranges.has (ranges : Ranges) (c : Char) : Bool :=
  ranges.any fun r => r.1 ≤ c.toNat && c.toNat ≤ r.2

end FeatureCard.Text
