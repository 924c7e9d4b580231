import FeatureCard.Decimal.Double

/-!
# Writing doubles

With a fixed number of places, rounded from the exact value, or with the fewest digits that read
back as the same double.
-/

namespace FeatureCard.Decimal

def withPoint (n places : Nat) : List Char :=
  let ds := Nat.toDigits 10 n
  let ds := List.replicate (places + 1 - ds.length) '0' ++ ds
  ds.take (ds.length - places) ++ '.' :: ds.drop (ds.length - places)

/-- A number with this many places after the point. From the middle it goes to the even digit. -/
def fixed (places : Nat) (x : Rat) : String :=
  String.ofList (withPoint (roundToEven (x * 10 ^ places)).toNat places)

/-! ## The fewest digits -/

/-- The fractions that are nearer to a double than to any other lie between these bounds. The middle
between two doubles belongs to the one with the even last bit. -/
structure Interval where
  low : Rat
  high : Rat
  closed : Bool
  deriving DecidableEq, Repr

def Interval.contains (i : Interval) (x : Rat) : Bool :=
  if i.closed then decide (i.low ≤ x ∧ x ≤ i.high) else decide (i.low < x ∧ x < i.high)

/-- What reads back as the double with these bits. Below a power of two the doubles lie closer. -/
def intervalOf (bits : Nat) : Interval :=
  let (m, e) := significand bits
  let unit := (2 : Rat) ^ e
  let below := if m = leadingBit ∧ smallestExponent < e then unit / 4 else unit / 2
  { low := m * unit - below, high := m * unit + unit / 2, closed := m % 2 = 0 }

/-- The multiple of `10 ^ p` nearest to `x` within the interval, divided by `10 ^ p`. -/
def onGrid? (i : Interval) (x : Rat) (p : Int) : Option Nat :=
  let unit := (10 : Rat) ^ p
  let below := (x / unit).floor.toNat
  let fits (n : Nat) : Bool := i.contains (n * unit)
  match fits below, fits (below + 1) with
  | true, true => if x - below * unit ≤ (below + 1) * unit - x then some below else some (below + 1)
  | true, false => some below
  | false, true => some (below + 1)
  | false, false => none

/-- Every positive double is below this power of ten. -/
def highestPower : Int := 309

/-- Every grid finer than this power of ten has a point for every positive double. -/
def gridCount : Nat := 640

/-- The digits and the power of ten of the shortest number that reads back as `x`, which is zero or
positive. -/
def shortest (x : Float) : Nat × Int :=
  let i := intervalOf x.toBits.toNat
  let value := ratOfDouble x
  let hit (k : Nat) : Option (Nat × Int) :=
    (onGrid? i value (highestPower - k)).map (·, highestPower - k)
  ((List.range gridCount).findSome? hit).getD (0, 0)

/-- A number that is not negative, with the fewest digits that read back. There is always a digit
after the point. -/
def plain (x : Float) : String :=
  let (n, p) := shortest x
  if 0 ≤ p then String.ofList (withPoint (n * Nat.pow 10 (p.toNat + 1)) 1)
  else String.ofList (withPoint n (-p).toNat)

end FeatureCard.Decimal
