/-!
# Doubles as exact fractions

A double is a fraction whose denominator is a power of two. Between two doubles a fraction goes to
the nearer one, and from the middle to the one with the even last bit.
-/

namespace FeatureCard.Decimal

/-- The whole number nearest to `x`; from the middle the even one. -/
def roundToEven (x : Rat) : Int :=
  let below := x.floor
  let rest := x - below
  if rest < 1 / 2 ∨ (rest = 1 / 2 ∧ below % 2 = 0) then below else below + 1

def floorLog2 (x : Rat) : Int :=
  let e : Int := x.num.natAbs.log2 - x.den.log2
  if x < (2 : Rat) ^ e then e - 1 else e

def smallestExponent : Int := -1074

def fractionBits : Nat := 52

def leadingBit : Nat := 1 <<< fractionBits

def exponentCount : Nat := 0x800

def infinityBits : Nat := 0x7FF0000000000000

/-- The bits of the double nearest to a positive fraction. Doubles of the same sign are in the order
of their bits, so a carry out of the fraction goes into the exponent. -/
def bitsOfRat (x : Rat) : Nat :=
  let e := max (floorLog2 x - fractionBits) smallestExponent
  let n := roundToEven (x / (2 : Rat) ^ e)
  min infinityBits ((e - smallestExponent).toNat * leadingBit + n.toNat)

def doubleOfRat (x : Rat) : Float := Float.ofBits (bitsOfRat x).toUInt64

/-- The whole number `m` and the exponent `e` such that the double with these bits is `m · 2 ^ e`.
The sign does not count. -/
def significand (bits : Nat) : Nat × Int :=
  let fraction := bits % leadingBit
  let biased : Nat := bits / leadingBit % exponentCount
  if biased = 0 then (fraction, smallestExponent)
  else (leadingBit + fraction, smallestExponent + ((biased : Int) - 1))

def ratOfDouble (x : Float) : Rat :=
  let (m, e) := significand x.toBits.toNat
  m * (2 : Rat) ^ e

end FeatureCard.Decimal
