import FeatureCard.Hosts.Offline

/-!
# Milliseconds

Moments and spans of time in double precision. They are kept as their bits, so that what is not a
number is handed back as it came.
-/

namespace FeatureCard.Hosts

/-- The bits of a double that counts milliseconds. -/
structure Millis where
  bits : UInt64
  deriving DecidableEq, Repr

namespace Millis

def ofFloat (x : Float) : Millis := ⟨x.toBits⟩

def toFloat (m : Millis) : Float := Float.ofBits m.bits

def ofPeriod (p : Period) : Millis := ofFloat p.millis

/-- The place in the total order of doubles: -0.0 is before 0.0. -/
def orderKey (m : Millis) : Int :=
  let bits := m.bits.toNat
  if bits < 0x8000000000000000 then bits else 0x7FFFFFFFFFFFFFFF - (bits : Int)

end Millis

instance : Instant Millis where
  zero := .ofFloat 0
  add a b := .ofFloat (a.toFloat + b.toFloat)
  reached deadline now := decide (deadline.toFloat ≤ now.toFloat)
  notAfter a b := decide (a.orderKey ≤ b.orderKey)
  -- A rounded sum that is above its first term is above it by at least half of the second.
  spans first last span :=
    (2.0 * ((last.toFloat - first.toFloat) / span.toFloat)).toUInt64.toNat + 2

end FeatureCard.Hosts
