/-!
# What the card asks of its host

The card owns neither the host's interrupt line nor its clock. It asks for the line to be raised
or lowered, and for a timer to fire once after some time.
-/

namespace FeatureCard

inductive Timer where
  | a
  | b
  deriving DecidableEq, Repr, Inhabited

namespace Timer

def name : Timer → String
  | a => "A"
  | b => "B"

def pendingBit : Timer → UInt8
  | a => 0x01
  | b => 0x02

end Timer

structure Period where
  hertz : Nat
  ticks : Nat
  deriving DecidableEq, Repr

/-- The span in milliseconds, in double precision. The division comes first. -/
def Period.millis (p : Period) : Float :=
  1000.0 / p.hertz.toUInt64.toFloat * p.ticks.toUInt64.toFloat

/-- A request to the host. Time spans are of type `τ`. -/
inductive HostCall (τ : Type) where
  | raise (irq : UInt8)
  | lower (irq : UInt8)
  | schedule (timer : Timer) (period : τ)
  | cancel (timer : Timer)
  deriving DecidableEq, Repr

def HostCall.map {τ υ : Type} (f : τ → υ) : HostCall τ → HostCall υ
  | raise irq => .raise irq
  | lower irq => .lower irq
  | schedule timer period => .schedule timer (f period)
  | cancel timer => .cancel timer

end FeatureCard
