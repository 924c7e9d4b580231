import FeatureCard.Arithmetic

/-!
# From processor time to sample time

The processor runs at 5.9 MHz; sound is asked for in frames. A block of frames grants the processor
a budget of T-states. `FrameCursor` counts the frames that the processor has reached in the block.
`elapsed` turns T-states into whole microseconds and keeps the rest for the next time, so that
nothing is lost over a long run.
-/

namespace FeatureCard

def processorHertz : Nat := 5900000

/-- The lowest rate of the output. Lower rates are raised to it. -/
def lowestRate : Nat := 8000

def effectiveRate (rate : UInt32) : Nat := max rate.toNat lowestRate

/-- T-states in a frame, rounded down. It is 0 for rates above 5900000. -/
def cyclesPerSample (rate : UInt32) : Nat := processorHertz / effectiveRate rate

def microsPerSecond : Nat := 1000000

structure SampleClock where
  rate : Nat
  cyclesPerSample : Nat
  /-- Time not yet handed out, in millionths of a T-state. -/
  remainder : Nat := 0
  deriving DecidableEq, Repr

structure FrameCursor where
  cyclesPerSample : Nat
  accumulated : Nat := 0
  deriving DecidableEq, Repr

namespace SampleClock

def ofRate (rate : UInt32) : SampleClock where
  rate := effectiveRate rate
  cyclesPerSample := FeatureCard.cyclesPerSample rate

/-- The T-states granted for a block. The number of frames is read as a signed word. -/
def budget (c : SampleClock) (frames : Nat) : Checked Int :=
  mulSigned64 c.cyclesPerSample (Int.bmod frames word64)

def cursor (c : SampleClock) : FrameCursor where
  cyclesPerSample := c.cyclesPerSample

/-- Whole microseconds in `cycles` T-states and the time kept from before. -/
def elapsed (c : SampleClock) (cycles : UInt32) : UInt32 × SampleClock :=
  let total := cycles.toNat * microsPerSecond + c.remainder
  ((total / processorHertz).toUInt32, { c with remainder := total % processorHertz })

end SampleClock

namespace FrameCursor

/-- Moves on by `cycles`. The answer is how many frames were completed. -/
def advance (c : FrameCursor) (cycles : UInt32) : Checked (Nat × FrameCursor) := do
  let total ← addBelow word32 c.accumulated cycles.toNat
  if total < c.cyclesPerSample then
    return (0, { c with accumulated := total })
  if c.cyclesPerSample = 0 then
    throw .quotient
  return (total / c.cyclesPerSample, { c with accumulated := total % c.cyclesPerSample })

end FrameCursor

end FeatureCard
