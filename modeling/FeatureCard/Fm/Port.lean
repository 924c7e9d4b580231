import FeatureCard.Arithmetic
import FeatureCard.Fm.Chip

/-!
# The FM port

The card reaches the chip in two steps: an address, then data. Before data reaches a register, the
chip renders all frames owed up to the place the processor has reached in the block, so that a
write is heard from the right frame on. Registers below 8 do not exist on this chip, and register 9
stands for register 1.
-/

namespace FeatureCard.Fm

structure FmPort (χ : Type) where
  chip : χ
  /-- The address for data writes, if one was written since the last reset. -/
  latch : Option UInt8 := none
  frames : Nat := 0
  position : Nat := 0
  output : Array Frame := #[]

def targetOf (address : UInt8) : Option UInt8 :=
  if address < 0x08 then none else if address = 0x09 then some 0x01 else some address

namespace FmPort

variable {χ : Type} [FmChip χ]

/-- A port in front of `chip`, which is reset. -/
def attach (chip : χ) : FmPort χ := { chip := FmChip.reset chip }

def rendered (p : FmPort χ) : Nat := p.output.size

def status (p : FmPort χ) : UInt8 := FmChip.status p.chip

def writeAddress (p : FmPort χ) (address : UInt8) : FmPort χ :=
  { p with latch := some address }

def flush (p : FmPort χ) : FmPort χ :=
  if p.position ≤ p.rendered then p
  else
    let owed := Vector.replicate (p.position - p.rendered) Frame.silence
    let (chip, fresh) := FmChip.mix p.chip owed
    { p with chip, output := p.output ++ fresh.toArray }

/-- Writes data to the latched register, after the frames owed. -/
def writeData (p : FmPort χ) (value : UInt8) : FmPort χ × List Notice :=
  match p.latch with
  | none => (p, [.fmDataUnlatched value])
  | some address =>
    let p := p.flush
    match targetOf address with
    | none => (p, [.fmUndocumented value address])
    | some register =>
      ({ p with chip := FmChip.write p.chip register value },
        FmChip.writeNotices p.chip register value)

def count (p : FmPort χ) (micros : UInt32) : Bool × FmPort χ :=
  let (event, chip) := FmChip.count p.chip micros
  (event, { p with chip })

def begin (p : FmPort χ) (frames : Nat) : Checked (FmPort χ) := do
  let _ ← mulBelow word64 frames 2
  return { p with frames, position := 0, output := #[] }

/-- Moves the position on, at most to the end of the block. -/
def advance (p : FmPort χ) (frames : Nat) : Checked (FmPort χ) := do
  let position ← addBelow word64 p.position frames
  return { p with position := min position p.frames }

/-- Renders the rest of the block. Then `output` is the whole block. -/
def finish (p : FmPort χ) : FmPort χ :=
  { p with position := p.frames }.flush

/-- Resets the chip and forgets the address. The block stays. -/
def reset (p : FmPort χ) : FmPort χ :=
  { p with chip := FmChip.reset p.chip, latch := none }

end FmPort

end FeatureCard.Fm
