import FeatureCard.Fm.Chip

/-!
# A silent chip with the OPM timers

The register file and the two timers of an OPM chip, without sound. Firmware paces its work by
these timers. A timer is a down-counter in microseconds, in double precision; when it runs over it
starts again from where it would have been.
-/

namespace FeatureCard.Fm

structure ChipTimer where
  period : Float := 0
  remaining : Float := 0
  running : Bool := false
  deriving DecidableEq, Repr

namespace ChipTimer

def start (t : ChipTimer) : ChipTimer :=
  { t with running := true, remaining := t.period }

def stop (t : ChipTimer) : ChipTimer :=
  { t with running := false, remaining := 0 }

/-- Adds `period` to `remaining`, at most `fuel` times, until it is above zero. -/
def refill (period : Float) : Nat → Float → Float
  | 0, remaining => remaining
  | fuel + 1, remaining =>
    if remaining ≤ 0 then refill period fuel (remaining + period) else remaining

/-- More periods than fit into `micros` microseconds. No clock makes a period shorter than
1/128 microsecond. -/
def refillLimit (micros : UInt32) : Nat := 128 * micros.toNat + 2

def advance (t : ChipTimer) (micros : UInt32) : Bool × ChipTimer :=
  if !t.running || t.period ≤ 0 then (false, t)
  else
    let remaining := t.remaining - micros.toFloat
    if 0 < remaining then (false, { t with remaining })
    else (true, { t with remaining := refill t.period (refillLimit micros) remaining })

end ChipTimer

structure OpmTimers where
  clockHertz : UInt32
  registers : Vector UInt8 256
  status : UInt8
  timerA : ChipTimer
  timerB : ChipTimer
  deriving DecidableEq

namespace OpmTimers

def cardClockHertz : UInt32 := 4000000

/-- The register that loads, enables and resets the timers. -/
def controlRegister : UInt8 := 0x14

def register (c : OpmTimers) (address : UInt8) : UInt8 :=
  c.registers.get ⟨address.toNat, address.toNat_lt⟩

/-- Timer A's count: eight bits of register 10 and two bits of register 11. -/
def countA (c : OpmTimers) : Nat :=
  (c.register 0x10).toNat * 4 + (c.register 0x11).toNat % 4

def countB (c : OpmTimers) : Nat := (c.register 0x12).toNat

def micros (c : OpmTimers) (prescale : Float) (ticks : Nat) : Float :=
  prescale * ticks.toUInt32.toFloat * 1000000.0 / c.clockHertz.toFloat

/-- Sets timer A's period by its registers. The time that remains stays. -/
def loadPeriodA (c : OpmTimers) : OpmTimers :=
  { c with timerA := { c.timerA with period := c.micros 64.0 (1024 - c.countA) } }

def loadPeriodB (c : OpmTimers) : OpmTimers :=
  { c with timerB := { c.timerB with period := c.micros 1024.0 (256 - c.countB) } }

def powerOn (clockHertz : UInt32) : OpmTimers :=
  let blank : OpmTimers :=
    { clockHertz, registers := Vector.replicate 256 0, status := 0, timerA := {}, timerB := {} }
  blank.loadPeriodA.loadPeriodB

def applyLoad (t : ChipTimer) (before after : Bool) : ChipTimer :=
  if before = after then t else if after then t.start else t.stop

def bit (value mask : UInt8) : Bool := value &&& mask ≠ 0

/-- What a value for the control register does. Bits 0 and 1 load the timers when they change,
bits 4 and 5 clear the status bits. -/
def writeControl (c : OpmTimers) (value : UInt8) : OpmTimers :=
  let before := c.register controlRegister
  let status := if bit value 0x10 then c.status &&& ~~~0x01 else c.status
  let status := if bit value 0x20 then status &&& ~~~0x02 else status
  { c with
    status
    timerA := applyLoad c.timerA (bit before 0x01) (bit value 0x01)
    timerB := applyLoad c.timerB (bit before 0x02) (bit value 0x02) }

def store (c : OpmTimers) (address value : UInt8) : OpmTimers :=
  { c with registers := c.registers.set address.toNat value address.toNat_lt }

def writeRegister (c : OpmTimers) (address value : UInt8) : OpmTimers :=
  let c := if address = controlRegister then c.writeControl value else c
  let c := c.store address value
  if address = 0x10 ∨ address = 0x11 then c.loadPeriodA
  else if address = 0x12 then c.loadPeriodB
  else c

/-- Lets microseconds pass. A timer that runs over sets its status bit if its enable bit, 2 or 3 of
the control register, is set. -/
def advance (c : OpmTimers) (micros : UInt32) : Bool × OpmTimers :=
  let control := c.register controlRegister
  let (overA, timerA) := c.timerA.advance micros
  let (overB, timerB) := c.timerB.advance micros
  let status := if overA && bit control 0x04 then c.status ||| 0x01 else c.status
  let status := if overB && bit control 0x08 then status ||| 0x02 else status
  (overA || overB, { c with timerA, timerB, status })

instance : FmChip OpmTimers where
  reset c := powerOn c.clockHertz
  write := writeRegister
  status c := c.status
  count := advance
  mix c frames := (c, frames)
  writeNotices _ register value := [.fmRegister register value]

end OpmTimers

end FeatureCard.Fm
