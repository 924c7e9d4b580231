import FeatureCard.Z80.Core

/-!
# A Z80 as the processor of the card

An engine that is mounted on the card. A halted engine spends four T-states at a time, and so does
an opcode that costs nothing. Interrupts are accepted for the engine: its snapshot says whether it
takes one, and it goes on from a snapshot in which the interrupt is acknowledged. While an interrupt
is accepted nothing drives the bus, so mode 0 sees a restart at 38 and mode 2 takes its vector from
the last byte of the table's page.
-/

namespace FeatureCard

def haltCycles : UInt32 := 4

namespace Z80

/-- What the floating bus holds. -/
def floatingBus : UInt8 := 0xFF

def restartAddress : UInt16 := 0x0038

structure Mounted (ε : Type) where
  engine : ε
  /-- The T-states spent halted or accepting interrupts. -/
  extra : Nat := 0
  deriving DecidableEq, Repr

namespace Mounted

variable {ε : Type} [Engine ε]

def powerOn : Mounted ε := { engine := Engine.powerOn }

def pc (m : Mounted ε) : UInt16 := Engine.pc m.engine

def sp (m : Mounted ε) : UInt16 := Engine.sp m.engine

def halted (m : Mounted ε) : Bool := Engine.halted m.engine

def totalCycles (m : Mounted ε) : Nat := Engine.cycles m.engine + m.extra

/-- Counts an instruction after which the engine is `engine`. A cost of zero becomes
`haltCycles`. -/
def account (m : Mounted ε) (engine : ε) : UInt32 × Mounted ε :=
  let cost := (Engine.cycles engine - Engine.cycles m.engine).toUInt32
  if cost = 0 then (haltCycles, { engine, extra := m.extra + haltCycles.toNat })
  else (cost, { m with engine })

def step (m : Mounted ε) : BusProgram (UInt32 × Mounted ε) := do
  let engine ← Engine.execute m.engine
  return m.account engine

/-- Pushes a word: the high byte first, then the low byte below it. -/
def push (engine : ε) (value : UInt16) : BusProgram ε := do
  let sp := Engine.sp engine - 2
  writeByte (sp + 1) (highByte value)
  writeByte sp (lowByte value)
  return Engine.setSp engine sp

def tableEntry (engine : ε) : UInt16 := word (Engine.register engine .i) floatingBus

/-- Where an accepted interrupt goes on, and what accepting it costs. -/
def handler (engine : ε) (mode : UInt8) : BusProgram (UInt16 × UInt32) :=
  match mode with
  | 2 => do
    let vector ← readWord (tableEntry engine)
    return (vector, 19)
  | _ => return (restartAddress, 13)

/-- Goes on in the handler with the old program counter on the stack. -/
def enter (m : Mounted ε) (mode : UInt8) : BusProgram (UInt32 × Mounted ε) := do
  let (target, cost) ← handler m.engine mode
  let engine ← push m.engine m.pc
  return (cost, { engine := Engine.setPc engine target, extra := m.extra + cost.toNat })

/-- The engine after the interrupt was acknowledged, and the interrupt mode. An engine that takes no
interrupt, or has no snapshot to go on from, is not set back. -/
def acknowledge (engine : ε) : Option (ε × UInt8) := do
  let s ← Snapshot.capture engine
  guard s.accepts
  let engine ← Engine.deserialize engine s.acknowledged.bytes
  return (engine, s.byte Snapshot.mode)

/-- Offers an interrupt. It is declined with a cost of 0. -/
def interrupt (m : Mounted ε) : BusProgram (UInt32 × Mounted ε) :=
  match acknowledge m.engine with
  | none => return (0, m)
  | some (engine, mode) => { m with engine }.enter mode

instance : Processor (Mounted ε) where
  step := step
  interrupt := interrupt

end Mounted

end Z80

abbrev Z80 := Z80.Mounted Z80.Core

def Z80.powerOn : Z80 := Mounted.powerOn

end FeatureCard
