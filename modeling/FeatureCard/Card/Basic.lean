import FeatureCard.Bus
import FeatureCard.Config.Basic
import FeatureCard.Device
import FeatureCard.Memory
import FeatureCard.SampleClock

/-!
# The card

The devices, the memory and the processor, with the settings they were built from. The host reaches
the devices through 16 ports. A card without firmware has no memory: its ports answer, but its
processor never runs.
-/

namespace FeatureCard

open Fm (FmChip Frame)

structure RenderStats where
  frames : Nat := 0
  instructions : Nat := 0
  /-- Steps that began with the attention line up. -/
  attentionSteps : Nat := 0
  interruptsTaken : Nat := 0
  cycles : Nat := 0
  deriving DecidableEq, Repr, Inhabited

structure Card (κ χ : Type) where
  config : Config
  memory : Option Memory
  device : Device χ
  cpu : κ
  clock : SampleClock
  /-- The processor's attention line, as it was after the last step. -/
  attention : Bool := false
  stats : RenderStats := {}

namespace Card

variable {κ χ : Type} [FmChip χ]

/-- A card from its parts. Without firmware it is disabled. -/
def assemble (config : Config) (firmware : Option ByteArray) (cpu : κ) (chip : χ) : Card κ χ where
  config := config
  memory := firmware.map Memory.ofFirmware
  device := .powerOn config.irq chip
  cpu := cpu
  clock := .ofRate config.sampleRate

def assembleNotices (config : Config) : Option ByteArray → List Notice
  | none => []
  | some firmware =>
    Memory.loadNotices firmware ++
      [.cardReady config.basePort config.irq config.effectiveRate config.cyclesPerSample]

def enabled (c : Card κ χ) : Bool := c.memory.isSome

def offsetOf (c : Card κ χ) (port : UInt16) : Checked UInt8 := do
  let offset ← subtract port.toNat c.config.basePort.toNat
  return offset.toUInt8

def read (c : Card κ χ) (port : UInt16) : Checked (UInt8 × Card κ χ × List Effect) :=
  if c.config.decodes port then do
    let offset ← c.offsetOf port
    let (value, device, effects) := c.device.hostRead offset
    return (value, { c with device }, effects)
  else return (openBus, c, [.note (.hostReadOutside port)])

def write (c : Card κ χ) (port : UInt16) (value : UInt8) : Checked (Card κ χ × List Effect) :=
  if c.config.decodes port then do
    let offset ← c.offsetOf port
    let (device, effects) := c.device.hostWrite offset value
    return ({ c with device }, effects)
  else return (c, [.note (.hostWriteOutside port)])

def timerExpired (c : Card κ χ) (timer : Timer) : Card κ χ × List Effect :=
  let (device, effects) := c.device.timerExpired timer
  ({ c with device }, effects)

def enqueue (c : Card κ χ) (chunk : List UInt8) : Nat × Card κ χ × List Effect :=
  let (accepted, device, effects) := c.device.enqueue chunk
  (accepted, { c with device }, effects)

end Card

end FeatureCard
