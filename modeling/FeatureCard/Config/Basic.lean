import FeatureCard.SampleClock
import FeatureCard.Text.Hex

/-!
# Card settings

The first of the card's 16 host ports, its interrupt line, the rate asked for and the path of the
firmware.
-/

namespace FeatureCard

open FeatureCard.Text (hexWord)

structure Config where
  basePort : UInt16 := 0x2A20
  irq : UInt8 := 3
  /-- The rate asked for. The rate in use is at least 8000. -/
  sampleRate : UInt32 := 44100
  /-- Without firmware the card stays silent. -/
  firmware : Option String := none
  deriving DecidableEq, Repr, Inhabited

inductive ConfigFault where
  | noRoom (basePort : UInt16)
  | irqOutOfRange (irq : UInt8)
  deriving DecidableEq, Repr

def ConfigFault.message : ConfigFault → String
  | noRoom basePort => s!"base port {hexWord basePort} leaves no room for 16 ports"
  | irqOutOfRange irq => s!"IRQ {irq} out of range 0-15"

namespace Config

def portCount : Nat := 16

def validate (c : Config) : Except ConfigFault Unit :=
  if 0x10000 < c.basePort.toNat + portCount then .error (.noRoom c.basePort)
  else if 15 < c.irq then .error (.irqOutOfRange c.irq)
  else .ok ()

/-- `port` is one of the card's ports. The window may run over the end of the address space. -/
def decodes (c : Config) (port : UInt16) : Bool :=
  decide ((port - c.basePort).toNat < portCount)

def effectiveRate (c : Config) : Nat := FeatureCard.effectiveRate c.sampleRate

def cyclesPerSample (c : Config) : Nat := FeatureCard.cyclesPerSample c.sampleRate

end Config

end FeatureCard
