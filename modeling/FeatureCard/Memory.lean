import FeatureCard.Notice

/-!
# The memory of the card's processor

The lower half of the address space is the firmware, which cannot be written. The upper half is
16 KiB of work memory, seen twice.
-/

namespace FeatureCard

def romSize : Nat := 0x8000

def ramSize : Nat := 0x4000

structure Memory where
  rom : Vector UInt8 romSize
  ram : Vector UInt8 ramSize

namespace Memory

/-- Memory with this firmware, filled up with zeros or cut to the size of the store. -/
def ofFirmware (firmware : ByteArray) : Memory where
  rom := Vector.ofFn fun i => if h : i < firmware.size then firmware[i] else 0
  ram := Vector.replicate ramSize 0

def loadNotices (firmware : ByteArray) : List Notice :=
  if romSize < firmware.size then [.firmwareTruncated firmware.size] else []

def ramIndex (address : UInt16) : Fin ramSize :=
  ⟨address.toNat % ramSize, Nat.mod_lt _ (by decide)⟩

def read (m : Memory) (address : UInt16) : UInt8 :=
  if h : address.toNat < romSize then m.rom[address.toNat] else m.ram[ramIndex address]

/-- Writes into work memory. Elsewhere nothing happens. -/
def write (m : Memory) (address : UInt16) (value : UInt8) : Memory :=
  if address.toNat < romSize then m
  else { m with ram := m.ram.set (ramIndex address) value }

end Memory

end FeatureCard
