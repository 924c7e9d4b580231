import FeatureCard.Bus

/-!
# A bench for processors

64 KiB of plain memory and ports that answer with the complement of their number. The bench keeps a
record of all writes, inputs and outputs.
-/

namespace FeatureCard

structure Bench where
  memory : Vector UInt8 65536
  written : Array UInt16 := #[]
  inputs : Array UInt8 := #[]
  outputs : Array (UInt8 × UInt8) := #[]

namespace Bench

def ofFn (f : Nat → UInt8) : Bench where
  memory := Vector.ofFn fun i => f i

def read (b : Bench) (address : UInt16) : UInt8 := b.memory.get ⟨address.toNat, address.toNat_lt⟩

instance : Bus Bench where
  read := read
  write b address value :=
    { b with
      memory := b.memory.set address.toNat value address.toNat_lt
      written := b.written.push address }
  input b port := (port ^^^ 0xFF, { b with inputs := b.inputs.push port })
  output b port value := { b with outputs := b.outputs.push (port, value) }

def clearRecord (b : Bench) : Bench := { b with written := #[], inputs := #[], outputs := #[] }

end Bench

end FeatureCard
