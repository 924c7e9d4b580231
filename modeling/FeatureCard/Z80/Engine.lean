import FeatureCard.Bus
import FeatureCard.Z80.Alu

/-!
# Engines

An engine executes instructions and counts their T-states. It accepts no interrupts itself, and what
it knows about them shows only in its snapshots: lists of bytes that it can be set back to. The
first 16 bytes of a snapshot are the registers, then come their shadows, the program counter, the
two interrupt flip-flops, the interrupt mode, 8 bytes of the count, and the latches of the execution.
-/

namespace FeatureCard.Z80

/-- The registers of a byte, the stack pointer's halves left out. -/
inductive ByteReg where
  | a
  | f
  | b
  | c
  | d
  | e
  | h
  | l
  | shadowA
  | shadowF
  | shadowB
  | shadowC
  | shadowD
  | shadowE
  | shadowH
  | shadowL
  | i
  | r
  | ixHigh
  | ixLow
  | iyHigh
  | iyLow
  deriving DecidableEq, Repr

class Engine (ε : Type) where
  powerOn : ε
  /-- Executes an instruction. A halted engine stays as it is. -/
  execute : ε → BusProgram ε
  /-- The T-states of all instructions executed. -/
  cycles : ε → Nat
  halted : ε → Bool
  register : ε → ByteReg → UInt8
  sp : ε → UInt16
  pc : ε → UInt16
  setSp : ε → UInt16 → ε
  setPc : ε → UInt16 → ε
  serialize : ε → List UInt8
  /-- The engine set back to a snapshot. An engine that refuses it stays as it is. -/
  deserialize : ε → List UInt8 → Option ε

abbrev snapshotSize : Nat := 53

/-- The bytes of a snapshot, of which there are enough. -/
structure Snapshot where
  bytes : List UInt8
  complete : snapshotSize ≤ bytes.length
  deriving DecidableEq, Repr

namespace Snapshot

abbrev Place := Fin snapshotSize

def iff1 : Place := 34

def iff2 : Place := 35

def mode : Place := 36

def halted : Place := 46

def justEnabled : Place := 50

def byte (s : Snapshot) (place : Place) : UInt8 :=
  s.bytes.get ⟨place, Nat.lt_of_lt_of_le place.isLt s.complete⟩

def clear (s : Snapshot) (place : Place) : Snapshot where
  bytes := s.bytes.set place 0
  complete := by
    rw [List.length_set]
    exact s.complete

def capture {ε : Type} [Engine ε] (engine : ε) : Option Snapshot :=
  if complete : snapshotSize ≤ (Engine.serialize engine).length then
    some { bytes := Engine.serialize engine, complete }
  else none

def accepts (s : Snapshot) : Bool := s.byte iff1 != 0 && s.byte justEnabled == 0

/-- Further interrupts are off and the processor is awake. -/
def acknowledged (s : Snapshot) : Snapshot := ((s.clear iff1).clear iff2).clear halted

theorem byte_clear (s : Snapshot) (place other : Place) :
    (s.clear place).byte other = if other = place then 0 else s.byte other := by
  unfold byte clear
  simp only [List.get_eq_getElem, List.getElem_set]
  by_cases h : other = place
  · rw [if_pos h, if_pos (congrArg Fin.val h.symm)]
  · rw [if_neg h, if_neg fun hsame => h (Fin.ext hsame.symm)]

end Snapshot

end FeatureCard.Z80
