import FeatureCard.Bus
import FeatureCard.Z80.Alu

/-!
# The registers of a Z80

Two banks of eight registers, the stack pointer and program counter, and what the processor knows
about interrupts.
-/

namespace FeatureCard

inductive Z80.InterruptMode where
  | zero
  | one
  | two
  deriving DecidableEq, Repr

structure Z80.Bank where
  a : UInt8
  f : UInt8
  b : UInt8 := 0
  c : UInt8 := 0
  d : UInt8 := 0
  e : UInt8 := 0
  h : UInt8 := 0
  l : UInt8 := 0
  deriving DecidableEq, Repr

structure Z80.State where
  main : Z80.Bank
  alternate : Z80.Bank
  i : UInt8
  r : UInt8
  sp : UInt16
  pc : UInt16
  iff1 : Bool
  /-- What returning from a non-maskable interrupt restores. -/
  iff2 : Bool
  mode : Z80.InterruptMode
  halted : Bool
  /-- The last instruction enabled interrupts, so none is accepted before the next. -/
  justEnabled : Bool
  deriving DecidableEq, Repr

namespace Z80

def State.powerOn : State where
  main := { a := 0xFF, f := 0xFF }
  alternate := { a := 0, f := 0 }
  i := 0
  r := 0
  sp := 0xFFFF
  pc := 0
  iff1 := false
  iff2 := false
  mode := .zero
  halted := false
  justEnabled := false

/-! ## Registers by name -/

inductive Reg where
  | b
  | c
  | d
  | e
  | h
  | l
  | a
  deriving DecidableEq, Repr

inductive Place where
  | reg (r : Reg)
  | atHL
  deriving DecidableEq, Repr

def Place.ofBits : UInt8 → Place
  | 0 => .reg .b
  | 1 => .reg .c
  | 2 => .reg .d
  | 3 => .reg .e
  | 4 => .reg .h
  | 5 => .reg .l
  | 6 => .atHL
  | _ => .reg .a

inductive Pair where
  | bc
  | de
  | hl
  | sp
  | af
  deriving DecidableEq, Repr

/-- The pair that two bits of an opcode name. The fourth is SP. -/
def Pair.ofBits : UInt8 → Pair
  | 0 => .bc
  | 1 => .de
  | 2 => .hl
  | _ => .sp

/-- The pair that two bits of a push or pop name. The fourth is AF. -/
def Pair.ofStackBits : UInt8 → Pair
  | 0 => .bc
  | 1 => .de
  | 2 => .hl
  | _ => .af

namespace State

def get (z : State) : Reg → UInt8
  | .b => z.main.b
  | .c => z.main.c
  | .d => z.main.d
  | .e => z.main.e
  | .h => z.main.h
  | .l => z.main.l
  | .a => z.main.a

def set (z : State) (r : Reg) (v : UInt8) : State :=
  match r with
  | .b => { z with main := { z.main with b := v } }
  | .c => { z with main := { z.main with c := v } }
  | .d => { z with main := { z.main with d := v } }
  | .e => { z with main := { z.main with e := v } }
  | .h => { z with main := { z.main with h := v } }
  | .l => { z with main := { z.main with l := v } }
  | .a => { z with main := { z.main with a := v } }

def bc (z : State) : UInt16 := word z.main.b z.main.c

def de (z : State) : UInt16 := word z.main.d z.main.e

def hl (z : State) : UInt16 := word z.main.h z.main.l

def pair (z : State) : Pair → UInt16
  | .bc => z.bc
  | .de => z.de
  | .hl => z.hl
  | .sp => z.sp
  | .af => word z.main.a z.main.f

def setPair (z : State) (p : Pair) (w : UInt16) : State :=
  match p with
  | .bc => { z with main := { z.main with b := highByte w, c := lowByte w } }
  | .de => { z with main := { z.main with d := highByte w, e := lowByte w } }
  | .hl => { z with main := { z.main with h := highByte w, l := lowByte w } }
  | .sp => { z with sp := w }
  | .af => { z with main := { z.main with a := highByte w, f := lowByte w } }

def setF (z : State) (f : UInt8) : State := { z with main := { z.main with f } }

def setAF (z : State) (a f : UInt8) : State := { z with main := { z.main with a, f } }

def skip (z : State) (n : UInt16) : State := { z with pc := z.pc + n }

def jump (z : State) (target : UInt16) : State := { z with pc := target }

def exchangeAF (z : State) : State :=
  { z with
    main := { z.main with a := z.alternate.a, f := z.alternate.f }
    alternate := { z.alternate with a := z.main.a, f := z.main.f } }

def exchangeAll (z : State) : State :=
  { z with
    main := { z.alternate with a := z.main.a, f := z.main.f }
    alternate := { z.main with a := z.alternate.a, f := z.alternate.f } }

end State

end Z80

end FeatureCard
