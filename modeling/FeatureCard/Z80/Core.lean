import FeatureCard.Arithmetic
import FeatureCard.Z80.Engine
import FeatureCard.Z80.Execute

/-!
# The engine of the card

It executes the instructions of this library. Its registers and latches are in its snapshots at
their places, the count with its low 64 bits. It has no index registers: their bytes are zero.
-/

namespace FeatureCard.Z80

namespace InterruptMode

def toByte : InterruptMode → UInt8
  | zero => 0
  | one => 1
  | two => 2

def ofByte : UInt8 → InterruptMode
  | 1 => one
  | 2 => two
  | _ => zero

end InterruptMode

/-! ## Numbers in bytes -/

/-- The low `width` bytes of a number, the lowest first. -/
def littleEndian : Nat → Nat → List UInt8
  | 0, _ => []
  | width + 1, n => n.toUInt8 :: littleEndian width (n / 256)

def ofLittleEndian : List UInt8 → Nat
  | [] => 0
  | byte :: bytes => byte.toNat + 256 * ofLittleEndian bytes

/-- How many counts the bytes of a snapshot tell apart. -/
def countLimit : Nat := word64

/-! ## The engine -/

structure Core where
  state : State
  /-- The T-states of all instructions executed. -/
  executed : Nat := 0
  deriving DecidableEq, Repr

namespace State

def register (z : State) : ByteReg → UInt8
  | .a => z.main.a
  | .f => z.main.f
  | .b => z.main.b
  | .c => z.main.c
  | .d => z.main.d
  | .e => z.main.e
  | .h => z.main.h
  | .l => z.main.l
  | .shadowA => z.alternate.a
  | .shadowF => z.alternate.f
  | .shadowB => z.alternate.b
  | .shadowC => z.alternate.c
  | .shadowD => z.alternate.d
  | .shadowE => z.alternate.e
  | .shadowH => z.alternate.h
  | .shadowL => z.alternate.l
  | .i => z.i
  | .r => z.r
  | .ixHigh | .ixLow | .iyHigh | .iyLow => 0

/-- The bytes of a snapshot taken after `executed` T-states. -/
def toBytes (z : State) (executed : Nat) : List UInt8 :=
  [z.main.b, z.main.c, z.main.d, z.main.e, z.main.h, z.main.l, z.main.f, z.main.a,
    z.i, z.r, highByte z.sp, lowByte z.sp, 0, 0, 0, 0] ++
  [z.alternate.b, z.alternate.c, z.alternate.d, z.alternate.e, z.alternate.h, z.alternate.l,
    z.alternate.f, z.alternate.a, 0, 0, 0, 0, 0, 0, 0, 0] ++
  [lowByte z.pc, highByte z.pc, maskIf 1 z.iff1, maskIf 1 z.iff2, z.mode.toByte] ++
  littleEndian 8 executed ++
  [0, maskIf 1 z.halted, 0, 0, 0, maskIf 1 z.justEnabled, 0, 0]

/-- The registers and latches that a snapshot holds, `byte` being its bytes by their places. -/
def ofBytes (byte : Nat → UInt8) : State where
  main :=
    { b := byte 0, c := byte 1, d := byte 2, e := byte 3, h := byte 4, l := byte 5, f := byte 6,
      a := byte 7 }
  i := byte 8
  r := byte 9
  sp := word (byte 10) (byte 11)
  alternate :=
    { b := byte 16, c := byte 17, d := byte 18, e := byte 19, h := byte 20, l := byte 21,
      f := byte 22, a := byte 23 }
  pc := word (byte 33) (byte 32)
  iff1 := byte 34 != 0
  iff2 := byte 35 != 0
  mode := .ofByte (byte 36)
  halted := byte 46 != 0
  justEnabled := byte 50 != 0

end State

namespace Core

def powerOn : Core := { state := .powerOn }

def execute (c : Core) : BusProgram Core :=
  if c.state.halted then return c
  else do
    let (op, z) ← c.state.fetch
    let (cost, z) ← State.execute { z with justEnabled := false } op
    return { state := z, executed := c.executed + cost.toNat }

/-- The engine set back to a snapshot. What a snapshot cannot hold of the count stays. -/
def deserialize (c : Core) (bytes : List UInt8) : Option Core :=
  if bytes.length = snapshotSize then
    some
      { state := .ofBytes (bytes.getD · 0)
        executed :=
          c.executed / countLimit * countLimit + ofLittleEndian ((bytes.drop 37).take 8) }
  else none

instance : Engine Core where
  powerOn := powerOn
  execute := execute
  cycles c := c.executed
  halted c := c.state.halted
  register c := c.state.register
  sp c := c.state.sp
  pc c := c.state.pc
  setSp c sp := { c with state := { c.state with sp } }
  setPc c pc := { c with state := { c.state with pc } }
  serialize c := c.state.toBytes c.executed
  deserialize := deserialize

end Core

end FeatureCard.Z80
