/-!
# The arithmetic of a Z80

Each operation takes bytes or words and the flag register, and gives its result and the flags after
it. Bits 3 and 5 of the flag register have no meaning of their own: they copy these bits of a byte
that took part in the operation, most often of its result.
-/

namespace FeatureCard.Z80

/-! ## Flags -/

def signFlag : UInt8 := 0x80
def zeroFlag : UInt8 := 0x40
def halfFlag : UInt8 := 0x10
/-- Parity or overflow, by the operation. -/
def parityFlag : UInt8 := 0x04
def subtractFlag : UInt8 := 0x02
def carryFlag : UInt8 := 0x01

/-- The flags without meaning. -/
def plainBits : UInt8 := 0x28

def flag (f mask : UInt8) : Bool := f &&& mask != 0

def maskIf (mask : UInt8) (condition : Bool) : UInt8 := if condition then mask else 0

/-- The flag register with all flags given, and its plain bits taken from `copied`. -/
def flags (copied : UInt8) (sign zero half parity subtract carry : Bool) : UInt8 :=
  (copied &&& plainBits) ||| maskIf signFlag sign ||| maskIf zeroFlag zero |||
    maskIf halfFlag half ||| maskIf parityFlag parity ||| maskIf subtractFlag subtract |||
    maskIf carryFlag carry

def withPlainBits (f copied : UInt8) : UInt8 := (f &&& ~~~plainBits) ||| (copied &&& plainBits)

def lowFlags (f copied : UInt8) (half subtract carry : Bool) : UInt8 :=
  withPlainBits (f &&& ~~~(halfFlag ||| subtractFlag ||| carryFlag)) copied |||
    maskIf halfFlag half ||| maskIf subtractFlag subtract ||| maskIf carryFlag carry

def negative (v : UInt8) : Bool := v &&& 0x80 != 0

def evenParity (v : UInt8) : Bool :=
  let v := v ^^^ (v >>> 4)
  let v := v ^^^ (v >>> 2)
  let v := v ^^^ (v >>> 1)
  v &&& 1 == 0

def carryIn (c : Bool) : UInt8 := if c then 1 else 0

/-! ## Bytes -/

def add (a b : UInt8) (carry : Bool) : UInt8 × UInt8 :=
  let sum := a.toUInt16 + b.toUInt16 + (carryIn carry).toUInt16
  let result := sum.toUInt8
  let half := (a &&& 0x0F) + (b &&& 0x0F) + carryIn carry > 0x0F
  let overflow := negative ((a ^^^ result) &&& (b ^^^ result))
  (result, flags result (negative result) (result == 0) half overflow false (sum > 0xFF))

def sub (a b : UInt8) (carry : Bool) : UInt8 × UInt8 :=
  let result := a - b - carryIn carry
  let borrow := a.toUInt16 < b.toUInt16 + (carryIn carry).toUInt16
  let half := a &&& 0x0F < (b &&& 0x0F) + carryIn carry
  let overflow := negative ((a ^^^ b) &&& (a ^^^ result))
  (result, flags result (negative result) (result == 0) half overflow true borrow)

def logicFlags (result : UInt8) (half : Bool) : UInt8 :=
  flags result (negative result) (result == 0) half (evenParity result) false false

/-- The operation on A that three bits of an opcode name: add, add with carry, subtract, subtract
with carry, and, exclusive or, or, compare. A comparison copies the plain bits of what A is compared
with. -/
def operate (selector a b f : UInt8) : UInt8 × UInt8 :=
  match selector with
  | 0 => add a b false
  | 1 => add a b (flag f carryFlag)
  | 2 => sub a b false
  | 3 => sub a b (flag f carryFlag)
  | 4 => (a &&& b, logicFlags (a &&& b) true)
  | 5 => (a ^^^ b, logicFlags (a ^^^ b) false)
  | 6 => (a ||| b, logicFlags (a ||| b) false)
  | _ => (a, withPlainBits (sub a b false).2 b)

def increment (v f : UInt8) : UInt8 × UInt8 :=
  let result := v + 1
  (result, flags result (negative result) (result == 0) (v &&& 0x0F == 0x0F) (v == 0x7F) false
    (flag f carryFlag))

def decrement (v f : UInt8) : UInt8 × UInt8 :=
  let result := v - 1
  (result, flags result (negative result) (result == 0) (v &&& 0x0F == 0) (v == 0x80) true
    (flag f carryFlag))

/-! ## Rotations and shifts -/

/-- The rotation or shift that three bits of an opcode name, with the bit that falls out: RLC, RRC,
RL, RR, SLA, SRA, SLL, SRL. -/
def shift (selector v : UInt8) (carry : Bool) : UInt8 × Bool :=
  let top := negative v
  let bottom := v &&& 1 != 0
  match selector with
  | 0 => ((v <<< 1) ||| carryIn top, top)
  | 1 => ((v >>> 1) ||| maskIf 0x80 bottom, bottom)
  | 2 => ((v <<< 1) ||| carryIn carry, top)
  | 3 => ((v >>> 1) ||| maskIf 0x80 carry, bottom)
  | 4 => (v <<< 1, top)
  | 5 => ((v >>> 1) ||| maskIf 0x80 top, bottom)
  | 6 => ((v <<< 1) ||| 1, top)
  | _ => (v >>> 1, bottom)

def shiftPlace (selector v f : UInt8) : UInt8 × UInt8 :=
  let (result, out) := shift selector v (flag f carryFlag)
  (result, flags result (negative result) (result == 0) false (evenParity result) false out)

/-- A rotation of A by one of the four short opcodes. It leaves sign, zero and parity. -/
def rotateA (selector a f : UInt8) : UInt8 × UInt8 :=
  let (result, out) := shift selector a (flag f carryFlag)
  (result, lowFlags f result false false out)

/-- The flags after testing bit `n`. Sign is set only by a set bit 7. -/
def testBit (n v copied f : UInt8) : UInt8 :=
  let isSet := v &&& ((1 : UInt8) <<< n) != 0
  flags copied (n == 7 && isSet) (!isSet) true (!isSet) false (flag f carryFlag)

def decimalAdjust (a f : UInt8) : UInt8 × UInt8 :=
  let low := flag f halfFlag || a &&& 0x0F > 9
  let high := flag f carryFlag || a > 0x99
  let correction := maskIf 0x06 low ||| maskIf 0x60 high
  let down := flag f subtractFlag
  let result := if down then a - correction else a + correction
  let half :=
    if down then flag f halfFlag && a &&& 0x0F < 6 else a &&& 0x0F > 9
  (result, flags result (negative result) (result == 0) half (evenParity result) down high)

/-! ## Words

The plain bits are copied from the high byte of the result. -/

def word (high low : UInt8) : UInt16 := (high.toUInt16 <<< (8 : UInt16)) ||| low.toUInt16

def highByte (w : UInt16) : UInt8 := (w >>> (8 : UInt16)).toUInt8

def lowByte (w : UInt16) : UInt8 := w.toUInt8

def negativeWord (w : UInt16) : Bool := w &&& 0x8000 != 0

def addWord (a b : UInt16) (f : UInt8) : UInt16 × UInt8 :=
  let sum := a.toUInt32 + b.toUInt32
  let half := (a &&& 0x0FFF) + (b &&& 0x0FFF) > 0x0FFF
  (sum.toUInt16, lowFlags f (highByte sum.toUInt16) half false (sum > 0xFFFF))

def addCarryWord (a b : UInt16) (f : UInt8) : UInt16 × UInt8 :=
  let carry := (carryIn (flag f carryFlag)).toUInt16
  let sum := a.toUInt32 + b.toUInt32 + carry.toUInt32
  let result := sum.toUInt16
  let half := (a &&& 0x0FFF) + (b &&& 0x0FFF) + carry > 0x0FFF
  let overflow := negativeWord ((a ^^^ result) &&& (b ^^^ result))
  (result,
    flags (highByte result) (negativeWord result) (result == 0) half overflow false (sum > 0xFFFF))

def subCarryWord (a b : UInt16) (f : UInt8) : UInt16 × UInt8 :=
  let carry := (carryIn (flag f carryFlag)).toUInt16
  let result := a - b - carry
  let borrow := a.toUInt32 < b.toUInt32 + carry.toUInt32
  let half := a &&& 0x0FFF < (b &&& 0x0FFF) + carry
  let overflow := negativeWord ((a ^^^ b) &&& (a ^^^ result))
  (result,
    flags (highByte result) (negativeWord result) (result == 0) half overflow true borrow)

end FeatureCard.Z80
