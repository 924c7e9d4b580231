import FeatureCard.Z80.State

/-!
# The instructions of a Z80

Every function executes an instruction whose opcode has been fetched, and gives its cost in
T-states and the registers after it. An opcode is read by its fields: bits 7 and 6, bits 5 to 3 and
bits 2 to 0. The index registers do not exist: their opcodes do nothing.
-/

namespace FeatureCard.Z80

/-! ## Memory -/

def readWord (address : UInt16) : BusProgram UInt16 := do
  let low ← readByte address
  let high ← readByte (address + 1)
  return word high low

def writeWord (address value : UInt16) : BusProgram Unit := do
  writeByte address (lowByte value)
  writeByte (address + 1) (highByte value)

namespace State

abbrev Execution := BusProgram (UInt32 × State)

def fetch (z : State) : BusProgram (UInt8 × State) := do
  let v ← readByte z.pc
  return (v, z.skip 1)

def fetchWord (z : State) : BusProgram (UInt16 × State) := do
  let low ← readByte z.pc
  let high ← readByte (z.pc + 1)
  return (word high low, z.skip 2)

/-- Pushes a word: the high byte first, then the low byte below it. -/
def push (z : State) (value : UInt16) : BusProgram State := do
  writeByte (z.sp - 1) (highByte value)
  writeByte (z.sp - 2) (lowByte value)
  return { z with sp := z.sp - 2 }

def pop (z : State) : BusProgram (UInt16 × State) := do
  let value ← readWord z.sp
  return (value, { z with sp := z.sp + 2 })

def load (z : State) : Place → BusProgram UInt8
  | .reg r => return z.get r
  | .atHL => readByte z.hl

def store (z : State) (place : Place) (v : UInt8) : BusProgram State :=
  match place with
  | .reg r => return z.set r v
  | .atHL => do
    writeByte z.hl v
    return z

def costAt (place : Place) (register memory : UInt32) : UInt32 :=
  match place with
  | .reg _ => register
  | .atHL => memory

/-! ## Flow -/

/-- The condition that three bits of an opcode name: NZ, Z, NC, C, PO, PE, P, M. -/
def condition (selector f : UInt8) : Bool :=
  match selector with
  | 0 => !flag f zeroFlag
  | 1 => flag f zeroFlag
  | 2 => !flag f carryFlag
  | 3 => flag f carryFlag
  | 4 => !flag f parityFlag
  | 5 => flag f parityFlag
  | 6 => !flag f signFlag
  | _ => flag f signFlag

def displacement (v : UInt8) : UInt16 :=
  if v &&& 0x80 = 0 then v.toUInt16 else (0xFF00 : UInt16) ||| v.toUInt16

def jumpRelative (z : State) (taken : Bool) (costTaken costNot : UInt32) : Execution := do
  let (v, z) ← z.fetch
  if taken then return (costTaken, z.jump (z.pc + displacement v))
  return (costNot, z)

def jumpAbsolute (z : State) (taken : Bool) (costTaken costNot : UInt32) : Execution := do
  let (target, z) ← z.fetchWord
  if taken then return (costTaken, z.jump target)
  return (costNot, z)

def call (z : State) (taken : Bool) : Execution := do
  let (target, z) ← z.fetchWord
  if taken then
    let z ← z.push z.pc
    return (17, z.jump target)
  return (10, z)

def ret (z : State) (cost : UInt32) : Execution := do
  let (target, z) ← z.pop
  return (cost, z.jump target)

/-! ## Opcodes after CB: shifts and single bits -/

def executeBits (z : State) : Execution := do
  let (op, z) ← z.fetch
  let n := (op >>> 3) &&& 7
  let place := Place.ofBits (op &&& 7)
  let v ← z.load place
  match op >>> 6 with
  | 0 =>
    let (result, f) := shiftPlace n v z.main.f
    let z ← (z.setF f).store place result
    return (costAt place 8 15, z)
  | 1 =>
    let copied :=
      match place with
      | .reg _ => v
      | .atHL => z.main.h
    return (costAt place 8 12, z.setF (testBit n v copied z.main.f))
  | 2 =>
    let z ← z.store place (v &&& ~~~((1 : UInt8) <<< n))
    return (costAt place 8 15, z)
  | _ =>
    let z ← z.store place (v ||| ((1 : UInt8) <<< n))
    return (costAt place 8 15, z)

/-! ## Opcodes after ED -/

def nextAddress (address : UInt16) (down : Bool) : UInt16 :=
  if down then address - 1 else address + 1

/-- The cost of one round of a block operation. A round that repeats goes back to the opcode. -/
def repeatIf (z : State) (again : Bool) : UInt32 × State :=
  if again then (21, z.jump (z.pc - 2)) else (16, z)

/-- The flag register after a round of a block operation on memory: bit 5 copies bit 1 of `copied`,
and bit 3 copies bit 3. -/
def blockPlainBits (f copied : UInt8) : UInt8 :=
  withPlainBits f ((copied &&& (0x08 : UInt8)) ||| ((copied &&& (0x02 : UInt8)) <<< (4 : UInt8)))

def blockCopy (z : State) (down again : Bool) : Execution := do
  let v ← readByte z.hl
  writeByte z.de v
  let count := z.bc - 1
  let f := (z.main.f &&& ~~~(halfFlag ||| parityFlag ||| subtractFlag)) |||
    maskIf parityFlag (count != 0)
  let z := ((z.setPair .hl (nextAddress z.hl down)).setPair .de (nextAddress z.de down)).setPair
    .bc count
  return (z.setF (blockPlainBits f (z.main.a + v))).repeatIf (again && count != 0)

def blockCompare (z : State) (down again : Bool) : Execution := do
  let v ← readByte z.hl
  let count := z.bc - 1
  let (result, f) := sub z.main.a v false
  let copied := result - carryIn (flag f halfFlag)
  let f := (f &&& ~~~(parityFlag ||| carryFlag)) ||| maskIf parityFlag (count != 0) |||
    (z.main.f &&& carryFlag)
  let z := (z.setPair .hl (nextAddress z.hl down)).setPair .bc count
  return (z.setF (blockPlainBits f copied)).repeatIf (again && count != 0 && result != 0)

/-- The flags after a block input or output of `value`, by the count that is left in B and by a byte
that `value` is added to: the low address byte after an output, the next port after an input. -/
def blockPortFlags (value other count : UInt8) : UInt8 :=
  let sum := value.toUInt16 + other.toUInt16
  let carry := sum > 0xFF
  flags count (negative count) (count == 0) carry (evenParity ((sum.toUInt8 &&& 7) ^^^ count))
    (negative value) carry

def blockInput (z : State) (down again : Bool) : Execution := do
  let v ← inputByte z.main.c
  writeByte z.hl v
  let count := z.main.b - 1
  let next := if down then z.main.c - 1 else z.main.c + 1
  let z := (z.setPair .hl (nextAddress z.hl down)).set .b count
  return (z.setF (blockPortFlags v next count)).repeatIf (again && count != 0)

def blockOutput (z : State) (down again : Bool) : Execution := do
  let v ← readByte z.hl
  let count := z.main.b - 1
  outputByte z.main.c v
  let z := (z.setPair .hl (nextAddress z.hl down)).set .b count
  return (z.setF (blockPortFlags v z.main.l count)).repeatIf (again && count != 0)

def modeOf : UInt8 → InterruptMode
  | 2 | 6 => .one
  | 3 | 7 => .two
  | _ => .zero

def loadFlags (z : State) (v : UInt8) (parity : Bool) : UInt8 :=
  flags v (negative v) (v == 0) false parity false (flag z.main.f carryFlag)

def rotateDigits (z : State) (left : Bool) : Execution := do
  let v ← readByte z.hl
  let a := z.main.a
  let (digits, low) :=
    if left then ((v <<< 4) ||| (a &&& 0x0F), v >>> 4)
    else ((a <<< 4) ||| (v >>> 4), v &&& 0x0F)
  writeByte z.hl digits
  let a := (a &&& 0xF0) ||| low
  return (18, z.setAF a (loadFlags z a (evenParity a)))

/-- An opcode without meaning costs nothing. -/
def nothing (z : State) : Execution := return (0, z)

def executeExtended (z : State) : Execution := do
  let (op, z) ← z.fetch
  let y := (op >>> 3) &&& 7
  let p := Pair.ofBits (y >>> 1)
  match op >>> 6, op &&& 7 with
  | 1, 0 =>
    let v ← inputByte z.main.c
    let z := z.setF (loadFlags z v (evenParity v))
    match Place.ofBits y with
    | .reg r => return (12, z.set r v)
    | .atHL => return (12, z)
  | 1, 1 =>
    let v :=
      match Place.ofBits y with
      | .reg r => z.get r
      | .atHL => 0
    outputByte z.main.c v
    return (12, z)
  | 1, 2 =>
    let (result, f) :=
      if y &&& 1 = 0 then subCarryWord z.hl (z.pair p) z.main.f
      else addCarryWord z.hl (z.pair p) z.main.f
    return (15, (z.setPair .hl result).setF f)
  | 1, 3 =>
    let (address, z) ← z.fetchWord
    if y &&& 1 = 0 then
      writeWord address (z.pair p)
      return (20, z)
    let value ← readWord address
    return (20, z.setPair p value)
  | 1, 4 =>
    let (result, f) := sub 0 z.main.a false
    return (8, z.setAF result f)
  | 1, 5 =>
    let z := if y = 1 then z else { z with iff1 := z.iff2 }
    z.ret 14
  | 1, 6 => return (8, { z with mode := modeOf y })
  | 1, 7 =>
    match y with
    | 0 => return (9, { z with i := z.main.a })
    | 1 => return (9, { z with r := z.main.a })
    | 2 => return (9, z.setAF z.i (loadFlags z z.i z.iff2))
    | 3 => return (9, z.setAF z.r (loadFlags z z.r z.iff2))
    | 4 => z.rotateDigits false
    | 5 => z.rotateDigits true
    | _ => z.nothing
  | 2, kind =>
    if y < 4 then z.nothing
    else
      let down := y &&& 1 != 0
      let again := y &&& 2 != 0
      match kind with
      | 0 => z.blockCopy down again
      | 1 => z.blockCompare down again
      | 2 => z.blockInput down again
      | 3 => z.blockOutput down again
      | _ => z.nothing
  | _, _ => z.nothing

/-! ## Opcodes 00 to 3F -/

def loadIndirect (z : State) (y : UInt8) : Execution :=
  match y with
  | 0 => do
    writeByte z.bc z.main.a
    return (7, z)
  | 1 => do
    let v ← readByte z.bc
    return (7, z.set .a v)
  | 2 => do
    writeByte z.de z.main.a
    return (7, z)
  | 3 => do
    let v ← readByte z.de
    return (7, z.set .a v)
  | 4 => do
    let (address, z) ← z.fetchWord
    writeWord address z.hl
    return (16, z)
  | 5 => do
    let (address, z) ← z.fetchWord
    let value ← readWord address
    return (16, z.setPair .hl value)
  | 6 => do
    let (address, z) ← z.fetchWord
    writeByte address z.main.a
    return (13, z)
  | _ => do
    let (address, z) ← z.fetchWord
    let v ← readByte address
    return (13, z.set .a v)

def adjustA (z : State) (y : UInt8) : State :=
  let a := z.main.a
  let f := z.main.f
  let carry := flag f carryFlag
  match y with
  | 0 | 1 | 2 | 3 => let (a, f) := rotateA y a f; z.setAF a f
  | 4 => let (a, f) := decimalAdjust a f; z.setAF a f
  | 5 => z.setAF (~~~a) (lowFlags f (~~~a) true true carry)
  | 6 => z.setF (lowFlags f a false false true)
  | _ => z.setF (lowFlags f a carry false (!carry))

def executeFirst (z : State) (y kind : UInt8) : Execution :=
  let p := Pair.ofBits (y >>> 1)
  let place := Place.ofBits y
  match kind with
  | 0 =>
    match y with
    | 0 => return (4, z)
    | 1 => return (4, z.exchangeAF)
    | 2 =>
      let b := z.main.b - 1
      (z.set .b b).jumpRelative (b != 0) 13 8
    | 3 => z.jumpRelative true 12 12
    | _ => z.jumpRelative (condition (y &&& 3) z.main.f) 12 8
  | 1 =>
    if y &&& 1 = 0 then do
      let (value, z) ← z.fetchWord
      return (10, z.setPair p value)
    else
      let (result, f) := addWord z.hl (z.pair p) z.main.f
      return (11, (z.setPair .hl result).setF f)
  | 2 => z.loadIndirect y
  | 3 => return (6, z.setPair p (nextAddress (z.pair p) (y &&& 1 != 0)))
  | 4 => do
    let v ← z.load place
    let (result, f) := increment v z.main.f
    let z ← (z.setF f).store place result
    return (costAt place 4 11, z)
  | 5 => do
    let v ← z.load place
    let (result, f) := decrement v z.main.f
    let z ← (z.setF f).store place result
    return (costAt place 4 11, z)
  | 6 => do
    let (v, z) ← z.fetch
    let z ← z.store place v
    return (costAt place 7 10, z)
  | _ => return (4, z.adjustA y)

/-! ## Opcodes 40 to BF -/

/-- Loads between registers and memory at HL. Where both would be memory, the processor halts. -/
def executeLoad (z : State) (target source : Place) : Execution :=
  match target, source with
  | .atHL, .atHL => return (4, { z with halted := true })
  | _, _ => do
    let v ← z.load source
    let z ← z.store target v
    return (if target = .atHL ∨ source = .atHL then 7 else 4, z)

def operateA (z : State) (selector v : UInt8) : State :=
  let (a, f) := operate selector z.main.a v z.main.f
  z.setAF a f

def executeOperation (z : State) (selector : UInt8) (place : Place) : Execution := do
  let v ← z.load place
  return (costAt place 4 7, z.operateA selector v)

/-! ## Opcodes C0 to FF -/

/-- Opcodes of the last quarter that differ in all their bits. -/
def executeMixed (z : State) (y : UInt8) : Execution :=
  match y with
  | 0 => z.jumpAbsolute true 10 10
  | 1 => z.executeBits
  | 2 => do
    let (port, z) ← z.fetch
    outputByte port z.main.a
    return (11, z)
  | 3 => do
    let (port, z) ← z.fetch
    let v ← inputByte port
    return (11, z.set .a v)
  | 4 => do
    let value ← readWord z.sp
    writeWord z.sp z.hl
    return (19, z.setPair .hl value)
  | 5 => return (4, (z.setPair .de z.hl).setPair .hl z.de)
  | 6 => return (4, { z with iff1 := false, iff2 := false })
  | _ => return (4, { z with iff1 := true, iff2 := true, justEnabled := true })

def executeLast (z : State) (y kind : UInt8) : Execution :=
  match kind with
  | 0 => if condition y z.main.f then z.ret 11 else return (5, z)
  | 1 =>
    if y &&& 1 = 0 then do
      let (value, z) ← z.pop
      return (10, z.setPair (Pair.ofStackBits (y >>> 1)) value)
    else
      match y >>> 1 with
      | 0 => z.ret 10
      | 1 => return (4, z.exchangeAll)
      | 2 => return (4, z.jump z.hl)
      | _ => return (6, { z with sp := z.hl })
  | 2 => z.jumpAbsolute (condition y z.main.f) 12 7
  | 3 => z.executeMixed y
  | 4 => z.call (condition y z.main.f)
  | 5 =>
    if y &&& 1 = 0 then do
      let z ← z.push (z.pair (Pair.ofStackBits (y >>> 1)))
      return (11, z)
    else
      match y >>> 1 with
      | 0 => z.call true
      | 2 => z.executeExtended
      | _ => return (4, z)
  | 6 => do
    let (v, z) ← z.fetch
    return (7, z.operateA y v)
  | _ => do
    let z ← z.push z.pc
    return (11, z.jump (y <<< 3).toUInt16)

def execute (z : State) (op : UInt8) : Execution :=
  let y := (op >>> 3) &&& 7
  match op >>> 6 with
  | 0 => z.executeFirst y (op &&& 7)
  | 1 => z.executeLoad (Place.ofBits y) (Place.ofBits (op &&& 7))
  | 2 => z.executeOperation y (Place.ofBits (op &&& 7))
  | _ => z.executeLast y (op &&& 7)

end State

end FeatureCard.Z80
