import FeatureCard.Notice

/-!
# FM chips

What a sound chip has to offer to the card: registers, a status byte, timers that are told how much
time has passed, and sound that is added onto frames. `Recorded` is any chip with a record of the
calls it received. `LevelChip` is a chip without synthesis: it adds a constant level.
-/

namespace FeatureCard.Fm

structure Frame where
  left : Int16 := 0
  right : Int16 := 0
  deriving DecidableEq, Repr, Inhabited

def Frame.silence : Frame := {}

class FmChip (χ : Type) where
  reset : χ → χ
  write : χ → UInt8 → UInt8 → χ
  status : χ → UInt8
  /-- Lets microseconds pass. The answer is whether a timer ran over. -/
  count : χ → UInt32 → Bool × χ
  /-- Adds sound onto the frames. -/
  mix {n : Nat} : χ → Vector Frame n → χ × Vector Frame n
  writeNotices : χ → UInt8 → UInt8 → List Notice := fun _ _ _ => []

inductive ChipCall where
  | reset
  | write (register value : UInt8)
  | mix (frames : Nat)
  deriving DecidableEq, Repr

structure Recorded (χ : Type) where
  chip : χ
  calls : Array ChipCall := #[]
  counted : Nat := 0

namespace Recorded

variable {χ : Type} [FmChip χ]

instance : FmChip (Recorded χ) where
  reset r := { r with chip := FmChip.reset r.chip, calls := r.calls.push .reset }
  write r register value :=
    { r with
      chip := FmChip.write r.chip register value
      calls := r.calls.push (.write register value) }
  status r := FmChip.status r.chip
  count r micros :=
    let (event, chip) := FmChip.count r.chip micros
    (event, { r with chip, counted := r.counted + micros.toNat })
  mix {n} r frames :=
    let (chip, frames) := FmChip.mix r.chip frames
    ({ r with chip, calls := r.calls.push (.mix n) }, frames)
  writeNotices r := FmChip.writeNotices r.chip

end Recorded

/-- A chip that adds the value of its last register write to the left and subtracts it from the
right. Its timer runs over whenever `every` microseconds or more have come together; with 0 it
never does. -/
structure LevelChip where
  answer : UInt8 := 0
  every : Nat := 0
  elapsed : Nat := 0
  level : UInt8 := 0
  deriving DecidableEq, Repr

namespace LevelChip

def raise (c : LevelChip) (f : Frame) : Frame :=
  let level := c.level.toUInt16.toInt16
  { left := f.left + level, right := f.right - level }

instance : FmChip LevelChip where
  reset c := c
  write c _ value := { c with level := value }
  status c := c.answer
  count c micros :=
    let elapsed := c.elapsed + micros.toNat
    if 0 < c.every ∧ c.every ≤ elapsed then (true, { c with elapsed := 0 })
    else (false, { c with elapsed })
  mix c frames := (c, frames.map c.raise)

end LevelChip

end FeatureCard.Fm
