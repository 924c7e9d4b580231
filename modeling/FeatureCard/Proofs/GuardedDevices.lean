import FeatureCard.Card.Basic
import FeatureCard.Fm.OpmTimers
import FeatureCard.Proofs.Byte
import FeatureCard.Proofs.FmAccess
import FeatureCard.Proofs.SampleAccuracy
import FeatureCard.Proofs.TimerBlock

/-!
# Devices whose operations can fail

On a machine an operation can fail: a sum, a difference or a product may not fit its word, a divisor
may be zero, an index may lie outside of a table. Here the devices do their work with each of these
operations guarded, and the answer is none if one fails. Devices that are sound stay sound, and none
of their operations fails.
-/

namespace FeatureCard

open Fm (FmChip FmPort Frame OpmTimers)
open Midi (Usart)
open PortMap

/-! ## Guarded operations -/

/-- A sum or a product, if it fits its word. -/
def fits? (limit n : Nat) : Option Nat := if n < limit then some n else none

def minus? (a b : Nat) : Option Nat := if b ≤ a then some (a - b) else none

def over? (a b : Nat) : Option Nat := if b = 0 then none else some (a / b)

def index? (size i : Nat) : Option (Fin size) := if h : i < size then some ⟨i, h⟩ else none

/-- The items from `start` up to `stop` out of `size`, if they are there. -/
def slice? (size start stop : Nat) : Option Unit :=
  if start ≤ stop ∧ stop ≤ size then some () else none

theorem fits?_of_lt {limit n : Nat} (h : n < limit) : fits? limit n = some n := if_pos h

theorem minus?_of_le {a b : Nat} (h : b ≤ a) : minus? a b = some (a - b) := if_pos h

theorem over?_of_pos {a b : Nat} (h : 0 < b) : over? a b = some (a / b) :=
  if_neg (Nat.ne_of_gt h)

theorem index?_of_lt {size i : Nat} (h : i < size) : index? size i = some ⟨i, h⟩ := dif_pos h

theorem slice?_of_le {size start stop : Nat} (h : start ≤ stop) (h' : stop ≤ size) :
    slice? size start stop = some () := if_pos ⟨h, h'⟩

theorem bind_of_eq {α β : Type} {guarded : Option α} {a : α} (h : guarded = some a)
    (next : α → Option β) : guarded >>= next = next a := by
  rw [h]
  rfl

/-! ## Memory -/

namespace Memory

def ofFirmware? (firmware : ByteArray) : Option Memory := do
  let size := min firmware.size romSize
  slice? romSize 0 size
  slice? firmware.size 0 size
  return .ofFirmware firmware

def read? (m : Memory) (address : UInt16) : Option UInt8 :=
  if address.toNat < romSize then m.rom[address.toNat]? else m.ram[address.toNat % ramSize]?

def write? (m : Memory) (address : UInt16) (value : UInt8) : Option Memory :=
  if address.toNat < romSize then some m
  else do
    let i ← index? ramSize (address.toNat % ramSize)
    return { m with ram := m.ram.set i value }

theorem ofFirmware?_eq (firmware : ByteArray) :
    ofFirmware? firmware = some (ofFirmware firmware) := by
  unfold ofFirmware?
  dsimp only
  rw [slice?_of_le (Nat.zero_le _) (Nat.min_le_right _ _),
    slice?_of_le (Nat.zero_le _) (Nat.min_le_left _ _)]
  rfl

theorem read?_eq (m : Memory) (address : UInt16) : m.read? address = some (m.read address) := by
  unfold read? read
  split
  · rename_i h
    exact Vector.getElem?_eq_getElem h
  · exact Vector.getElem?_eq_getElem (ramIndex address).isLt

theorem write?_eq (m : Memory) (address : UInt16) (value : UInt8) :
    m.write? address value = some (m.write address value) := by
  unfold write? write
  split
  · rfl
  · have hindex : index? ramSize (address.toNat % ramSize) = some (ramIndex address) :=
      index?_of_lt (ramIndex address).isLt
    rw [hindex]
    rfl

end Memory

/-! ## The interval timer -/

def Counter.merge? (c : Counter) (value : UInt8) : Option Counter := do
  let place ← fits? 256 (c.loadState + 1)
  return { c.merge value with loadState := if place ≤ last then place else parked }

namespace TimerBlock

/-- The ticks of timer B are a product. -/
def periodNow? (t : TimerBlock) (timer : Timer) : Option Period := do
  let ticks ← fits? word64 (t.periodNow timer).ticks
  return { t.periodNow timer with ticks }

def writeControl? (t : TimerBlock) (value : UInt8) : Option (TimerBlock × List Effect) := do
  if value >>> 6 ≠ 3 then
    let _ ← index? 3 (value >>> 6).toNat
  return t.writeControl value

def writeData? (t : TimerBlock) (select value : UInt8) : Option (TimerBlock × List Effect) := do
  let i ← index? 3 select.toNat
  let merged ← (t.counter i).merge? value
  let now := t.setCounter i merged
  let parked := t.setCounter i merged.park
  if merged.loadState = Counter.complete then
    if now.loaded (timerOf i) then
      let period ← now.periodNow? (timerOf i)
      return (parked.setPeriod (timerOf i) period, [.call (.schedule (timerOf i) period)])
    else return (parked, [])
  else return (now, [])

def write? (t : TimerBlock) (address value : UInt8) : Option (TimerBlock × List Effect) := do
  let (t, effects) ←
    if address &&& 3 = 3 then t.writeControl? value else t.writeData? (address &&& 3) value
  return (t, .note (.timerWrite address value) :: effects)

/-- Each counter is at a place of the loading sequence. -/
def Sequenced (t : TimerBlock) : Prop := ∀ i, (t.counter i).loadState ≤ Counter.last

theorem merge?_eq {c : Counter} (h : c.loadState ≤ Counter.last) (value : UInt8) :
    c.merge? value = some (c.merge value) := by
  have hplace : c.loadState + 1 < 256 := Nat.lt_of_le_of_lt (Nat.succ_le_succ h) (by decide)
  unfold Counter.merge?
  rw [fits?_of_lt hplace]
  rfl

theorem periodNow?_eq (t : TimerBlock) (timer : Timer) :
    t.periodNow? timer = some (t.periodNow timer) := by
  have hticks : (t.periodNow timer).ticks < word64 := by
    cases timer with
    | a => exact Nat.lt_of_le_of_lt (Counter.divisor_le _) (by decide)
    | b =>
      have hproduct := Nat.mul_le_mul (t.counter 1).divisor_le (t.counter 2).divisor_le
      exact Nat.lt_of_le_of_lt hproduct (by decide)
  unfold periodNow?
  rw [fits?_of_lt hticks]
  rfl

theorem writeControl?_eq (t : TimerBlock) (value : UInt8) :
    t.writeControl? value = some (t.writeControl value) := by
  unfold writeControl?
  by_cases h : value >>> 6 = 3
  · rw [if_neg (not_not_intro h)]
    rfl
  · have hselect : (value >>> 6).toNat < 3 := by
      revert value
      exact forall_byte (by decide +kernel)
    rw [if_pos h, index?_of_lt hselect]
    rfl

theorem writeData?_eq {t : TimerBlock} (h : t.Sequenced) {select : UInt8} {i : Fin 3}
    (hi : select.toNat = i) (value : UInt8) :
    t.writeData? select value = some (t.writeData i value) := by
  have hindex : index? 3 select.toNat = some i := by
    rw [hi]
    exact index?_of_lt i.isLt
  have hmerge : (t.counter i).merge? value = some ((t.counter i).merge value) :=
    merge?_eq (h i) value
  rw [writeData?, writeData_eq, bind_of_eq hindex, bind_of_eq hmerge]
  dsimp only
  split
  · split
    · rw [bind_of_eq (periodNow?_eq _ _)]
      rfl
    · rfl
  · rfl

theorem write?_eq {t : TimerBlock} (h : t.Sequenced) (address value : UInt8) :
    t.write? address value = some (t.write address value) := by
  unfold write? write counter?
  by_cases hcontrol : address &&& 3 = 3
  · have hnone : ¬ (address &&& 3).toNat < 3 := by
      rw [hcontrol]
      decide
    simp only [if_pos hcontrol, dif_neg hnone, writeControl?_eq]
    rfl
  · have hsome : (address &&& 3).toNat < 3 := by
      revert address
      exact forall_byte (by decide +kernel)
    have hdata : t.writeData? (address &&& 3) value = some (t.writeData ⟨_, hsome⟩ value) :=
      writeData?_eq h rfl value
    simp only [if_neg hcontrol, dif_pos hsome, hdata]
    rfl

theorem Sequenced.powerOn : powerOn.Sequenced := by
  unfold Sequenced
  decide

theorem Sequenced.setCounter {t : TimerBlock} (h : t.Sequenced) (i : Fin 3) {c : Counter}
    (hc : c.loadState ≤ Counter.last) : (t.setCounter i c).Sequenced := by
  intro j
  rw [counter_setCounter]
  split
  · exact hc
  · exact h j

theorem Sequenced.writeControl {t : TimerBlock} (h : t.Sequenced) (value : UInt8) :
    (t.writeControl value).1.Sequenced := by
  cases hselect : counter? (value >>> 6) with
  | none =>
    simp only [TimerBlock.writeControl, hselect]
    exact h
  | some i =>
    have hprogram := program_incomplete (t.counter i) value
    rw [t.writeControl_counters value hselect]
    exact h.setCounter i (Nat.le_trans (Nat.le_of_lt hprogram) (by decide))

theorem Sequenced.writeData {t : TimerBlock} (h : t.Sequenced) (i : Fin 3) (value : UInt8) :
    (t.writeData i value).1.Sequenced := by
  by_cases hcomplete : ((t.counter i).merge value).loadState = Counter.complete
  · have hparked : ((t.counter i).merge value).park.loadState ≤ Counter.last := Nat.le_succ 4
    have hfilled : (t.filled i value).Sequenced := h.setCounter i hparked
    rw [t.writeData_of_complete hcomplete]
    split
    · cases timerOf i <;> exact hfilled
    · exact hfilled
  · rw [t.writeData_of_merge hcomplete]
    refine h.setCounter i ?_
    rw [merge_loadState]
    split
    · assumption
    · decide

theorem Sequenced.react {t : TimerBlock} (h : t.Sequenced) (e : DeviceEvent) :
    (t.react e).1.Sequenced := by
  cases e with
  | hostWrite offset value =>
    simp only [TimerBlock.react]
    cases counterAt offset with
    | some i => exact h.writeData i value
    | none =>
      dsimp only
      split
      · exact h.writeControl value
      · exact h
  | cardRead port | cardWrite port value | hostRead offset | timerExpired timer | midi chunk =>
    exact h

end TimerBlock

/-! ## The serial port -/

namespace Midi.Usart

def enqueue? (u : Usart) (chunk : List UInt8) : Option (Nat × Usart × List Effect) := do
  let room ← minus? capacity u.fifo.size
  let accepted := min chunk.length room
  slice? chunk.length 0 accepted
  let effects ←
    if accepted < chunk.length then do
      let dropped ← minus? chunk.length accepted
      pure [.note (.midiDropped dropped chunk.length)]
    else pure []
  return (accepted, { u with fifo := u.fifo.enqueue chunk }, effects)

def write? (u : Usart) (odd : Bool) (value : UInt8) : Option (Usart × List Effect) :=
  if odd ∧ 0 < u.setupLeft then do
    let setupLeft ← minus? u.setupLeft 1
    return ({ u with setupLeft }, [])
  else some (u.write odd value)

theorem enqueue?_eq (u : Usart) (chunk : List UInt8) :
    u.enqueue? chunk = some (u.enqueue chunk) := by
  have hroom : minus? capacity u.fifo.size = some (capacity - u.fifo.size) :=
    minus?_of_le u.fifo.length_le
  have hle : min chunk.length (capacity - u.fifo.size) ≤ chunk.length := Nat.min_le_left _ _
  unfold enqueue? enqueue Fifo.accepts
  simp only [hroom, bind, Option.bind, slice?_of_le (Nat.zero_le _) hle, minus?_of_le hle]
  split <;> rfl

theorem write?_eq (u : Usart) (odd : Bool) (value : UInt8) :
    u.write? odd value = some (u.write odd value) := by
  unfold write? write
  by_cases h : odd = true ∧ 0 < u.setupLeft
  · obtain ⟨rfl, hsetup⟩ := h
    simp only [hsetup, and_self, if_true, minus?_of_le (Nat.succ_le_of_lt hsetup)]
    rfl
  · rw [if_neg h]

end Midi.Usart

/-! ## Chips -/

namespace Fm

/-- A chip whose operations can fail, but never do. -/
class GuardedChip (χ : Type) [FmChip χ] where
  reset? : χ → Option χ
  write? : χ → UInt8 → UInt8 → Option χ
  status? : χ → Option UInt8
  count? : χ → UInt32 → Option (Bool × χ)
  mix? {n : Nat} : χ → Vector Frame n → Option (χ × Vector Frame n)
  reset?_eq : ∀ c, reset? c = some (FmChip.reset c)
  write?_eq : ∀ c register value, write? c register value = some (FmChip.write c register value)
  status?_eq : ∀ c, status? c = some (FmChip.status c)
  count?_eq : ∀ c micros, count? c micros = some (FmChip.count c micros)
  mix?_eq : ∀ {n : Nat} c (frames : Vector Frame n), mix? c frames = some (FmChip.mix c frames)

namespace OpmTimers

def loadPeriodA? (c : OpmTimers) : Option OpmTimers := do
  let ticks ← minus? 1024 c.countA
  return { c with timerA := { c.timerA with period := c.micros 64.0 ticks } }

def loadPeriodB? (c : OpmTimers) : Option OpmTimers := do
  let ticks ← minus? 256 c.countB
  return { c with timerB := { c.timerB with period := c.micros 1024.0 ticks } }

def powerOn? (clockHertz : UInt32) : Option OpmTimers := do
  let blank : OpmTimers :=
    { clockHertz, registers := Vector.replicate 256 0, status := 0, timerA := {}, timerB := {} }
  let loaded ← blank.loadPeriodA?
  loaded.loadPeriodB?

def store? (c : OpmTimers) (address value : UInt8) : Option OpmTimers := do
  let i ← index? 256 address.toNat
  return { c with registers := c.registers.set i value }

def writeRegister? (c : OpmTimers) (address value : UInt8) : Option OpmTimers := do
  let c := if address = controlRegister then c.writeControl value else c
  let c ← c.store? address value
  if address = 0x10 ∨ address = 0x11 then c.loadPeriodA?
  else if address = 0x12 then c.loadPeriodB?
  else return c

theorem loadPeriodA?_eq (c : OpmTimers) : c.loadPeriodA? = some c.loadPeriodA := by
  have hcount : c.countA ≤ 1024 := by
    have hhigh := (c.register 0x10).toNat_lt
    unfold countA
    omega
  unfold loadPeriodA?
  rw [minus?_of_le hcount]
  rfl

theorem loadPeriodB?_eq (c : OpmTimers) : c.loadPeriodB? = some c.loadPeriodB := by
  have hcount : c.countB ≤ 256 := Nat.le_of_lt (c.register 0x12).toNat_lt
  unfold loadPeriodB?
  rw [minus?_of_le hcount]
  rfl

theorem powerOn?_eq (clockHertz : UInt32) : powerOn? clockHertz = some (powerOn clockHertz) := by
  unfold powerOn? powerOn
  simp only [loadPeriodA?_eq, bind, Option.bind, loadPeriodB?_eq]

theorem writeRegister?_eq (c : OpmTimers) (address value : UInt8) :
    c.writeRegister? address value = some (c.writeRegister address value) := by
  have hstore (c : OpmTimers) : c.store? address value = some (c.store address value) := by
    unfold store?
    rw [index?_of_lt address.toNat_lt]
    rfl
  unfold writeRegister? writeRegister
  simp only [hstore, bind, Option.bind, loadPeriodA?_eq, loadPeriodB?_eq]
  split
  · rfl
  · split <;> rfl

instance : GuardedChip OpmTimers where
  reset? c := powerOn? c.clockHertz
  write? := writeRegister?
  status? c := some c.status
  count? c micros := some (c.advance micros)
  mix? c frames := some (c, frames)
  reset?_eq c := powerOn?_eq c.clockHertz
  write?_eq := writeRegister?_eq
  status?_eq _ := rfl
  count?_eq _ _ := rfl
  mix?_eq _ _ := rfl

end OpmTimers

/-! ## The FM port -/

namespace FmPort

variable {χ : Type} [FmChip χ]

/-- The place in the block is between what is rendered and its end, and memory can hold it. -/
structure Sound (p : FmPort χ) : Prop where
  rendered : p.rendered ≤ p.position
  position : p.position ≤ p.frames
  frames : 2 * p.frames < word64

theorem Sound.attach (chip : χ) : (attach chip).Sound := by
  constructor
  case rendered | position => exact Nat.le_refl 0
  case frames => exact Nat.zero_lt_succ _

theorem Sound.flush {p : FmPort χ} (h : p.Sound) : p.flush.Sound := by
  obtain ⟨hframes, hposition⟩ := p.flush_frames
  constructor
  case rendered =>
    rw [flush_rendered, hposition]
    exact Nat.max_le.2 ⟨h.rendered, Nat.le_refl _⟩
  case position => rw [hframes, hposition]; exact h.position
  case frames => rw [hframes]; exact h.frames

theorem Sound.finish {p : FmPort χ} (h : p.Sound) : p.finish.Sound :=
  Sound.flush ⟨Nat.le_trans h.rendered h.position, Nat.le_refl _, h.frames⟩

theorem Sound.writeData {p : FmPort χ} (h : p.Sound) (value : UInt8) :
    (p.writeData value).1.Sound := by
  rcases p.writeData_cases value with hdata | hdata | ⟨register, hdata⟩ <;> rw [hdata]
  · exact h
  · exact h.flush
  · exact ⟨h.flush.rendered, h.flush.position, h.flush.frames⟩

variable [GuardedChip χ]

def attach? (chip : χ) : Option (FmPort χ) := do
  let chip ← GuardedChip.reset? chip
  return { chip }

def flush? (p : FmPort χ) : Option (FmPort χ) :=
  if p.position ≤ p.rendered then some p
  else do
    let start ← fits? word64 (p.rendered * 2)
    let stop ← fits? word64 (p.position * 2)
    slice? (p.frames * 2) start stop
    let owed := Vector.replicate (p.position - p.rendered) Frame.silence
    let (chip, fresh) ← GuardedChip.mix? p.chip owed
    return { p with chip, output := p.output ++ fresh.toArray }

def writeData? (p : FmPort χ) (value : UInt8) : Option (FmPort χ × List Notice) :=
  match p.latch with
  | none => some (p, [.fmDataUnlatched value])
  | some address => do
    let p ← p.flush?
    match targetOf address with
    | none => return (p, [.fmUndocumented value address])
    | some register => do
      let chip ← GuardedChip.write? p.chip register value
      return ({ p with chip }, FmChip.writeNotices p.chip register value)

def count? (p : FmPort χ) (micros : UInt32) : Option (Bool × FmPort χ) := do
  let (event, chip) ← GuardedChip.count? p.chip micros
  return (event, { p with chip })

def finish? (p : FmPort χ) : Option (FmPort χ) := { p with position := p.frames }.flush?

theorem attach?_eq (chip : χ) : attach? chip = some (attach chip) := by
  unfold attach?
  rw [GuardedChip.reset?_eq]
  rfl

theorem flush?_eq {p : FmPort χ} (h : p.Sound) : p.flush? = some p.flush := by
  obtain ⟨hrendered, hposition, hframes⟩ := h
  have hstart : p.rendered * 2 < word64 := by omega
  have hstop : p.position * 2 < word64 := by omega
  unfold flush? flush
  split
  · rfl
  · rw [fits?_of_lt hstart, fits?_of_lt hstop]
    simp only [bind, Option.bind, GuardedChip.mix?_eq,
      slice?_of_le (Nat.mul_le_mul_right 2 hrendered) (Nat.mul_le_mul_right 2 hposition)]
    rfl

theorem writeData?_eq {p : FmPort χ} (h : p.Sound) (value : UInt8) :
    p.writeData? value = some (p.writeData value) := by
  unfold writeData? writeData
  cases p.latch with
  | none => rfl
  | some address =>
    rw [flush?_eq h]
    cases htarget : targetOf address with
    | none => simp only [htarget]; rfl
    | some register => simp only [htarget, GuardedChip.write?_eq]; rfl

theorem count?_eq (p : FmPort χ) (micros : UInt32) : p.count? micros = some (p.count micros) := by
  unfold count?
  rw [GuardedChip.count?_eq]
  rfl

theorem finish?_eq {p : FmPort χ} (h : p.Sound) : p.finish? = some p.finish :=
  flush?_eq ⟨Nat.le_trans h.rendered h.position, Nat.le_refl _, h.frames⟩

end FmPort

end Fm

/-! ## All devices -/

namespace Device

variable {χ : Type}

/-- The field of a control word leads to an entry of a table. -/
def control? (d : Device χ) (side : Side) (value : UInt8) : Option (Device χ × List Effect) := do
  let _ ← index? 8 ((value >>> 1) &&& 7).toNat
  return d.control side value

def hostRead? (d : Device χ) (offset : UInt8) : Option (UInt8 × Device χ × List Effect) := do
  let _ ← index? 16 (offset &&& 0x0F).toNat
  return d.hostRead offset

def acceptHost? (d : Device χ) (offset value : UInt8) : Option (Device χ × List Effect) := do
  let _ ← index? 16 (offset &&& 0x0F).toNat
  match HostWrite.ofOffset offset with
  | .piuControl => d.control? .host value
  | .timer address =>
    let (timers, effects) ← d.timers.write? address value
    return ({ d with timers }, effects)
  | .putHostToCard | .timerControl | .unmapped => return d.acceptHost offset value

def hostWrite? (d : Device χ) (offset value : UInt8) : Option (Device χ × List Effect) := do
  let (d, effects) ← d.acceptHost? offset value
  return (d, .note (.hostOut offset value) :: effects)

def enqueue? (d : Device χ) (chunk : List UInt8) : Option (Nat × Device χ × List Effect) := do
  let (accepted, usart, effects) ← d.usart.enqueue? chunk
  return (accepted, { d with usart }, effects)

theorem index?_nibble (value : UInt8) : ∃ i, index? 16 (value &&& 0x0F).toNat = some i := by
  have hlt : (value &&& 0x0F).toNat < 16 := by
    revert value
    exact forall_byte (by decide +kernel)
  exact ⟨_, index?_of_lt hlt⟩

theorem control?_eq (d : Device χ) (side : Side) (value : UInt8) :
    d.control? side value = some (d.control side value) := by
  have hlt : ((value >>> 1) &&& 7).toNat < 8 := by
    revert value
    exact forall_byte (by decide +kernel)
  unfold control?
  rw [index?_of_lt hlt]
  rfl

theorem hostRead?_eq (d : Device χ) (offset : UInt8) :
    d.hostRead? offset = some (d.hostRead offset) := by
  obtain ⟨i, hi⟩ := index?_nibble offset
  unfold hostRead?
  rw [hi]
  rfl

theorem hostWrite?_eq {d : Device χ} (h : d.timers.Sequenced) (offset value : UInt8) :
    d.hostWrite? offset value = some (d.hostWrite offset value) := by
  obtain ⟨i, hi⟩ := index?_nibble offset
  have haccept : d.acceptHost? offset value = some (d.acceptHost offset value) := by
    unfold acceptHost? acceptHost
    rw [hi]
    cases HostWrite.ofOffset offset with
    | piuControl => exact d.control?_eq .host value
    | timer address =>
      simp only [bind, Option.bind, TimerBlock.write?_eq h]
      rfl
    | putHostToCard | timerControl | unmapped => rfl
  unfold hostWrite?
  rw [haccept]
  rfl

theorem enqueue?_eq (d : Device χ) (chunk : List UInt8) :
    d.enqueue? chunk = some (d.enqueue chunk) := by
  unfold enqueue?
  rw [Usart.enqueue?_eq]
  rfl

variable [FmChip χ]

structure Sound (d : Device χ) : Prop where
  timers : d.timers.Sequenced
  fm : d.fm.Sound

theorem Sound.powerOn (irq : UInt8) (chip : χ) : (powerOn irq chip).Sound :=
  ⟨.powerOn, .attach chip⟩

theorem Sound.after {d : Device χ} (h : d.Sound) (e : DeviceEvent) : (d.after e).Sound := by
  constructor
  case timers =>
    rw [(d.turns e .a).timers]
    exact h.timers.react e
  case fm =>
    cases e with
    | cardWrite port value =>
      change (d.cardWrite port value).1.fm.Sound
      rcases d.cardWrite_fm port value with hfm | hfm | hfm <;> rw [hfm]
      · exact h.fm
      · exact ⟨h.fm.rendered, h.fm.position, h.fm.frames⟩
      · exact h.fm.writeData value
    | cardRead port =>
      change (d.cardRead port).2.1.fm.Sound
      rw [d.cardRead_fm port]
      exact h.fm
    | hostRead offset | hostWrite offset value | timerExpired timer | midi chunk =>
      rw [d.after_fm rfl]
      exact h.fm

variable [Fm.GuardedChip χ]

def powerOn? (irq : UInt8) (chip : χ) : Option (Device χ) := do
  let fm ← FmPort.attach? chip
  return { piu := .powerOn, usart := .powerOn, timers := .powerOn, interrupt := .powerOn irq, fm }

def cardRead? (d : Device χ) (port : UInt8) : Option (UInt8 × Device χ × List Effect) := do
  let _ ← index? 16 (port &&& 0x0F).toNat
  match CardRead.ofPort port with
  | .fmStatus =>
    let value ← Fm.GuardedChip.status? d.fm.chip
    return (value, d, [.note (.cardIn port value)])
  | .midi _ | .peekCardToHost | .takeHostToCard | .piuStatus | .unmapped => return d.cardRead port

def acceptCard? (d : Device χ) (port value : UInt8) : Option (Device χ × List Effect) := do
  let _ ← index? 16 (port &&& 0x0F).toNat
  match CardWrite.ofPort port with
  | .fmData =>
    let (fm, notices) ← d.fm.writeData? value
    return ({ d with fm }, notices.map .note)
  | .midi odd =>
    let (usart, effects) ← d.usart.write? odd value
    return ({ d with usart }, effects)
  | .piuControl => d.control? .card value
  | .fmAddress | .putCardToHost | .unmapped => return d.acceptCard port value

def cardWrite? (d : Device χ) (port value : UInt8) : Option (Device χ × List Effect) := do
  let (d, effects) ← d.acceptCard? port value
  return (d, .note (.cardOut port value) :: effects)

theorem powerOn?_eq (irq : UInt8) (chip : χ) : powerOn? irq chip = some (powerOn irq chip) := by
  unfold powerOn?
  rw [FmPort.attach?_eq]
  rfl

theorem cardRead?_eq (d : Device χ) (port : UInt8) :
    d.cardRead? port = some (d.cardRead port) := by
  obtain ⟨i, hi⟩ := index?_nibble port
  unfold cardRead? cardRead answerCard
  rw [hi]
  cases CardRead.ofPort port with
  | fmStatus =>
    simp only [bind, Option.bind, Fm.GuardedChip.status?_eq]
    rfl
  | midi odd | peekCardToHost | takeHostToCard | piuStatus | unmapped => rfl

theorem cardWrite?_eq {d : Device χ} (h : d.Sound) (port value : UInt8) :
    d.cardWrite? port value = some (d.cardWrite port value) := by
  obtain ⟨i, hi⟩ := index?_nibble port
  have haccept : d.acceptCard? port value = some (d.acceptCard port value) := by
    unfold acceptCard? acceptCard
    rw [hi]
    cases CardWrite.ofPort port with
    | fmData =>
      simp only [bind, Option.bind, FmPort.writeData?_eq h.fm]
      rfl
    | midi odd =>
      simp only [bind, Option.bind, Usart.write?_eq]
      rfl
    | piuControl => exact d.control?_eq .card value
    | fmAddress | putCardToHost | unmapped => rfl
  unfold cardWrite?
  rw [haccept]
  rfl

end Device

end FeatureCard
