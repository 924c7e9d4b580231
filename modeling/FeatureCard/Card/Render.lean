import FeatureCard.Card.Basic

/-!
# Rendering in lockstep

A block of frames grants the processor a budget of T-states. The processor steps until the budget
is spent. After each step the FM port moves on by the frames completed, the chip's timers hear of
the time that has passed, and the attention line is sampled. A step that begins with the line up
offers an interrupt first. What a block overspends is not taken from the next. A fault in the
counting ends the block; what the card reported up to it is kept.
-/

namespace FeatureCard

open Fm (FmChip Frame)

structure CardBus (χ : Type) where
  memory : Memory
  device : Device χ
  effects : Array Effect

instance {χ : Type} [FmChip χ] : Bus (CardBus χ) where
  read b address := b.memory.read address
  write b address value := { b with memory := b.memory.write address value }
  input b port :=
    let (value, device, effects) := b.device.cardRead port
    (value, { b with device, effects := b.effects ++ effects })
  output b port value :=
    let (device, effects) := b.device.cardWrite port value
    { b with device, effects := b.effects ++ effects }

structure Breakdown where
  fault : Fault
  notices : List Notice := []
  deriving DecidableEq, Repr

def Breakdown.atOnce (fault : Fault) : Breakdown := { fault }

/-- What a step costs that would cost nothing. -/
def stallCycles : UInt32 := 4

def effectiveCost (cost : UInt32) : UInt32 := if cost = 0 then stallCycles else cost

theorem effectiveCost_pos (cost : UInt32) : 0 < (effectiveCost cost).toNat := by
  unfold effectiveCost
  split
  · decide
  · rename_i h
    exact Nat.pos_of_ne_zero fun h0 => h (UInt32.toNat_inj.1 h0)

structure Run (κ χ : Type) where
  bus : CardBus χ
  cpu : κ
  clock : SampleClock
  attention : Bool
  stats : RenderStats
  cursor : FrameCursor

namespace Run

variable {κ χ : Type} [Processor κ] [FmChip χ]

/-- An interrupt, if the attention line is up. The cost is 0 if none was accepted. -/
def offer (r : Run κ χ) : UInt32 × Run κ χ :=
  if r.attention then
    let ((cost, cpu), bus) := (Processor.interrupt r.cpu).run r.bus
    let stats :=
      { r.stats with
        attentionSteps := r.stats.attentionSteps + 1
        interruptsTaken := r.stats.interruptsTaken + if cost = 0 then 0 else 1 }
    (cost, { r with bus, cpu, stats })
  else (0, r)

def execute (r : Run κ χ) : UInt32 × Run κ χ :=
  let ((cost, cpu), bus) := (Processor.step r.cpu).run r.bus
  (cost, { r with bus, cpu })

/-- The processor's part of a step: an accepted interrupt, or else an instruction. The cost is the
one that counts. -/
def act (r : Run κ χ) : UInt32 × Run κ χ :=
  let (cost, r) := r.offer
  if cost ≠ 0 then (cost, r)
  else
    let (cost, r) := r.execute
    (effectiveCost cost, r)

def settle (r : Run κ χ) (cost : UInt32) : Checked (Run κ χ) := do
  let stats :=
    { r.stats with
      instructions := r.stats.instructions + 1
      cycles := r.stats.cycles + cost.toNat }
  let (reached, cursor) ← r.cursor.advance cost
  let fm ← if 0 < reached then r.bus.device.fm.advance reached else pure r.bus.device.fm
  let (micros, clock) := r.clock.elapsed cost
  let (event, fm) := fm.count micros
  let device := { r.bus.device with fm }
  return { r with
    bus := { r.bus with device }
    clock, stats, cursor
    attention := device.attentionLine event }

theorem act_cost_pos (r : Run κ χ) : 0 < r.act.1.toNat := by
  unfold act
  by_cases h : r.offer.1 = 0
  · simp [h, effectiveCost_pos]
  · simp only [ne_eq, h, not_false_eq_true, if_true]
    exact Nat.pos_of_ne_zero fun h0 => h (UInt32.toNat_inj.1 h0)

def breakdown (r : Run κ χ) (fault : Fault) : Breakdown :=
  { fault, notices := Effect.notices r.bus.effects.toList }

def spend (budget : Int) (r : Run κ χ) : Except Breakdown (Run κ χ) :=
  if 0 < budget then
    match _h : r.act with
    | (cost, r') => do
      let r'' ← (r'.settle cost).mapError r'.breakdown
      spend (budget - cost.toNat) r''
  else return r
termination_by budget.toNat
decreasing_by
  have := r.act_cost_pos
  rw [_h] at this
  dsimp only at this
  omega

end Run

namespace Card

variable {κ χ : Type} [Processor κ] [FmChip χ]

/-- Renders a block. The answer has `frames` frames. A disabled card gives silence. -/
def render (c : Card κ χ) (frames : Nat) :
    Except Breakdown (Array Frame × Card κ χ × List Effect) := do
  let stats : RenderStats := { frames }
  match c.memory with
  | none =>
    let _ ← (mulBelow word64 frames 2).mapError .atOnce
    return (Array.replicate frames .silence, { c with stats }, [])
  | some memory =>
    let fm ← (c.device.fm.begin frames).mapError .atOnce
    let budget ← (c.clock.budget frames).mapError .atOnce
    let start : Run κ χ :=
      { bus := { memory, device := { c.device with fm }, effects := #[] }
        cpu := c.cpu
        clock := c.clock
        attention := c.attention
        stats
        cursor := c.clock.cursor }
    let r ← start.spend budget
    let fm := r.bus.device.fm.finish
    return (fm.output,
      { c with
        memory := some r.bus.memory
        device := { r.bus.device with fm }
        cpu := r.cpu
        clock := r.clock
        attention := r.attention
        stats := r.stats },
      r.bus.effects.toList)

end Card

end FeatureCard
