import FeatureCard.Card.Render
import FeatureCard.Hosts.Firing
import FeatureCard.Hosts.Millis

/-!
# Rendering with a host

The card is rendered in slices of a millisecond. Before a slice the MIDI queue is filled up from
what is still to be sent; after it the host's time moves on and the timers that are due fire.
-/

namespace FeatureCard.Renderer

open Fm (FmChip Frame)
open Hosts (Millis Offline)

def slicesPerSecond : Nat := 1000

/-- How many bytes are offered to the MIDI queue at a time. -/
def midiChunk : Nat := 16

def sliceFrames (rate : Nat) : Nat := max (rate / slicesPerSecond) 1

/-- Frames in so many seconds; from the middle between two numbers the larger. -/
def totalFrames (seconds : Float) (rate : Nat) : Nat :=
  (seconds * rate.toUInt64.toFloat).round.toUInt64.toNat

def momentOf (frames rate : Nat) : Millis :=
  .ofFloat (frames.toUInt64.toFloat * 1000.0 / rate.toUInt64.toFloat)

structure Session (κ χ : Type) where
  card : Card κ χ
  host : Offline Millis := .start
  frames : Array Frame := #[]
  instructions : Nat := 0
  midi : List UInt8 := []
  notices : Array Notice := #[]

namespace Session

variable {κ χ : Type} [Processor κ] [FmChip χ]

def hear (s : Session κ χ) (effects : List Effect) : Session κ χ :=
  { s with
    host := s.host.hear .ofPeriod effects
    notices := s.notices ++ Effect.notices effects }

/-- Sends MIDI bytes until the queue is full or none is left. -/
def feed (s : Session κ χ) : Session κ χ :=
  if _h : s.midi = [] ∨ s.card.device.usart.fifo.hasRoom = false then s
  else
    match s.card.enqueue (s.midi.take midiChunk) with
    | (0, _, _) => s
    | (accepted + 1, card, effects) =>
      feed ({ s with card, midi := s.midi.drop (accepted + 1) }.hear effects)
termination_by s.midi.length
decreasing_by
  have : s.midi.length ≠ 0 := fun h0 => _h (.inl (List.eq_nil_of_length_eq_zero h0))
  simp only [hear, List.length_drop]
  omega

def fire (s : Session κ χ) : Session κ χ :=
  let fired := s.host.fireDue .ofPeriod s.card.device
  { s with
    card := { s.card with device := fired.device }
    host := fired.host
    notices := s.notices ++ Effect.notices fired.effects.toList }

def breakdown (s : Session κ χ) (b : Breakdown) : Breakdown :=
  { b with notices := s.notices.toList ++ b.notices }

def slice (s : Session κ χ) (frames : Nat) : Except Breakdown (Session κ χ) := do
  let s := s.feed
  let (sound, card, effects) ← (s.card.render frames).mapError s.breakdown
  let s := { s with
    card
    frames := s.frames ++ sound
    instructions := s.instructions + card.stats.instructions }.hear effects
  let moment := momentOf s.frames.size card.clock.rate
  return { s with host := s.host.advanceTo moment }.fire

def run (size : Nat) (left : Nat) (s : Session κ χ) : Except Breakdown (Session κ χ) :=
  if _h : left = 0 ∨ size = 0 then .ok s
  else do
    let s ← s.slice (min size left)
    run size (left - min size left) s
termination_by left
decreasing_by omega

/-- Renders so many seconds. The number of samples, two in a frame, has to fit a word. -/
def render (s : Session κ χ) (seconds : Float) : Except Breakdown (Session κ χ) := do
  let rate := s.card.clock.rate
  let total := totalFrames seconds rate
  let _ ← (mulBelow word64 total 2).mapError .atOnce
  run (sliceFrames rate) total s

end Session

end FeatureCard.Renderer
