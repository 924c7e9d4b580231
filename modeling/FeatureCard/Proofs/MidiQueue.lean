import FeatureCard.Proofs.Isolation

/-!
# The MIDI queue loses nothing that it accepted

Producers append to the queue, the processor takes from it, and it may be cleared. Whatever comes
in between and in whatever order, the bytes that were accepted are those that were handed out or
cleared away, followed by those that still wait. All producers share the one queue, so a run is an
interleaving of what they and the processor do.
-/

namespace FeatureCard

open Fm (FmChip)
open Midi (Fifo Usart)
open PortMap

/-! ## Runs with clears -/

inductive QueueEvent where
  | device (e : DeviceEvent)
  | clear
  deriving DecidableEq, Repr

namespace DeviceAnswer

def count : DeviceAnswer → Nat
  | .accepted count => count
  | .nothing | .byte _ => 0

def bytes : DeviceAnswer → List UInt8
  | .byte value => [value]
  | .nothing | .accepted _ => []

end DeviceAnswer

namespace Device

variable {χ : Type}

def queued (d : Device χ) : List UInt8 := d.usart.fifo.bytes

def clearQueue (d : Device χ) : Device χ :=
  { d with usart := { d.usart with fifo := d.usart.fifo.clear } }

variable [FmChip χ]

def queueAfter (d : Device χ) : QueueEvent → Device χ
  | .device e => d.after e
  | .clear => d.clearQueue

def queueAfterAll (d : Device χ) (events : List QueueEvent) : Device χ := events.foldl queueAfter d

/-- The bytes that an event brings in: the front of a chunk, as many as the answer says. -/
def entering (d : Device χ) : QueueEvent → List UInt8
  | .device (.midi chunk) => chunk.take (d.perform (.midi chunk)).1.count
  | .device _ | .clear => []

/-- The bytes that an event takes away: what a read of the data port answers while bytes wait, or
all bytes. -/
def leaving (d : Device χ) : QueueEvent → List UInt8
  | .device (.cardRead port) =>
    if port &&& 0x31 = 0x10 ∧ d.queued ≠ [] then (d.perform (.cardRead port)).1.bytes else []
  | .clear => d.queued
  | .device _ => []

def entered (d : Device χ) : List QueueEvent → List UInt8
  | [] => []
  | e :: events => d.entering e ++ (d.queueAfter e).entered events

def left (d : Device χ) : List QueueEvent → List UInt8
  | [] => []
  | e :: events => d.leaving e ++ (d.queueAfter e).left events

/-! ## The ports of the queue -/

theorem ofPort_midi (port : UInt8) (odd : Bool) :
    CardRead.ofPort port = .midi odd ↔ port &&& 0x31 = if odd then 0x11 else 0x10 := by
  revert port
  cases odd <;> exact forall_byte (by decide +kernel)

theorem perform_data (d : Device χ) {port : UInt8} (h : port &&& 0x31 = 0x10) :
    (d.perform (.cardRead port)).1 = .byte (d.queued.head?.getD 0) ∧
      d.after (.cardRead port) =
        { d with usart := { d.usart with fifo := d.usart.fifo.dequeue?.2 } } := by
  have hport : CardRead.ofPort port = .midi false := (ofPort_midi port false).2 h
  simp only [after, perform, cardRead, answerCard, hport]
  exact ⟨rfl, rfl⟩

theorem perform_status (d : Device χ) {port : UInt8} (h : port &&& 0x31 = 0x11) :
    (d.perform (.cardRead port)).1 = .byte (d.usart.status d.interrupt.tcr) ∧
      d.after (.cardRead port) = d := by
  have hport : CardRead.ofPort port = .midi true := (ofPort_midi port true).2 h
  simp only [after, perform, cardRead, answerCard, hport]
  exact ⟨rfl, rfl⟩

theorem after_queued (d : Device χ) (e : DeviceEvent) (hchunk : ∀ chunk, e ≠ .midi chunk)
    (hread : ∀ port, e = .cardRead port → port &&& 0x31 ≠ 0x10) :
    (d.after e).queued = d.queued := by
  unfold queued
  cases e with
  | cardRead port =>
    have hdata : CardRead.ofPort port ≠ .midi false := by
      intro hport
      exact hread port rfl ((ofPort_midi port false).1 hport)
    simp only [after, perform, cardRead, answerCard]
    cases hport : CardRead.ofPort port with
    | midi odd =>
      cases odd with
      | false => exact absurd hport hdata
      | true => rfl
    | fmStatus | peekCardToHost | takeHostToCard | piuStatus | unmapped => rfl
  | cardWrite port value =>
    simp only [after, perform, cardWrite, acceptCard]
    cases CardWrite.ofPort port with
    | midi odd =>
      simp only [Usart.write]
      split
      · rfl
      · split <;> rfl
    | piuControl => rw [control_usart]
    | fmAddress | fmData | putCardToHost | unmapped => rfl
  | hostRead offset | hostWrite offset value | timerExpired timer =>
    rw [(d.after_of_not_onCard rfl).usart]
  | midi chunk => exact absurd rfl (hchunk chunk)

/-! ## Nothing is lost -/

/-- What waits before an event and what it brings in is what it takes away and what waits after. -/
theorem queueAfter_conserves (d : Device χ) (e : QueueEvent) :
    d.queued ++ d.entering e = d.leaving e ++ (d.queueAfter e).queued := by
  cases e with
  | clear =>
    unfold entering leaving queueAfter
    simp [queued, clearQueue]
  | device e =>
    by_cases hchunk : ∃ chunk, e = .midi chunk
    · obtain ⟨chunk, rfl⟩ := hchunk
      rfl
    by_cases hread : ∃ port, e = .cardRead port ∧ port &&& 0x31 = 0x10
    · obtain ⟨port, rfl, hport⟩ := hread
      obtain ⟨hanswer, hafter⟩ := d.perform_data hport
      have hrest : (d.queueAfter (.device (.cardRead port))).queued = d.queued.tail := by
        rw [queueAfter, hafter]
        rfl
      rw [hrest]
      simp only [entering, leaving, hport, hanswer, DeviceAnswer.bytes]
      cases d.queued <;> simp
    · -- No other event touches the queue.
      have hother : d.entering (.device e) = [] ∧ d.leaving (.device e) = [] := by
        unfold entering leaving
        cases e <;> simp_all
      have hqueued : (d.queueAfter (.device e)).queued = d.queued := by
        apply d.after_queued e
        · intro chunk heq
          exact hchunk ⟨chunk, heq⟩
        · intro port heq hport
          exact hread ⟨port, heq, hport⟩
      rw [hother.1, hother.2, hqueued, List.append_nil, List.nil_append]

theorem queueAfterAll_conserves (d : Device χ) (events : List QueueEvent) :
    d.queued ++ d.entered events = d.left events ++ (d.queueAfterAll events).queued := by
  induction events generalizing d with
  | nil => simp [entered, left, queueAfterAll]
  | cons e events ih =>
    calc d.queued ++ (d.entering e ++ (d.queueAfter e).entered events)
      _ = d.leaving e ++ ((d.queueAfter e).queued ++ (d.queueAfter e).entered events) := by
        rw [← List.append_assoc, d.queueAfter_conserves e, List.append_assoc]
      _ = d.leaving e ++ (d.queueAfter e).left events ++
          (d.queueAfterAll (e :: events)).queued := by
        rw [ih, List.append_assoc]
        rfl

/-! ## What the processor and the producers see -/

end Device

theorem flag_bits (room waits unmasked : Prop) [Decidable room] [Decidable waits]
    [Decidable unmasked] (flags : UInt8)
    (h : flags = (if room then 0x01 else 0) ||| (if waits then 0x02 else 0x04) |||
      if unmasked then 0x80 else 0) :
    (flags &&& 0x01 ≠ 0 ↔ room) ∧ (flags &&& 0x02 ≠ 0 ↔ waits) ∧ (flags &&& 0x04 ≠ 0 ↔ ¬ waits) ∧
      (flags &&& 0x80 ≠ 0 ↔ unmasked) ∧ flags &&& 0x78 = 0 := by
  subst h
  by_cases hroom : room <;> by_cases hwaits : waits <;> by_cases hunmasked : unmasked <;>
    simp only [hroom, hwaits, hunmasked, if_true, if_false] <;> decide

theorem Midi.Usart.status_bits (u : Usart) (tcr : UInt8) :
    (u.status tcr &&& 0x01 ≠ 0 ↔ u.fifo.size < 64) ∧
      (u.status tcr &&& 0x02 ≠ 0 ↔ 0 < u.fifo.size) ∧
      (u.status tcr &&& 0x04 ≠ 0 ↔ u.fifo.size = 0) ∧
      (u.status tcr &&& 0x80 ≠ 0 ↔ tcr &&& 0x10 = 0) ∧
      u.status tcr &&& 0x78 = 0 := by
  have h := flag_bits (u.fifo.size < 64) (0 < u.fifo.size) (tcr &&& 0x10 = 0) (u.status tcr) rfl
  rwa [Nat.not_lt, Nat.le_zero] at h

namespace Device

variable {χ : Type} [FmChip χ]

/-- How the queue serves at a moment. -/
structure QueueServes (d : Device χ) : Prop where
  length_le : d.queued.length ≤ 64
  enqueue : ∀ chunk : List UInt8,
    (d.perform (.midi chunk)).1 = .accepted (min chunk.length (64 - d.queued.length)) ∧
      (d.after (.midi chunk)).queued =
        d.queued ++ chunk.take (min chunk.length (64 - d.queued.length))
  empty : ∀ port : UInt8, port &&& 0x31 = 0x10 → d.queued = [] →
    (d.perform (.cardRead port)).1 = .byte 0 ∧ d.after (.cardRead port) = d
  status : ∀ port : UInt8, port &&& 0x31 = 0x11 → d.after (.cardRead port) = d ∧
    ∃ value, (d.perform (.cardRead port)).1 = .byte value ∧
      (value &&& 0x01 ≠ 0 ↔ d.queued.length < 64) ∧
      (value &&& 0x02 ≠ 0 ↔ 0 < d.queued.length) ∧
      (value &&& 0x04 ≠ 0 ↔ d.queued.length = 0) ∧
      (value &&& 0x80 ≠ 0 ↔ d.interrupt.tcr &&& 0x10 = 0) ∧
      value &&& 0x78 = 0

theorem queueServes (d : Device χ) : d.QueueServes := by
  constructor
  case length_le => exact d.usart.fifo.length_le
  case enqueue =>
    intro chunk
    exact ⟨rfl, rfl⟩
  case empty =>
    intro port hport hempty
    obtain ⟨hanswer, hafter⟩ := d.perform_data hport
    have hsame : d.usart.fifo.dequeue?.2 = d.usart.fifo := by
      apply Fifo.ext
      rw [Fifo.bytes_dequeue?, show d.usart.fifo.bytes = [] from hempty, List.tail_nil]
    rw [hanswer, hafter, hsame, hempty]
    exact ⟨rfl, rfl⟩
  case status =>
    intro port hport
    obtain ⟨hanswer, hafter⟩ := d.perform_status hport
    exact ⟨hafter, _, hanswer, d.usart.status_bits d.interrupt.tcr⟩

/-- From power-on on the queue conserves its bytes in order, and at every moment it serves its
producers and the processor. -/
theorem midi_queue_conserves (irq : UInt8) (chip : χ) (events : List QueueEvent) :
    (powerOn irq chip).entered events =
        (powerOn irq chip).left events ++ ((powerOn irq chip).queueAfterAll events).queued ∧
      ((powerOn irq chip).queueAfterAll events).QueueServes := by
  refine ⟨?_, queueServes _⟩
  rw [← queueAfterAll_conserves]
  rfl

end Device

end FeatureCard
