import FeatureCard.Midi.Fifo
import FeatureCard.Notice

/-!
# The serial port for MIDI

The data register reads the queue. The control register takes three set-up words after power-on
and after a reset word; every other word is a command. Bit 4 of the host's timer control register
masks the port's interrupt.
-/

namespace FeatureCard.Midi

/-- How many words are consumed as set-up after power-on or a reset word. -/
def setupWords : Nat := 3

/-- The bit of the host's timer control register that masks the MIDI interrupt. -/
def maskBit : UInt8 := 0x10

def receiveBit : UInt8 := 0x01

def resetBit : UInt8 := 0x40

structure Usart where
  fifo : Fifo := .empty
  command : UInt8 := 0
  setupLeft : Nat := setupWords
  deriving Inhabited

namespace Usart

def powerOn : Usart := {}

def enqueue (u : Usart) (chunk : List UInt8) : Nat × Usart × List Effect :=
  let accepted := u.fifo.accepts chunk
  let effects :=
    if accepted < chunk.length then
      [.note (.midiDropped (chunk.length - accepted) chunk.length)]
    else []
  (accepted, { u with fifo := u.fifo.enqueue chunk }, effects)

/-- Bit 0: room in the queue. Bit 1: bytes wait. Bit 2: none waits. Bit 7: not masked. -/
def status (u : Usart) (tcr : UInt8) : UInt8 :=
  (if u.fifo.size < capacity then 0x01 else 0) |||
  (if 0 < u.fifo.size then 0x02 else 0x04) |||
  (if tcr &&& maskBit = 0 then 0x80 else 0)

/-- Reads the status register (`odd`) or the data register, which is 0 when no byte waits. -/
def read (u : Usart) (odd : Bool) (tcr : UInt8) : UInt8 × Usart :=
  if odd then (u.status tcr, u)
  else
    let (byte?, fifo) := u.fifo.dequeue?
    (byte?.getD 0, { u with fifo })

/-- Writes the control register (`odd`) or the data register, which goes nowhere. -/
def write (u : Usart) (odd : Bool) (value : UInt8) : Usart × List Effect :=
  if !odd then (u, [.note (.midiOutIgnored value)])
  else if 0 < u.setupLeft then ({ u with setupLeft := u.setupLeft - 1 }, [])
  else
    ({ u with
        command := value
        setupLeft := if value &&& resetBit ≠ 0 then setupWords else u.setupLeft }, [])

/-- The port asks for the processor's attention. How full the queue is does not matter. -/
def interrupt (u : Usart) (tcr : UInt8) : Bool :=
  u.command &&& receiveBit ≠ 0 && tcr &&& maskBit = 0

theorem interrupt_iff (u : Usart) (tcr : UInt8) :
    u.interrupt tcr = true ↔ u.command &&& 0x01 ≠ 0 ∧ tcr &&& 0x10 = 0 := by
  unfold interrupt receiveBit maskBit
  simp only [Bool.and_eq_true_iff, decide_eq_true_iff]

end Usart

end FeatureCard.Midi
