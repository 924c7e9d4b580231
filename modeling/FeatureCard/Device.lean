import FeatureCard.Fm.Port
import FeatureCard.HostInterrupt
import FeatureCard.IntervalTimer
import FeatureCard.Midi.Usart
import FeatureCard.Piu
import FeatureCard.PortMap.Card
import FeatureCard.PortMap.Host

/-!
# The devices of the card

The state that both port maps share: the link, the MIDI port, the interval timer, the interrupt
line to the host and the FM port. Whatever can change the level of the host's line brings it up to
date at once.
-/

namespace FeatureCard

open Fm (FmChip FmPort)
open Midi (Usart)
open PortMap

/-- What the bus holds where nothing answers. -/
def openBus : UInt8 := 0xFF

def attention (fmEvent hostByte cardRoom midi : Bool) : Bool :=
  fmEvent || hostByte || cardRoom || midi

structure Device (χ : Type) where
  piu : Piu
  usart : Usart
  timers : TimerBlock
  interrupt : HostInterrupt
  fm : FmPort χ

namespace Device

variable {χ : Type} [FmChip χ]

def powerOn (irq : UInt8) (chip : χ) : Device χ where
  piu := .powerOn
  usart := .powerOn
  timers := .powerOn
  interrupt := .powerOn irq
  fm := .attach chip

/-- Brings the host's line to its level. -/
def settle (d : Device χ) : Device χ × List Effect :=
  let (interrupt, effects) := d.interrupt.update d.piu.hostInterrupt
  ({ d with interrupt }, effects)

def attentionLine (d : Device χ) (fmEvent : Bool) : Bool :=
  attention fmEvent d.piu.hostToCard.rxInterrupt d.piu.cardToHost.txInterrupt
    (d.usart.interrupt d.interrupt.tcr)

def control (d : Device χ) (side : Side) (value : UInt8) : Device χ × List Effect :=
  match ControlWord.decode side value with
  | .mode _ true => (d, [])
  | .mode value false => (d, [.note (.piuModeUnsupported side value)])
  | .unmapped field => (d, [.note (.piuFieldUnmapped side field)])
  | .set flag on => { d with piu := d.piu.setFlag flag on }.settle

/-- A read by the processor, without its log line. -/
def answerCard (d : Device χ) (port : UInt8) : UInt8 × Device χ × List Effect :=
  match CardRead.ofPort port with
  | .fmStatus => (d.fm.status, d, [])
  | .midi odd =>
    let (value, usart) := d.usart.read odd d.interrupt.tcr
    (value, { d with usart }, [])
  | .peekCardToHost => (d.piu.cardToHost.peek, d, [])
  | .takeHostToCard =>
    let (value, hostToCard) := d.piu.hostToCard.take
    (value, { d with piu := { d.piu with hostToCard } }.settle)
  | .piuStatus => (d.piu.cardStatus, d, [])
  | .unmapped => (openBus, d, [.note (.cardReadUnmapped port)])

def cardRead (d : Device χ) (port : UInt8) : UInt8 × Device χ × List Effect :=
  let (value, d, effects) := d.answerCard port
  (value, d, effects ++ [.note (.cardIn port value)])

def acceptCard (d : Device χ) (port value : UInt8) : Device χ × List Effect :=
  match CardWrite.ofPort port with
  | .fmAddress => ({ d with fm := d.fm.writeAddress value }, [])
  | .fmData =>
    let (fm, notices) := d.fm.writeData value
    ({ d with fm }, notices.map .note)
  | .midi odd =>
    let (usart, effects) := d.usart.write odd value
    ({ d with usart }, effects)
  | .putCardToHost =>
    { d with piu := { d.piu with cardToHost := d.piu.cardToHost.put value } }.settle
  | .piuControl => d.control .card value
  | .unmapped => (d, [.note (.cardWriteUnmapped value port)])

def cardWrite (d : Device χ) (port value : UInt8) : Device χ × List Effect :=
  let (d, effects) := d.acceptCard port value
  (d, .note (.cardOut port value) :: effects)

def answerHost (d : Device χ) (offset : UInt8) : UInt8 × Device χ × List Effect :=
  match HostRead.ofOffset offset with
  | .takeCardToHost =>
    let (value, cardToHost) := d.piu.cardToHost.take
    (value, { d with piu := { d.piu with cardToHost } }.settle)
  | .peekHostToCard => (d.piu.hostToCard.peek, d, [])
  | .piuStatus => (d.piu.hostStatus, d, [])
  | .timer address => (d.timers.read address, d, [])
  | .timerStatus => (d.interrupt.status d.piu.hostInterrupt, d, [])
  | .unmapped => (openBus, d, [.note (.hostReadUnmapped offset)])

def hostRead (d : Device χ) (offset : UInt8) : UInt8 × Device χ × List Effect :=
  let (value, d, effects) := d.answerHost offset
  (value, d, effects ++ [.note (.hostIn offset value)])

def acceptHost (d : Device χ) (offset value : UInt8) : Device χ × List Effect :=
  match HostWrite.ofOffset offset with
  | .putHostToCard =>
    { d with piu := { d.piu with hostToCard := d.piu.hostToCard.put value } }.settle
  | .piuControl => d.control .host value
  | .timer address =>
    let (timers, effects) := d.timers.write address value
    ({ d with timers }, effects)
  | .timerControl => { d with interrupt := d.interrupt.writeControl value }.settle
  | .unmapped => (d, [.note (.hostWriteUnmapped value offset)])

def hostWrite (d : Device χ) (offset value : UInt8) : Device χ × List Effect :=
  let (d, effects) := d.acceptHost offset value
  (d, .note (.hostOut offset value) :: effects)

/-- A timer that the host ran for the card has fired. If it has a period it is started again. -/
def timerExpired (d : Device χ) (timer : Timer) : Device χ × List Effect :=
  let (latched, interrupt) := d.interrupt.fire timer
  let (d, effects) := { d with interrupt }.settle
  let again :=
    match d.timers.period timer with
    | some period => [.call (.schedule timer period)]
    | none => []
  (d, (if latched then [.note (.timerPending timer)] else []) ++ effects ++ again)

/-- Bytes arrive on the MIDI line. The answer is how many were accepted. -/
def enqueue (d : Device χ) (chunk : List UInt8) : Nat × Device χ × List Effect :=
  let (accepted, usart, effects) := d.usart.enqueue chunk
  (accepted, { d with usart }, effects)

end Device

inductive DeviceEvent where
  | cardRead (port : UInt8)
  | cardWrite (port value : UInt8)
  | hostRead (offset : UInt8)
  | hostWrite (offset value : UInt8)
  | timerExpired (timer : Timer)
  | midi (chunk : List UInt8)
  deriving DecidableEq, Repr

inductive DeviceAnswer where
  | nothing
  | byte (value : UInt8)
  | accepted (count : Nat)
  deriving DecidableEq, Repr

namespace Device

variable {χ : Type} [FmChip χ]

def perform (d : Device χ) : DeviceEvent → DeviceAnswer × Device χ × List Effect
  | .cardRead port => let (value, rest) := d.cardRead port; (.byte value, rest)
  | .cardWrite port value => (.nothing, d.cardWrite port value)
  | .hostRead offset => let (value, rest) := d.hostRead offset; (.byte value, rest)
  | .hostWrite offset value => (.nothing, d.hostWrite offset value)
  | .timerExpired timer => (.nothing, d.timerExpired timer)
  | .midi chunk => let (count, rest) := d.enqueue chunk; (.accepted count, rest)

end Device

end FeatureCard
