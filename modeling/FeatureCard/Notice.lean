import FeatureCard.HostCall
import FeatureCard.Text.Hex

/-!
# Notices

What the card reports about its own work: accesses that reach nothing, unsupported settings and,
at the finest level, every port access. A notice never changes what the card does.
-/

namespace FeatureCard

open FeatureCard.Text (hex hexWord)

inductive Level where
  | error
  | warn
  | info
  | debug
  | trace
  deriving DecidableEq, Repr

namespace Level

/-- The place in the order, the most important level first. -/
def rank : Level → Nat
  | error => 1
  | warn => 2
  | info => 3
  | debug => 4
  | trace => 5

def name : Level → String
  | error => "ERROR"
  | warn => "WARN"
  | info => "INFO"
  | debug => "DEBUG"
  | trace => "TRACE"

end Level

structure LogLine where
  level : Level
  /-- The part of the program that speaks. Filters go by its beginning. -/
  speaker : String
  text : String
  deriving DecidableEq, Repr

inductive Side where
  | card
  | host
  deriving DecidableEq, Repr

def Side.name : Side → String
  | card => "card"
  | host => "host"

inductive Notice where
  | midiDropped (dropped offered : Nat)
  | midiOutIgnored (value : UInt8)
  | hostLine (irq : UInt8) (before after : Bool)
  | timerWrite (address value : UInt8)
  | timerModeUnsupported (value : UInt8)
  | timerReadBackIgnored (value : UInt8)
  | fmDataUnlatched (value : UInt8)
  | fmUndocumented (value register : UInt8)
  | fmRegister (register value : UInt8)
  | firmwareTruncated (size : Nat)
  | piuModeUnsupported (side : Side) (value : UInt8)
  | piuFieldUnmapped (side : Side) (field : UInt8)
  | cardReadUnmapped (port : UInt8)
  | cardWriteUnmapped (value port : UInt8)
  | cardIn (port value : UInt8)
  | cardOut (port value : UInt8)
  | hostReadUnmapped (offset : UInt8)
  | hostWriteUnmapped (value offset : UInt8)
  | hostIn (offset value : UInt8)
  | hostOut (offset value : UInt8)
  | timerPending (timer : Timer)
  | cardReady (base : UInt16) (irq : UInt8) (rate cyclesPerSample : Nat)
  | hostReadOutside (port : UInt16)
  | hostWriteOutside (port : UInt16)
  | firmwareUnreadable (reason : String)
  | firmwareMissing
  deriving DecidableEq, Repr

namespace Notice

private def onOff (b : Bool) : String := if b then "true" else "false"

private def byte (b : UInt8) : String := hex 2 b.toNat

private def digit (b : UInt8) : String := hex 1 b.toNat

def line : Notice → LogLine
  | midiDropped dropped offered =>
    ⟨.trace, "imfc::midi", s!"MIDI FIFO full: dropped {dropped} of {offered} bytes"⟩
  | midiOutIgnored value => ⟨.trace, "imfc::midi", s!"MIDI out byte {byte value} ignored"⟩
  | hostLine irq before after =>
    ⟨.trace, "imfc::irq", s!"host IRQ {irq}: {onOff before} -> {onOff after}"⟩
  | timerWrite address value => ⟨.trace, "imfc::pit", s!"PIT write {address}: {byte value}"⟩
  | timerModeUnsupported value =>
    ⟨.warn, "imfc::pit", s!"unsupported timer mode {byte value}"⟩
  | timerReadBackIgnored value =>
    ⟨.warn, "imfc::pit", s!"timer read-back command {byte value} ignored"⟩
  | fmDataUnlatched value =>
    ⟨.debug, "imfc::fm", s!"FM data write {byte value} before any address latch"⟩
  | fmUndocumented value register =>
    ⟨.trace, "imfc::fm", s!"write {byte value} to undocumented OPP register {byte register}"⟩
  | fmRegister register value =>
    ⟨.trace, "imfc::fm::opm", s!"OPM {byte register} <- {byte value}"⟩
  | firmwareTruncated size =>
    ⟨.trace, "imfc::memory", s!"firmware image truncated from {size} to 32768 bytes"⟩
  | piuModeUnsupported side value =>
    ⟨.warn, "imfc::card", s!"{side.name}: unsupported PIU mode {byte value}"⟩
  | piuFieldUnmapped side field =>
    ⟨.debug, "imfc::card", s!"{side.name}: PIU set/reset of unmapped bit {field}"⟩
  | cardReadUnmapped port =>
    ⟨.debug, "imfc::card", s!"card: read of unmapped port {byte port}"⟩
  | cardWriteUnmapped value port =>
    ⟨.debug, "imfc::card", s!"card: write {byte value} to unmapped port {byte port}"⟩
  | cardIn port value => ⟨.trace, "imfc::card", s!"card IN {byte port} -> {byte value}"⟩
  | cardOut port value => ⟨.trace, "imfc::card", s!"card OUT {byte port} <- {byte value}"⟩
  | hostReadUnmapped offset =>
    ⟨.debug, "imfc::card", s!"host: read of unmapped offset {digit offset}"⟩
  | hostWriteUnmapped value offset =>
    ⟨.debug, "imfc::card", s!"host: write {byte value} to unmapped offset {digit offset}"⟩
  | hostIn offset value =>
    ⟨.trace, "imfc::card", s!"host IN +{digit offset} -> {byte value}"⟩
  | hostOut offset value =>
    ⟨.trace, "imfc::card", s!"host OUT +{digit offset} <- {byte value}"⟩
  | timerPending timer => ⟨.trace, "imfc::card", s!"timer {timer.name} pending"⟩
  | cardReady base irq rate cyclesPerSample =>
    ⟨.info, "imfc::card",
      s!"IMFC at {hexWord base}, IRQ {irq}, {rate} Hz ({cyclesPerSample} T-states/sample)"⟩
  | hostReadOutside port =>
    ⟨.debug, "imfc::card", s!"host read {hexWord port} outside card window"⟩
  | hostWriteOutside port =>
    ⟨.debug, "imfc::card", s!"host write {hexWord port} outside card window"⟩
  | firmwareUnreadable reason => ⟨.warn, "imfc::card", reason⟩
  | firmwareMissing => ⟨.warn, "imfc::card", "no IMFC ROM image configured, card disabled"⟩

end Notice

/-- What an operation tells the outside, besides its answer. -/
inductive Effect where
  | call (request : HostCall Period)
  | note (notice : Notice)
  deriving DecidableEq, Repr

namespace Effect

def calls (effects : List Effect) : List (HostCall Period) :=
  effects.filterMap fun
    | call request => some request
    | note _ => none

def notices (effects : List Effect) : List Notice :=
  effects.filterMap fun
    | call _ => none
    | note notice => some notice

end Effect

end FeatureCard
