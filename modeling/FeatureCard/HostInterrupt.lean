import FeatureCard.Notice

/-!
# The interrupt line to the host

Timer firings are kept as pending bits until the host acknowledges them through the timer control
register. Pending bits and the mailboxes raise the line, if the register's two gate bits are set.
The host hears of the line only when its level changes.
-/

namespace FeatureCard

structure HostInterrupt where
  irq : UInt8
  tcr : UInt8 := 0
  /-- One bit for each timer that fired and was not acknowledged. -/
  pending : UInt8 := 0
  /-- The level the host was told last. -/
  delivered : Bool := false
  deriving DecidableEq, Repr

namespace HostInterrupt

/-- The bits that keep a pending interrupt when they are written as 1. -/
def acknowledgeBits : UInt8 := 0x03

/-- The bits that have to be set both for the line to rise. -/
def gateBits : UInt8 := 0xC0

def reservedBits : UInt8 := 0x7C

def enableBit : Timer → UInt8
  | .a => 0x04
  | .b => 0x08

def powerOn (irq : UInt8) : HostInterrupt := { irq }

/-- Writes the timer control register. A pending bit whose acknowledge bit is 0 is dropped. -/
def writeControl (h : HostInterrupt) (value : UInt8) : HostInterrupt :=
  { h with tcr := value, pending := h.pending &&& (value &&& acknowledgeBits) }

def enabled (h : HostInterrupt) (timer : Timer) : Bool :=
  h.tcr &&& enableBit timer == enableBit timer

/-- Takes a firing of `timer`. The answer is whether it is pending now. -/
def fire (h : HostInterrupt) (timer : Timer) : Bool × HostInterrupt :=
  if h.enabled timer then (true, { h with pending := h.pending ||| timer.pendingBit })
  else (false, h)

def requested (h : HostInterrupt) (mailboxes : Bool) : Bool :=
  h.pending != 0 || mailboxes

def status (h : HostInterrupt) (mailboxes : Bool) : UInt8 :=
  h.pending ||| reservedBits ||| (if h.requested mailboxes then 0x80 else 0)

def gateOpen (h : HostInterrupt) : Bool :=
  h.tcr &&& gateBits == gateBits

def level (h : HostInterrupt) (mailboxes : Bool) : Bool :=
  h.gateOpen && h.requested mailboxes

/-- Brings the line to its level. The host is called only if that changes it. -/
def update (h : HostInterrupt) (mailboxes : Bool) : HostInterrupt × List Effect :=
  let active := h.level mailboxes
  let effects :=
    if active = h.delivered then []
    else
      [.note (.hostLine h.irq h.delivered active),
        .call (if active then .raise h.irq else .lower h.irq)]
  ({ h with delivered := active }, effects)

end HostInterrupt

end FeatureCard
