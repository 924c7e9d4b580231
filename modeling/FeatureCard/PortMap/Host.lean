/-!
# The ports of the host

Sixteen ports from the base of the card on. They lead to the link, to the interval timer and to
the timer's control and status registers. The FM chip and the MIDI port cannot be reached from
here.
-/

namespace FeatureCard.PortMap

inductive HostRead where
  | takeCardToHost
  | peekHostToCard
  | piuStatus
  | timer (address : UInt8)
  | timerStatus
  | unmapped
  deriving DecidableEq, Repr

inductive HostWrite where
  | putHostToCard
  | piuControl
  | timer (address : UInt8)
  | timerControl
  | unmapped
  deriving DecidableEq, Repr

/-- What a read at an offset from the base does. Only the low four bits count. -/
def HostRead.ofOffset (offset : UInt8) : HostRead :=
  match offset &&& 0x0F with
  | 0 => .takeCardToHost
  | 1 => .peekHostToCard
  | 2 => .piuStatus
  | 4 => .timer 0
  | 5 => .timer 1
  | 6 => .timer 2
  | 7 => .timer 3
  | 12 | 13 | 14 | 15 => .timerStatus
  | _ => .unmapped

def HostWrite.ofOffset (offset : UInt8) : HostWrite :=
  match offset &&& 0x0F with
  | 1 => .putHostToCard
  | 3 => .piuControl
  | 4 => .timer 0
  | 5 => .timer 1
  | 6 => .timer 2
  | 7 => .timer 3
  | 8 | 9 | 10 | 11 => .timerControl
  | _ => .unmapped

end FeatureCard.PortMap
