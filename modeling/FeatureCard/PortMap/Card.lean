/-!
# The ports of the card's processor

Bits 5 and 4 of a port select a block of 16: the FM chip, the MIDI port, the link to the host, or
nothing. Bits 7 and 6 do not count.
-/

namespace FeatureCard.PortMap

inductive CardRead where
  | fmStatus
  /-- The data register, or the status register if `odd`. -/
  | midi (odd : Bool)
  | peekCardToHost
  | takeHostToCard
  | piuStatus
  | unmapped
  deriving DecidableEq, Repr

inductive CardWrite where
  | fmAddress
  | fmData
  | midi (odd : Bool)
  | putCardToHost
  | piuControl
  | unmapped
  deriving DecidableEq, Repr

def group (port : UInt8) : UInt8 := (port >>> 4) &&& 3

def isOdd (port : UInt8) : Bool := port &&& 1 ≠ 0

def CardRead.ofPort (port : UInt8) : CardRead :=
  match group port with
  | 0 => if isOdd port then .fmStatus else .unmapped
  | 1 => .midi (isOdd port)
  | 2 =>
    match port &&& 0x0F with
    | 0 => .peekCardToHost
    | 1 => .takeHostToCard
    | 2 => .piuStatus
    | _ => .unmapped
  | _ => .unmapped

def CardWrite.ofPort (port : UInt8) : CardWrite :=
  match group port with
  | 0 => if isOdd port then .fmData else .fmAddress
  | 1 => .midi (isOdd port)
  | 2 =>
    match port &&& 0x0F with
    | 0 => .putCardToHost
    | 3 => .piuControl
    | _ => .unmapped
  | _ => .unmapped

end FeatureCard.PortMap
