import FeatureCard.Mailbox
import FeatureCard.Notice

/-!
# The link between host and card

Two mailboxes, one in each direction, and a flag that both sides see. Each side has a control word
to set its gates and a status byte. Both sides use one format of control word, but each reaches
its own flags, and the bits of the two status bytes lie in different places.
-/

namespace FeatureCard

inductive PiuFlag where
  | hostToCardRx
  | hostToCardTx
  | cardToHostRx
  | cardToHostTx
  | extra
  deriving DecidableEq, Repr

inductive ControlWord where
  /-- A mode word. It changes nothing; `supported` says that it fits the wiring. -/
  | mode (value : UInt8) (supported : Bool)
  | set (flag : PiuFlag) (on : Bool)
  | unmapped (field : UInt8)
  deriving DecidableEq, Repr

namespace ControlWord

/-- The mode word that fits the wiring of a side. Bit 0 does not count. -/
def modeOf : Side → UInt8
  | .card => 0xA6
  | .host => 0xBC

def flagOf : Side → UInt8 → Option PiuFlag
  | .card, 2 => some .hostToCardRx
  | .card, 5 => some .extra
  | .card, 6 => some .cardToHostTx
  | .host, 2 => some .hostToCardTx
  | .host, 4 => some .cardToHostRx
  | _, _ => none

/-- Bit 7 marks a mode word. Otherwise bits 3 to 1 pick the field and bit 0 is its value. -/
def decode (side : Side) (value : UInt8) : ControlWord :=
  if value &&& 0x80 ≠ 0 then .mode value (value &&& 0xFE == modeOf side)
  else
    let field := (value >>> 1) &&& 7
    match flagOf side field with
    | some flag => .set flag (value &&& 1 ≠ 0)
    | none => .unmapped field

end ControlWord

structure Piu where
  hostToCard : Mailbox := .empty
  cardToHost : Mailbox := .empty
  extra : Bool := false
  deriving DecidableEq, Repr, Inhabited

namespace Piu

def powerOn : Piu := {}

def setFlag (p : Piu) (flag : PiuFlag) (on : Bool) : Piu :=
  match flag with
  | .hostToCardRx => { p with hostToCard := p.hostToCard.setRxGate on }
  | .hostToCardTx => { p with hostToCard := p.hostToCard.setTxGate on }
  | .cardToHostRx => { p with cardToHost := p.cardToHost.setRxGate on }
  | .cardToHostTx => { p with cardToHost := p.cardToHost.setTxGate on }
  | .extra => { p with extra := on }

def bitIf (mask : UInt8) (condition : Bool) : UInt8 := if condition then mask else 0

def cardStatus (p : Piu) : UInt8 :=
  bitIf 0x01 p.hostToCard.rxInterrupt |||
  bitIf 0x02 p.hostToCard.ready |||
  bitIf 0x04 p.hostToCard.rxGate |||
  bitIf 0x08 p.cardToHost.txInterrupt |||
  bitIf 0x20 p.extra |||
  bitIf 0x40 p.cardToHost.txGate |||
  bitIf 0x80 (!p.cardToHost.ready)

def hostStatus (p : Piu) : UInt8 :=
  bitIf 0x01 p.hostToCard.txInterrupt |||
  bitIf 0x02 (!p.hostToCard.ready) |||
  bitIf 0x04 p.hostToCard.txGate |||
  bitIf 0x08 p.cardToHost.rxInterrupt |||
  bitIf 0x10 p.cardToHost.rxGate |||
  bitIf 0x20 p.cardToHost.ready |||
  bitIf 0x80 p.extra

/-- A mailbox asks for the host: there is room for a byte to the card, or one has come from it. -/
def hostInterrupt (p : Piu) : Bool :=
  p.hostToCard.txInterrupt || p.cardToHost.rxInterrupt

end Piu

end FeatureCard
