/-!
# A mailbox for one byte

The writer puts a byte and the mailbox becomes ready. The reader takes it, or only looks at it.
Two gates decide what counts as an interrupt: a byte that waits for the reader, or room for the
writer.
-/

namespace FeatureCard

structure Mailbox where
  /-- The last byte put. It stays readable after it was taken. -/
  data : UInt8 := 0
  ready : Bool := false
  /-- The reader asks for an interrupt when a byte waits. -/
  rxGate : Bool := false
  /-- The writer asks for an interrupt when there is room. -/
  txGate : Bool := false
  deriving DecidableEq, Repr, Inhabited

namespace Mailbox

def empty : Mailbox := {}

def put (m : Mailbox) (value : UInt8) : Mailbox :=
  { m with data := value, ready := true }

def take (m : Mailbox) : UInt8 × Mailbox :=
  (m.data, { m with ready := false })

def peek (m : Mailbox) : UInt8 := m.data

def setRxGate (m : Mailbox) (on : Bool) : Mailbox := { m with rxGate := on }

def setTxGate (m : Mailbox) (on : Bool) : Mailbox := { m with txGate := on }

def rxInterrupt (m : Mailbox) : Bool := m.ready && m.rxGate

def txInterrupt (m : Mailbox) : Bool := !m.ready && m.txGate

end Mailbox

end FeatureCard
