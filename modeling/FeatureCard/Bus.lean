/-!
# Processors and their bus

A processor is known to the card by two things: it can execute one instruction, and it can be
offered an interrupt. Both are programs on the bus: finitely many reads, writes, inputs and
outputs, each of which may depend on the answers before it. `Bus` says what a memory and a set of
ports make of such a program.
-/

namespace FeatureCard

/-- A program on the bus with a result of type `α`. -/
inductive BusProgram (α : Type) where
  | done (result : α)
  | read (address : UInt16) (next : UInt8 → BusProgram α)
  | write (address : UInt16) (value : UInt8) (next : BusProgram α)
  | input (port : UInt8) (next : UInt8 → BusProgram α)
  | output (port value : UInt8) (next : BusProgram α)

class Bus (σ : Type) where
  read : σ → UInt16 → UInt8
  write : σ → UInt16 → UInt8 → σ
  input : σ → UInt8 → UInt8 × σ
  output : σ → UInt8 → UInt8 → σ

namespace BusProgram

variable {α β σ : Type}

def bind (p : BusProgram α) (f : α → BusProgram β) : BusProgram β :=
  match p with
  | done a => f a
  | read address next => .read address fun v => (next v).bind f
  | write address value next => .write address value (next.bind f)
  | input port next => .input port fun v => (next v).bind f
  | output port value next => .output port value (next.bind f)

instance : Monad BusProgram where
  pure := done
  bind := bind

def run [Bus σ] (p : BusProgram α) (s : σ) : α × σ :=
  match p with
  | done a => (a, s)
  | read address next => (next (Bus.read s address)).run s
  | write address value next => next.run (Bus.write s address value)
  | input port next =>
    let (v, s) := Bus.input s port
    (next v).run s
  | output port value next => next.run (Bus.output s port value)

end BusProgram

def readByte (address : UInt16) : BusProgram UInt8 := .read address .done

def writeByte (address : UInt16) (value : UInt8) : BusProgram Unit := .write address value (.done ())

def inputByte (port : UInt8) : BusProgram UInt8 := .input port .done

def outputByte (port value : UInt8) : BusProgram Unit := .output port value (.done ())

/-- The interface of a processor. Costs are in T-states. -/
class Processor (κ : Type) where
  step : κ → BusProgram (UInt32 × κ)
  /-- Offers an interrupt. It is declined with a cost of 0. -/
  interrupt : κ → BusProgram (UInt32 × κ)

end FeatureCard
