import FeatureCard.Bus

/-!
# A processor that follows a script

It executes no program. Each step performs the accesses that the script has for it, in order, and
costs what a list says; offered interrupts are answered from another list. It shows what the card
makes of any pattern of costs and accesses.
-/

namespace FeatureCard

inductive ScriptAction where
  | output (port value : UInt8)
  | input (port : UInt8)
  | write (address : UInt16) (value : UInt8)
  | read (address : UInt16)
  deriving DecidableEq, Repr

structure ScriptedCpu where
  /-- The costs of the steps, used in turn. -/
  costs : Array UInt32 := #[10]
  /-- The answers to offered interrupts, used in turn. -/
  answers : Array UInt32 := #[0]
  script : List (Nat × ScriptAction) := []
  steps : Nat := 0
  offered : Nat := 0
  total : Nat := 0
  seen : Array UInt8 := #[]

namespace ScriptedCpu

/-- The `n`-th entry of a list that starts again at its end. -/
def turn (costs : Array UInt32) (n : Nat) : UInt32 := costs.getD (n % costs.size) 0

def act (c : ScriptedCpu) : ScriptAction → BusProgram ScriptedCpu
  | .output port value => do
    outputByte port value
    return c
  | .input port => do
    let v ← inputByte port
    return { c with seen := c.seen.push v }
  | .write address value => do
    writeByte address value
    return c
  | .read address => do
    let v ← readByte address
    return { c with seen := c.seen.push v }

def perform (c : ScriptedCpu) : List ScriptAction → BusProgram ScriptedCpu
  | [] => return c
  | action :: rest => do
    let c ← c.act action
    c.perform rest

def due (c : ScriptedCpu) : List ScriptAction :=
  c.script.filterMap fun (at_, action) => if at_ = c.steps then some action else none

instance : Processor ScriptedCpu where
  step c := do
    let cost := turn c.costs c.steps
    let c ← c.perform c.due
    return (cost, { c with steps := c.steps + 1, total := c.total + cost.toNat })
  interrupt c :=
    let cost := turn c.answers c.offered
    return (cost, { c with offered := c.offered + 1, total := c.total + cost.toNat })

end ScriptedCpu

end FeatureCard
