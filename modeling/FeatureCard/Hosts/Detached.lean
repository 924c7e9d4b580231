import FeatureCard.HostCall

/-!
# A host without a clock

It keeps the level of its interrupt line and the time span asked for each timer. Nothing fires on
its own: whoever drives the card takes a pending timer and reports its firing.
-/

namespace FeatureCard.Hosts

structure Detached (τ : Type) where
  irqActive : Bool := false
  pendingA : Option τ := none
  pendingB : Option τ := none
  deriving DecidableEq, Repr

namespace Detached

variable {τ : Type}

/-- The time span asked for a timer that has not fired. -/
def pending (h : Detached τ) : Timer → Option τ
  | .a => h.pendingA
  | .b => h.pendingB

def setPending (h : Detached τ) (timer : Timer) (span : Option τ) : Detached τ :=
  match timer with
  | .a => { h with pendingA := span }
  | .b => { h with pendingB := span }

def receive (h : Detached τ) : HostCall τ → Detached τ
  | .raise _ => { h with irqActive := true }
  | .lower _ => { h with irqActive := false }
  | .schedule timer span => h.setPending timer (some span)
  | .cancel timer => h.setPending timer none

def take (h : Detached τ) (timer : Timer) : Option τ × Detached τ :=
  (h.pending timer, h.setPending timer none)

end Detached

end FeatureCard.Hosts
