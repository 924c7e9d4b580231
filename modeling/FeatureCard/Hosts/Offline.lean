import FeatureCard.HostCall

/-!
# A host with a clock of its own

Time moves when it is told to. A timer asked for fires once, after its time span from now. When a
timer is due, time goes back to the moment at which it was due, so that the next span starts there.
Moments are of any type that can be added and compared.
-/

namespace FeatureCard.Hosts

class Instant (τ : Type) where
  zero : τ
  add : τ → τ → τ
  /-- A deadline has come at this moment. -/
  reached : (deadline now : τ) → Bool
  /-- The first deadline is not after the second. It decides between two that have come. -/
  notAfter : τ → τ → Bool
  /-- At least as many as the spans of this length that end by the second moment, when each starts
  where the one before it ended and the first starts at the first moment. -/
  spans : (first last span : τ) → Nat

structure Offline (τ : Type) where
  now : τ
  deadlineA : Option τ := none
  deadlineB : Option τ := none
  irqActive : Bool := false
  raised : Nat := 0
  deriving DecidableEq, Repr

namespace Offline

variable {τ : Type} [Instant τ]

def start : Offline τ := { now := Instant.zero }

def deadline (h : Offline τ) : Timer → Option τ
  | .a => h.deadlineA
  | .b => h.deadlineB

def setDeadline (h : Offline τ) (timer : Timer) (at? : Option τ) : Offline τ :=
  match timer with
  | .a => { h with deadlineA := at? }
  | .b => { h with deadlineB := at? }

def receive (h : Offline τ) : HostCall τ → Offline τ
  | .raise _ => { h with irqActive := true, raised := h.raised + 1 }
  | .lower _ => { h with irqActive := false }
  | .schedule timer span => h.setDeadline timer (some (Instant.add h.now span))
  | .cancel timer => h.setDeadline timer none

def advanceTo (h : Offline τ) (moment : τ) : Offline τ := { h with now := moment }

def dueAt (h : Offline τ) (timer : Timer) : Option τ :=
  (h.deadline timer).filter fun d => Instant.reached d h.now

/-- The timer to fire next and its deadline: the earlier one, timer A first if both are equal. -/
def earliest (h : Offline τ) : Option (Timer × τ) :=
  match h.dueAt .a, h.dueAt .b with
  | some a, some b => if Instant.notAfter a b then some (.a, a) else some (.b, b)
  | some a, none => some (.a, a)
  | none, some b => some (.b, b)
  | none, none => none

/-- Takes the timer to fire next. Time goes back to its deadline; the answer holds the time to
return to. -/
def nextDue (h : Offline τ) : Option (Timer × τ) × Offline τ :=
  match h.earliest with
  | none => (none, h)
  | some (timer, d) => (some (timer, h.now), { h.setDeadline timer none with now := d })

end Offline

end FeatureCard.Hosts
