import FeatureCard.Device
import FeatureCard.Hosts.Detached
import FeatureCard.Hosts.Offline

/-!
# Firing timers that are due

Hosts hear the card's requests in the order in which they were made. A host with a clock fires the
timers that are due, earliest first. A timer that fires is started again from the moment at which
it was due, so it may be due again at once.
-/

namespace FeatureCard.Hosts

open Fm (FmChip)

def Detached.hear {τ : Type} (h : Detached τ) (span : Period → τ) (effects : List Effect) :
    Detached τ :=
  (Effect.calls effects).foldl (fun h call => h.receive (call.map span)) h

namespace Offline

variable {τ χ : Type} [Instant τ] [FmChip χ]

def hear (h : Offline τ) (span : Period → τ) (effects : List Effect) : Offline τ :=
  (Effect.calls effects).foldl (fun h call => h.receive (call.map span)) h

/-- How often a timer can fire before now at most. -/
def firingsOf (h : Offline τ) (span : Period → τ) (d : Device χ) (timer : Timer) : Nat :=
  match h.deadline timer, d.timers.period timer with
  | none, _ => 0
  | some _, none => 1
  | some first, some period => 1 + Instant.spans first h.now (span period)

def firingLimit (h : Offline τ) (span : Period → τ) (d : Device χ) : Nat :=
  h.firingsOf span d .a + h.firingsOf span d .b

structure Fired (τ χ : Type) where
  firings : Array (Timer × τ) := #[]
  device : Device χ
  host : Offline τ
  effects : Array Effect := #[]

def Fired.next (f : Fired τ χ) (span : Period → τ) : Option (Fired τ χ) :=
  match f.host.nextDue with
  | (none, _) => none
  | (some (timer, resume), host) =>
    let (device, effects) := f.device.timerExpired timer
    some {
      firings := f.firings.push (timer, host.now)
      device
      host := (host.hear span effects).advanceTo resume
      effects := f.effects ++ effects }

def Fired.run (span : Period → τ) : Nat → Fired τ χ → Fired τ χ
  | 0, f => f
  | fuel + 1, f =>
    match f.next span with
    | none => f
    | some f => run span fuel f

def fireDue (h : Offline τ) (span : Period → τ) (d : Device χ) : Fired τ χ :=
  Fired.run span (h.firingLimit span d) { device := d, host := h }

end Offline

end FeatureCard.Hosts
