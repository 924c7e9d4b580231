import FeatureCard.Hosts.Firing
import FeatureCard.Proofs.Device

/-!
# Hosts that heard a card

A host hears the requests of the card one after the other; in between it does what hosts do on their
own. Whatever that is, the level of its interrupt line is the one that it was told last.
-/

namespace FeatureCard.Hosts

/-- Some host that began as `start`, heard these calls in this order through `receive`, and took
steps of its `own` in between. -/
inductive Heard {η : Type} (receive : η → HostCall Period → η) (own : η → η → Prop) (start : η) :
    List (HostCall Period) → η → Prop
  | start : Heard receive own start [] start
  | call {calls h} (call : HostCall Period) : Heard receive own start calls h →
      Heard receive own start (calls ++ [call]) (receive h call)
  | own {calls h h'} : Heard receive own start calls h → own h h' →
      Heard receive own start calls h'

theorem Heard.calls {η : Type} {receive : η → HostCall Period → η} {own : η → η → Prop} {start : η}
    {calls : List (HostCall Period)} {h : η} (hh : Heard receive own start calls h)
    (more : List (HostCall Period)) :
    Heard receive own start (calls ++ more) (more.foldl receive h) := by
  induction more generalizing calls h with
  | nil => rwa [List.append_nil]
  | cons call more ih =>
    rw [List.append_cons]
    exact ih (hh.call call)

def toldLevel (calls : List (HostCall Period)) : Bool :=
  match (calls.filter HostCall.isLine).getLast? with
  | some (.raise _) => true
  | _ => false

theorem toldLevel_snoc (calls : List (HostCall Period)) (call : HostCall Period) :
    toldLevel (calls ++ [call]) =
      match call with
      | .raise _ => true
      | .lower _ => false
      | .schedule _ _ | .cancel _ => toldLevel calls := by
  cases call <;> simp [toldLevel, HostCall.isLine]

/-- A host whose line follows the calls, and not the host's own steps, knows the level told last. -/
theorem Heard.level {η : Type} {receive : η → HostCall Period → η} {own : η → η → Prop} {start : η}
    (active : η → Bool) (hstart : active start = false)
    (hcall : ∀ h call, active (receive h call) =
      match call with
      | .raise _ => true
      | .lower _ => false
      | .schedule _ _ | .cancel _ => active h)
    (hown : ∀ h h', own h h' → active h' = active h)
    {calls : List (HostCall Period)} {h : η} (hh : Heard receive own start calls h) :
    active h = toldLevel calls := by
  induction hh with
  | start => exact hstart
  | call call _ ih => rw [hcall, toldLevel_snoc, ih]
  | own _ ho ih => rw [hown _ _ ho, ih]

/-! ## The host without a clock -/

namespace Detached

variable {τ : Type}

def Own (h h' : Detached τ) : Prop := ∃ timer, h' = (h.take timer).2

def Attached (span : Period → τ) (calls : List (HostCall Period)) (h : Detached τ) : Prop :=
  Heard (fun h call => h.receive (call.map span)) Own {} calls h

theorem Attached.hear {span : Period → τ} {calls : List (HostCall Period)} {h : Detached τ}
    (hh : Attached span calls h) (effects : List Effect) :
    Attached span (calls ++ Effect.calls effects) (h.hear span effects) :=
  Heard.calls hh _

theorem setPending_irqActive (h : Detached τ) (timer : Timer) (span : Option τ) :
    (h.setPending timer span).irqActive = h.irqActive := by
  cases timer <;> rfl

theorem Attached.irqActive {span : Period → τ} {calls : List (HostCall Period)} {h : Detached τ}
    (hh : Attached span calls h) : h.irqActive = toldLevel calls := by
  apply Heard.level Detached.irqActive rfl _ _ hh
  · intro h call
    cases call with
    | raise irq | lower irq => rfl
    | schedule timer period | cancel timer => exact h.setPending_irqActive timer _
  · rintro h h' ⟨timer, rfl⟩
    exact h.setPending_irqActive timer none

end Detached

/-! ## The host with a clock -/

namespace Offline

variable {τ : Type} [Instant τ]

def Own (h h' : Offline τ) : Prop := (∃ moment, h' = h.advanceTo moment) ∨ h' = h.nextDue.2

def Attached (span : Period → τ) (calls : List (HostCall Period)) (h : Offline τ) : Prop :=
  Heard (fun h call => h.receive (call.map span)) Own .start calls h

theorem Attached.hear {span : Period → τ} {calls : List (HostCall Period)} {h : Offline τ}
    (hh : Attached span calls h) (effects : List Effect) :
    Attached span (calls ++ Effect.calls effects) (h.hear span effects) :=
  Heard.calls hh _

omit [Instant τ] in
theorem setDeadline_irqActive (h : Offline τ) (timer : Timer) (at? : Option τ) :
    (h.setDeadline timer at?).irqActive = h.irqActive := by
  cases timer <;> rfl

theorem nextDue_irqActive (h : Offline τ) : h.nextDue.2.irqActive = h.irqActive := by
  unfold nextDue
  split
  · rfl
  · exact h.setDeadline_irqActive _ none

theorem Attached.irqActive {span : Period → τ} {calls : List (HostCall Period)} {h : Offline τ}
    (hh : Attached span calls h) : h.irqActive = toldLevel calls := by
  apply Heard.level Offline.irqActive rfl _ _ hh
  · intro h call
    cases call with
    | raise irq | lower irq => rfl
    | schedule timer period | cancel timer => exact h.setDeadline_irqActive timer _
  · rintro h h' (⟨moment, rfl⟩ | rfl)
    · rfl
    · exact h.nextDue_irqActive

end Offline

end FeatureCard.Hosts
