import FeatureCard.Proofs.History
import FeatureCard.Proofs.SampleClock

/-!
# The life of a card

A card that has lived through events without a fault. Its configuration, the T-states in a frame and
whether it has firmware never change.
-/

namespace FeatureCard

open Fm (FmChip)

namespace Card

variable {κ χ : Type}

structure Alike (c c' : Card κ χ) : Prop where
  config : c'.config = c.config
  cyclesPerSample : c'.clock.cyclesPerSample = c.clock.cyclesPerSample
  enabled : c'.enabled = c.enabled

theorem Alike.refl (c : Card κ χ) : c.Alike c := ⟨rfl, rfl, rfl⟩

theorem Alike.trans {c c' c'' : Card κ χ} (h : c.Alike c') (h' : c'.Alike c'') : c.Alike c'' where
  config := h'.config.trans h.config
  cyclesPerSample := h'.cyclesPerSample.trans h.cyclesPerSample
  enabled := h'.enabled.trans h.enabled

variable [Processor κ] [FmChip χ]

theorem Alike.render {c c' : Card κ χ} {frames : Nat} {output : Array Fm.Frame}
    {effects : List Effect} (h : c.render frames = .ok (output, c', effects)) : c.Alike c' := by
  rcases render_eq_ok h with ⟨-, ⟨stats, rfl⟩, -⟩ | ⟨memory, budget, start, r, hm, ho, hs, hc⟩
  · exact ⟨rfl, rfl, rfl⟩
  · have hstart : start.clock.cyclesPerSample = c.clock.cyclesPerSample := by
      obtain ⟨-, -, rfl⟩ := opening_eq_ok ho
      rfl
    have hkeep (r r' : Run κ χ) (hr : r.clock.cyclesPerSample = c.clock.cyclesPerSample)
        (hn : r.next = .ok r') : r'.clock.cyclesPerSample = c.clock.cyclesPerSample := by
      rw [Run.next_clock hn, (r.clock.elapsed_fields r.cost).2.1, hr]
    have hclock := Run.spend_keep (P := fun r => r.clock.cyclesPerSample = _) hkeep budget start
      hstart r hs
    obtain ⟨-, rfl, -⟩ := by simpa [closing] using hc
    constructor
    case config => rfl
    case cyclesPerSample => exact hclock
    case enabled => simp [Card.enabled, hm]

theorem Alike.perform {c c' : Card κ χ} {e : CardEvent} {answer : CardAnswer}
    {effects : List Effect} (h : c.perform e = .ok (answer, c', effects)) : c.Alike c' := by
  rcases perform_cases h with ⟨e, -, rfl, -⟩ | ⟨rfl, -⟩ | ⟨frames, output, -, hr⟩
  · exact ⟨rfl, rfl, rfl⟩
  · exact .refl _
  · exact .render hr

/-- The card after a life of events, unless a fault ended it. -/
def live (c : Card κ χ) : List CardEvent → Except Breakdown (Card κ χ)
  | [] => .ok c
  | e :: events => do
    let (_, c', _) ← c.perform e
    c'.live events

theorem live_cons {c c' : Card κ χ} {e : CardEvent} {events : List CardEvent} :
    c.live (e :: events) = .ok c' ↔
      ∃ answer c₁ effects, c.perform e = .ok (answer, c₁, effects) ∧ c₁.live events = .ok c' := by
  rw [live]
  cases c.perform e with
  | error b =>
    constructor
    · rintro ⟨⟩
    · rintro ⟨answer, c₁, effects, ⟨⟩, hl⟩
  | ok result =>
    constructor
    · exact fun hl => ⟨_, _, _, rfl, hl⟩
    · rintro ⟨answer, c₁, effects, ⟨⟩, hl⟩
      exact hl

def stepsOf (c : Card κ χ) : CardEvent → List (Run κ χ)
  | .render frames => c.steps frames
  | .read _ | .write _ _ | .timerExpired _ | .midi _ => []

/-- The states in which the processor's steps begin, over a whole life. -/
def life (c : Card κ χ) : List CardEvent → List (Run κ χ)
  | [] => []
  | e :: events =>
    c.stepsOf e ++
      match c.perform e with
      | .error _ => []
      | .ok (_, c', _) => c'.life events

theorem life_singleton (c : Card κ χ) (e : CardEvent) : c.life [e] = c.stepsOf e := by
  unfold life
  cases c.perform e <;> exact List.append_nil _

theorem Alike.live {c c' : Card κ χ} {events : List CardEvent} (h : c.live events = .ok c') :
    c.Alike c' := by
  induction events generalizing c with
  | nil => exact Except.ok.inj h ▸ .refl c
  | cons e events ih =>
    obtain ⟨answer, c₁, effects, hp, hlater⟩ := live_cons.1 h
    exact (Alike.perform hp).trans (ih hlater)

end Card

end FeatureCard
