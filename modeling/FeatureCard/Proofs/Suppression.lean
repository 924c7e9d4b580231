import FeatureCard.Proofs.Budget

/-!
# When the processor does not run

A card without firmware is silent and its processor never runs. But neither does the processor of a
card with firmware whose rate is above the processor's: no T-state is left for a frame then.
-/

namespace FeatureCard

open Fm (FmChip)

theorem cyclesPerSample_pos (rate : UInt32) :
    0 < cyclesPerSample rate ↔ rate.toNat ≤ processorHertz := by
  have hrate : 0 < effectiveRate rate :=
    Nat.lt_of_lt_of_le (by decide) (Nat.le_max_right _ lowestRate)
  rw [cyclesPerSample, Nat.div_pos_iff, effectiveRate, Nat.max_le]
  exact ⟨fun h => h.2.1, fun h => ⟨hrate, h, by decide⟩⟩

namespace Card

variable {κ χ : Type} [Processor κ] [FmChip χ]

theorem steps_ne_nil {c : Card κ χ} {frames : Nat} (hpos : 0 < frames)
    (hframes : 2 * frames < word64)
    (hbudget : (c.clock.cyclesPerSample * frames : Int) < signedWord64) :
    c.steps frames ≠ [] ↔ c.enabled = true ∧ 0 < c.clock.cyclesPerSample := by
  cases hm : c.memory with
  | none => simp [steps, enabled, hm]
  | some memory =>
    have ho := c.opening_of_lt memory hframes hbudget
    have henabled : c.enabled = true := by rw [enabled, hm]; rfl
    rw [steps_of_opening hm ho, ← Int.natCast_mul]
    by_cases hcycles : 0 < c.clock.cyclesPerSample
    · have hgranted : (0 : Int) < (c.clock.cyclesPerSample * frames : Nat) :=
        Int.natCast_pos.2 (Nat.mul_pos hcycles hpos)
      refine iff_of_true (fun hnil => ?_) ⟨henabled, hcycles⟩
      have hhead := Run.steps_head hgranted (c.starting memory frames)
      rw [hnil] at hhead
      cases hhead
    · refine iff_of_false (fun hsome => hsome ?_) fun h => hcycles h.2
      rw [Nat.eq_zero_of_not_pos hcycles, Nat.zero_mul]
      exact Run.steps_of_not_pos (by decide) _

theorem instructions_of_render {c c' : Card κ χ} {frames : Nat} (hframes : 2 * frames < word64)
    {output : Array Fm.Frame} {effects : List Effect}
    (h : c.render frames = .ok (output, c', effects)) :
    c'.stats.instructions = (c.steps frames).length := by
  cases hm : c.memory with
  | none =>
    rw [render_of_none hm hframes] at h
    cases h
    simp only [steps, hm, List.length_nil]
  | some memory =>
    rcases render_eq_ok h with ⟨hnone, -⟩ | ⟨memory', budget, start, last, hm', ho, hs, hc⟩
    · rw [hm] at hnone
      cases hnone
    · rw [steps_of_opening hm' ho]
      obtain ⟨-, -, rfl⟩ := opening_eq_ok ho
      cases hc
      change last.stats.instructions = _
      rw [Run.block_stats rfl hs]

end Card

/-- The processor runs in a block just if the card has firmware and its rate is not above the
processor's. -/
theorem processor_runs_iff {κ χ : Type} [Processor κ] [FmChip χ] (config : Config)
    (firmware : Option ByteArray) (cpu : κ) (chip : χ) (life : List CardEvent) (c : Card κ χ)
    (hlive : (Card.assemble config firmware cpu chip).live life = .ok c) {frames : Nat}
    (hpos : 0 < frames) (hframes : 2 * frames < word64)
    (hbudget : (c.clock.cyclesPerSample * frames : Int) < signedWord64) :
    (c.steps frames ≠ [] ↔
      firmware.isSome = true ∧ config.sampleRate.toNat ≤ processorHertz) ∧
    (∀ output c' effects, c.render frames = .ok (output, c', effects) →
      (1 ≤ c'.stats.instructions ↔
        firmware.isSome = true ∧ config.sampleRate.toNat ≤ processorHertz)) ∧
    ((∀ r ∈ c.steps frames, r.cost.toNat + 736 < word32) →
      ∃ output c' effects, c.render frames = .ok (output, c', effects)) := by
  have halike := Card.Alike.live hlive
  have hruns : c.steps frames ≠ [] ↔
      firmware.isSome = true ∧ config.sampleRate.toNat ≤ processorHertz := by
    have henabled : c.enabled = firmware.isSome := by
      rw [halike.enabled]
      exact Option.isSome_map
    have hcycles : c.clock.cyclesPerSample = cyclesPerSample config.sampleRate :=
      halike.cyclesPerSample
    rw [Card.steps_ne_nil hpos hframes hbudget, henabled, hcycles, cyclesPerSample_pos]
  refine ⟨hruns, fun output c' effects hr => ?_, fun hcosts => ?_⟩
  · rw [Card.instructions_of_render hframes hr, ← hruns]
    exact List.length_pos_iff
  · cases hm : c.memory with
    | none => exact ⟨_, _, _, Card.render_of_none hm hframes⟩
    | some memory =>
      have hle := Card.cyclesPerSample_le_of_live hlive
      obtain ⟨last, -, hrender⟩ := Card.render_spend hm hle hframes hbudget hcosts
      exact ⟨_, _, _, hrender⟩

/-- At 5900000 frames a second one T-state is left for a frame, and a step is taken. -/
theorem processor_runs_at_its_rate :
    let c : Card ScriptedCpu Fm.LevelChip :=
      Card.assemble { sampleRate := 5900000 } (some .empty) {} {}
    (0 < 1 ∧ 2 * 1 < word64 ∧ (c.clock.cyclesPerSample * (1 : Nat) : Int) < signedWord64 ∧
      ∀ r ∈ c.steps 1, r.cost.toNat + 736 < word32) ∧
    c.steps 1 ≠ [] ∧
    ∃ output c' effects, c.render 1 = .ok (output, c', effects) ∧ 1 ≤ c'.stats.instructions := by
  intro c
  have hcycles : c.clock.cyclesPerSample = 1 := by decide +kernel
  have hbudget : (c.clock.cyclesPerSample * (1 : Nat) : Int) < signedWord64 := by
    rw [hcycles]
    decide
  have hlife : ∀ r ∈ c.life [.render 1], r.cost.toNat + 736 < word32 :=
    Card.life_cost_single (P := fun cost => cost.toNat + 736 < word32) rfl rfl (by decide)
      (by decide) (by decide) [.render 1]
  have hcosts : ∀ r ∈ c.steps 1, r.cost.toNat + 736 < word32 := fun r hr =>
    hlife r (List.mem_append_left _ hr)
  obtain ⟨hruns, hcount, hrender⟩ :=
    processor_runs_iff { sampleRate := 5900000 } (some .empty) {} {} [] c rfl
      (by decide : 0 < 1) (by decide) hbudget
  have hrate : (some ByteArray.empty).isSome = true ∧
      (5900000 : UInt32).toNat ≤ processorHertz := ⟨rfl, by decide⟩
  obtain ⟨output, c', effects, hr⟩ := hrender hcosts
  exact ⟨⟨by decide, by decide, hbudget, hcosts⟩, hruns.2 hrate, output, c', effects, hr,
    (hcount output c' effects hr).2 hrate⟩

/-- A frame more a second, and a card that is accepted and has firmware renders without a step. -/
theorem processor_starves_above_its_rate :
    let config : Config := { sampleRate := 5900001 }
    let c : Card ScriptedCpu Fm.LevelChip := Card.assemble config (some .empty) {} {}
    config.validate = .ok () ∧ c.enabled = true ∧
      ∃ output c' effects, c.render 1 = .ok (output, c', effects) ∧ c'.stats.instructions = 0 := by
  intro config c
  have hcycles : c.clock.cyclesPerSample = 0 := by decide +kernel
  have hnone : ¬ (0 : Int) < c.clock.cyclesPerSample * (1 : Nat) := by
    rw [hcycles]
    decide
  have ho := c.opening_of_lt (Memory.ofFirmware .empty) (by decide : 2 * 1 < word64)
    (by rw [hcycles]; decide)
  have hs := Run.spend_of_not_pos hnone (c.starting (Memory.ofFirmware .empty) 1)
  exact ⟨rfl, rfl, _, _, _, Card.render_of_spend rfl ho hs, rfl⟩

end FeatureCard
