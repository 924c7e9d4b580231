import FeatureCard.Proofs.SampleAccuracy

/-!
# No step breaks down

The counters of a card are wide enough for a step of nearly any cost, so every step of a life is
settled and every block of a size that memory can hold is rendered.
-/

namespace FeatureCard

open Fm (FmChip)

namespace Run

variable {κ χ : Type} [Processor κ] [FmChip χ] {steps : List (Run κ χ)}

theorem spentBefore_concat {k : Nat} {r : Run κ χ} (hr : steps[k]? = some r) :
    spentBefore steps (k + 1) = spentBefore steps k + r.cost.toNat := by
  simp [spentBefore, List.take_add_one, hr]

theorem spentBefore_mono (steps : List (Run κ χ)) {m n : Nat} (h : m ≤ n) :
    spentBefore steps m ≤ spentBefore steps n := by
  induction h with
  | refl => exact Nat.le_refl _
  | step hle ih =>
    refine Nat.le_trans ih ?_
    simp only [spentBefore, List.take_add_one, List.map_append, List.sum_append]
    exact Nat.le_add_right _ _

end Run

theorem Config.room_of_validate {c : Config} (h : c.validate = .ok ()) :
    c.basePort.toNat + portCount ≤ 0x10000 := by
  unfold validate at h
  split at h
  · cases h
  · rename_i hroom
    exact Nat.le_of_not_lt hroom

namespace Card

variable {κ χ : Type} [Processor κ] [FmChip χ]

omit [Processor κ] [FmChip χ] in
theorem granted_of_opening {c : Card κ χ} {memory : Memory} {frames : Nat} {budget : Int}
    {start : Run κ χ} (h : c.opening memory frames = .ok (budget, start)) :
    2 * frames < word64 ∧ (c.clock.cyclesPerSample * frames : Int) < signedWord64 := by
  obtain ⟨hframes, hbudget, -⟩ := opening_eq_ok h
  have hword : Int.bmod frames word64 = frames := by
    refine Int.bmod_eq_of_le_mul_two ?_ ?_ <;> omega
  refine ⟨hframes, ?_⟩
  unfold SampleClock.budget mulSigned64 at hbudget
  rw [hword] at hbudget
  split at hbudget
  · rename_i hfits
    exact hfits.2
  · cases hbudget

theorem cyclesPerSample_le_of_live {config : Config}
    {firmware : Option ByteArray} {cpu : κ} {chip : χ} {events : List CardEvent} {c : Card κ χ}
    (h : (assemble config firmware cpu chip).live events = .ok c) :
    c.clock.cyclesPerSample ≤ 737 := by
  rw [(Alike.live h).cyclesPerSample]
  exact FeatureCard.cyclesPerSample_le config.sampleRate

theorem render_of_none {c : Card κ χ} (hm : c.memory = none) {frames : Nat}
    (hframes : 2 * frames < word64) :
    c.render frames =
      .ok (Array.replicate frames .silence, { c with stats := { frames } }, []) := by
  have hsize : frames * 2 < word64 := by omega
  unfold render
  rw [hm, mulBelow_of_lt hsize]
  rfl

theorem render_spend {c : Card κ χ} {memory : Memory} (hm : c.memory = some memory)
    (hle : c.clock.cyclesPerSample ≤ 737) {frames : Nat} (hframes : 2 * frames < word64)
    (hbudget : (c.clock.cyclesPerSample * frames : Int) < signedWord64)
    (hcosts : ∀ r ∈ c.steps frames, r.cost.toNat + 736 < word32) :
    ∃ last, (c.starting memory frames).spend (c.clock.cyclesPerSample * frames) = .ok last ∧
      c.render frames = .ok (c.closing last) := by
  have ho := c.opening_of_lt memory hframes hbudget
  rw [steps_of_opening hm ho] at hcosts
  obtain ⟨⟨last, spent, hspend, -⟩, -⟩ :=
    Run.OnTime.spend hle hframes _ _ 0 (by simp) (c.starting_onTime memory frames) hcosts
  exact ⟨last, hspend, render_of_spend hm ho hspend⟩

theorem render_of_perform {c c' : Card κ χ} {frames : Nat} {answer : CardAnswer}
    {effects : List Effect} (h : c.perform (.render frames) = .ok (answer, c', effects)) :
    ∃ output, c.render frames = .ok (output, c', effects) := by
  cases hr : c.render frames with
  | error b => simp [perform, hr, bind, Except.bind] at h
  | ok rendered =>
    obtain ⟨output, c₁, effects₁⟩ := rendered
    obtain ⟨-, rfl, rfl⟩ := by
      simpa [perform, hr, bind, Except.bind, pure, Except.pure] using h
    exact ⟨output, rfl⟩

theorem steps_settle {c : Card κ χ} (hle : c.clock.cyclesPerSample ≤ 737) {frames : Nat}
    (hcosts : ∀ r ∈ c.steps frames, r.cost.toNat + 736 < word32) :
    ∀ r ∈ c.steps frames, ∃ r', r.next = .ok r' := by
  intro r hr
  obtain ⟨memory, budget, start, ho, hsteps⟩ := steps_of_mem hr
  obtain ⟨hframes, hbudget⟩ := granted_of_opening ho
  rw [c.opening_of_lt memory hframes hbudget] at ho
  cases ho
  rw [hsteps] at hr hcosts
  obtain ⟨⟨last, spent, hspend, -⟩, -⟩ :=
    Run.OnTime.spend hle hframes _ _ 0 (by simp) (c.starting_onTime memory frames) hcosts
  exact Run.next_of_spend _ _ hspend r hr

theorem life_settles {c : Card κ χ} (hle : c.clock.cyclesPerSample ≤ 737) {events : List CardEvent}
    (hcosts : ∀ r ∈ c.life events, r.cost.toNat + 736 < word32) :
    ∀ r ∈ c.life events, ∃ r', r.next = .ok r' := by
  induction events generalizing c with
  | nil => intro r hr; exact absurd hr List.not_mem_nil
  | cons e events ih =>
    intro r hr
    rcases List.mem_append.1 hr with hr | hr
    · cases e with
      | render frames =>
        exact steps_settle hle (fun s hs => hcosts s (List.mem_append_left _ hs)) r hr
      | read port | write port value | timerExpired timer | midi chunk =>
        exact absurd hr List.not_mem_nil
    · unfold life at hcosts
      cases hp : c.perform e with
      | error b => rw [hp] at hr; exact absurd hr List.not_mem_nil
      | ok result =>
        rw [hp] at hr hcosts
        have hsame := (Alike.perform hp).cyclesPerSample
        exact ih (hsame ▸ hle) (fun s hs => hcosts s (List.mem_append_right _ hs)) r hr

/-! ## Events that are performed -/

section Ports

variable {c : Card κ χ} (hroom : c.config.basePort.toNat + Config.portCount ≤ 0x10000)
include hroom

omit [Processor κ] [FmChip χ] in
theorem offsetOf_of_room {port : UInt16} (hport : c.config.decodes port = true) :
    ∃ offset, c.offsetOf port = .ok offset := by
  have hbelow : c.config.basePort.toNat ≤ port.toNat := by
    have hwindow := of_decide_eq_true hport
    have hsub := UInt16.toNat_sub port c.config.basePort
    have hlimit := port.toNat_lt
    simp only [Config.portCount] at hroom hwindow
    omega
  unfold offsetOf
  rw [subtract_of_le hbelow]
  exact ⟨_, rfl⟩

omit [Processor κ] [FmChip χ] in
theorem reads (port : UInt16) : ∃ result, c.read port = .ok result := by
  unfold read
  cases hport : c.config.decodes port with
  | false => exact ⟨_, rfl⟩
  | true =>
    obtain ⟨offset, hoffset⟩ := offsetOf_of_room hroom hport
    rw [hoffset]
    exact ⟨_, rfl⟩

omit [Processor κ] [FmChip χ] in
theorem writes (port : UInt16) (value : UInt8) : ∃ result, c.write port value = .ok result := by
  unfold write
  cases hport : c.config.decodes port with
  | false => exact ⟨_, rfl⟩
  | true =>
    obtain ⟨offset, hoffset⟩ := offsetOf_of_room hroom hport
    rw [hoffset]
    exact ⟨_, rfl⟩

theorem performs {e : CardEvent} (hquiet : ∀ frames, e ≠ .render frames) :
    ∃ answer c' effects, c.perform e = .ok (answer, c', effects) := by
  cases e with
  | read port =>
    obtain ⟨result, hread⟩ := reads hroom port
    rw [perform, hread]
    exact ⟨_, _, _, rfl⟩
  | write port value =>
    obtain ⟨result, hwrite⟩ := writes hroom port value
    rw [perform, hwrite]
    exact ⟨_, _, _, rfl⟩
  | timerExpired timer => exact ⟨_, _, _, rfl⟩
  | midi chunk => exact ⟨_, _, _, rfl⟩
  | render frames => exact absurd rfl (hquiet frames)

end Ports

theorem renders {c : Card κ χ} (hle : c.clock.cyclesPerSample ≤ 737) {frames : Nat}
    (hframes : 2 * frames < word64)
    (hbudget : (c.clock.cyclesPerSample * frames : Int) < signedWord64)
    (hcosts : ∀ r ∈ c.steps frames, r.cost.toNat + 736 < word32) :
    ∃ answer c' effects, c.perform (.render frames) = .ok (answer, c', effects) := by
  rw [perform]
  cases hm : c.memory with
  | none =>
    rw [render_of_none hm hframes]
    exact ⟨_, _, _, rfl⟩
  | some memory =>
    obtain ⟨last, -, hrender⟩ := render_spend hm hle hframes hbudget hcosts
    rw [hrender]
    exact ⟨_, _, _, rfl⟩

theorem lives {c : Card κ χ} (hroom : c.config.basePort.toNat + Config.portCount ≤ 0x10000)
    (hle : c.clock.cyclesPerSample ≤ 737) (events : List CardEvent)
    (hfits : ∀ frames, .render frames ∈ events →
      2 * frames < word64 ∧ (c.clock.cyclesPerSample * frames : Int) < signedWord64)
    (hcosts : ∀ r ∈ c.life events, r.cost.toNat + 736 < word32) :
    ∃ c', c.live events = .ok c' := by
  induction events generalizing c with
  | nil => exact ⟨c, rfl⟩
  | cons e events ih =>
    have hfirst := fun r hr => hcosts r (List.mem_append_left _ hr)
    have hlater := fun r hr => hcosts r (List.mem_append_right _ hr)
    have hperform : ∃ answer c' effects, c.perform e = .ok (answer, c', effects) := by
      cases e with
      | render frames =>
        obtain ⟨hframes, hbudget⟩ := hfits frames List.mem_cons_self
        exact renders hle hframes hbudget hfirst
      | read port | write port value | timerExpired timer | midi chunk =>
        exact performs hroom fun frames he => by cases he
    obtain ⟨answer, c', effects, hp⟩ := hperform
    have halike := Alike.perform hp
    rw [hp] at hlater
    obtain ⟨last, hlive⟩ := ih (halike.config ▸ hroom) (halike.cyclesPerSample ▸ hle)
      (fun frames hr => halike.cyclesPerSample ▸ hfits frames (List.mem_cons_of_mem e hr)) hlater
    exact ⟨last, live_cons.2 ⟨answer, c', effects, hp, hlive⟩⟩

end Card

end FeatureCard
