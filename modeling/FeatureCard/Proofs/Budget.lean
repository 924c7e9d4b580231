import FeatureCard.Proofs.Settling

/-!
# The budget of a block

A block takes steps until its T-states are spent: no step too few and none too many. The statistics
count just these steps. What the last step costs too much is lost to the block and not taken from
the next one.
-/

namespace FeatureCard

open Fm (FmChip)

/-! ## What a step costs -/

namespace Run

variable {κ χ : Type} [Processor κ] [FmChip χ]

/-- What the processor answers to an interrupt offered in this state. -/
def answer (r : Run κ χ) : UInt32 := ((Processor.interrupt r.cpu).run r.bus).1.1

/-- What an instruction costs in this state, after the interrupt if one was offered. -/
def result (r : Run κ χ) : UInt32 :=
  if r.attention then
    let ((_, cpu), bus) := (Processor.interrupt r.cpu).run r.bus
    ((Processor.step cpu).run bus).1.1
  else ((Processor.step r.cpu).run r.bus).1.1

theorem offer_cost (r : Run κ χ) : r.offer.1 = if r.attention then r.answer else 0 := by
  unfold offer answer
  split <;> rfl

theorem execute_cost (r : Run κ χ) : r.offer.2.execute.1 = r.result := by
  have hexecute (s : Run κ χ) : s.execute.1 = ((Processor.step s.cpu).run s.bus).1.1 := rfl
  rw [hexecute]
  unfold offer result
  split <;> rfl

theorem cost_eq (r : Run κ χ) :
    r.cost =
      if r.attention = true ∧ r.answer ≠ 0 then r.answer
      else if r.result = 0 then 4 else r.result := by
  have hoffer := r.offer_cost
  by_cases hc : r.offer.1 = 0
  · have hcost : r.cost = effectiveCost r.offer.2.execute.1 := by
      simp only [cost, act, hc, ne_eq, not_true_eq_false, if_false]
    have hdeclined : ¬ (r.attention = true ∧ r.answer ≠ 0) := by
      rintro ⟨ha, hanswer⟩
      rw [hoffer, if_pos ha] at hc
      exact hanswer hc
    rw [hcost, if_neg hdeclined, r.execute_cost]
    rfl
  · have hcost : r.cost = r.offer.1 := by
      simp only [cost, act, hc, ne_eq, not_false_eq_true, if_true]
    have ha : r.attention = true := by
      refine Decidable.byContradiction fun hnot => hc ?_
      rw [hoffer, if_neg hnot]
    rw [if_pos ha] at hoffer
    rw [hcost, hoffer, if_pos ⟨ha, hoffer ▸ hc⟩]

end Run

/-! ## What the statistics count -/

/-- The statistics after some more steps. -/
def RenderStats.after {κ χ : Type} [Processor κ] [FmChip χ] (s : RenderStats)
    (steps : List (Run κ χ)) : RenderStats where
  frames := s.frames
  instructions := s.instructions + steps.length
  attentionSteps := s.attentionSteps + steps.countP (·.attention)
  interruptsTaken := s.interruptsTaken + steps.countP fun r => r.attention && r.answer != 0
  cycles := s.cycles + (steps.map (·.cost.toNat)).sum

theorem RenderStats.after_cons {κ χ : Type} [Processor κ] [FmChip χ] (s : RenderStats)
    (r : Run κ χ) (steps : List (Run κ χ)) : s.after (r :: steps) = (s.after [r]).after steps := by
  simp [RenderStats.after, List.countP_cons, Nat.add_assoc, Nat.add_comm, Nat.add_left_comm]

namespace Run

variable {κ χ : Type} [Processor κ] [FmChip χ]

theorem offer_stats (r : Run κ χ) :
    r.offer.2.stats =
      { r.stats with
        attentionSteps := r.stats.attentionSteps + if r.attention then 1 else 0
        interruptsTaken := r.stats.interruptsTaken +
          if r.attention && r.answer != 0 then 1 else 0 } := by
  unfold offer answer
  cases ha : r.attention with
  | true => cases hanswer : ((Processor.interrupt r.cpu).run r.bus).1.1 != 0 <;> simp_all
  | false => rfl

theorem acted_stats (r : Run κ χ) : r.acted.stats = r.offer.2.stats := by
  unfold acted act
  by_cases hc : r.offer.1 = 0
  · simp only [hc, ne_eq, not_true_eq_false, if_false]
    rfl
  · simp only [hc, ne_eq, not_false_eq_true, if_true]

theorem next_stats {r r' : Run κ χ} (h : r.next = .ok r') : r'.stats = r.stats.after [r] := by
  obtain ⟨reached, cursor, fm, -, -, rfl⟩ := settle_eq_ok h
  simp only [settled, r.acted_stats, r.offer_stats, RenderStats.after]
  simp [List.countP_cons]

theorem spend_stats {budget : Int} {r last : Run κ χ} (h : r.spend budget = .ok last) :
    last.stats = r.stats.after (r.steps budget) := by
  induction budget, r using block_induct with
  | spent budget r hpos =>
    rw [spend_of_not_pos hpos] at h
    rw [steps_of_not_pos hpos, ← Except.ok.inj h]
    rfl
  | broken budget r f hpos hn =>
    rw [spend_of_error hpos hn] at h
    cases h
  | settled budget r r' hpos hn ih =>
    rw [spend_of_next hpos hn] at h
    rw [ih h, next_stats hn, steps_of_next hpos hn, ← RenderStats.after_cons]

/-! ## How many steps are taken -/

/-- The state after `k` steps, whatever they cost. -/
def afterSteps : Nat → Run κ χ → Checked (Run κ χ)
  | 0, r => .ok r
  | k + 1, r => r.next >>= afterSteps k

/-- The T-states of the first `k` steps. -/
def spentIn : Nat → Run κ χ → Nat
  | 0, _ => 0
  | k + 1, r => r.cost.toNat +
    match r.next with
    | .ok r' => spentIn k r'
    | .error _ => 0

theorem afterSteps_of_next {r r' : Run κ χ} (h : r.next = .ok r') (k : Nat) :
    afterSteps (k + 1) r = afterSteps k r' := by
  rw [afterSteps, h]
  rfl

theorem spentIn_of_next {r r' : Run κ χ} (h : r.next = .ok r') (k : Nat) :
    spentIn (k + 1) r = r.cost.toNat + spentIn k r' := by
  rw [spentIn, h]

theorem spentIn_covers {budget : Int} {r last : Run κ χ} (h : r.spend budget = .ok last) (k : Nat) :
    budget ≤ spentIn k r ↔ (r.steps budget).length ≤ k := by
  induction budget, r using block_induct generalizing k with
  | spent budget r hpos =>
    rw [steps_of_not_pos hpos, List.length_nil]
    omega
  | broken budget r f hpos hn =>
    rw [spend_of_error hpos hn] at h
    cases h
  | settled budget r r' hpos hn ih =>
    rw [spend_of_next hpos hn] at h
    rw [steps_of_next hpos hn, List.length_cons]
    cases k with
    | zero => simp only [spentIn]; omega
    | succ k =>
      have hk := ih h k
      rw [spentIn_of_next hn]
      omega

theorem spentIn_length {budget : Int} {r last : Run κ χ} (h : r.spend budget = .ok last) :
    spentIn (r.steps budget).length r = ((r.steps budget).map (·.cost.toNat)).sum := by
  induction budget, r using block_induct with
  | spent budget r hpos => rw [steps_of_not_pos hpos]; rfl
  | broken budget r f hpos hn =>
    rw [spend_of_error hpos hn] at h
    cases h
  | settled budget r r' hpos hn ih =>
    rw [spend_of_next hpos hn] at h
    rw [steps_of_next hpos hn, List.length_cons, spentIn_of_next hn, ih h, List.map_cons,
      List.sum_cons]

theorem exists_last {budget : Int} {r last : Run κ χ} (h : r.spend budget = .ok last)
    (hpos : 0 < budget) :
    ∃ k s, (r.steps budget).length = k + 1 ∧ afterSteps k r = .ok s ∧ s ∈ r.steps budget ∧
      spentIn (k + 1) r = spentIn k r + s.cost.toNat := by
  induction budget, r using block_induct with
  | spent budget r hnot => exact absurd hpos hnot
  | broken budget r f hpos hn =>
    rw [spend_of_error hpos hn] at h
    cases h
  | settled budget r r' hpos hn ih =>
    rw [spend_of_next hpos hn] at h
    rw [steps_of_next hpos hn]
    by_cases hmore : 0 < budget - r.cost.toNat
    · obtain ⟨k, s, hlength, hs, hmem, hspent⟩ := ih h hmore
      refine ⟨k + 1, s, by rw [List.length_cons, hlength], ?_, List.mem_cons_of_mem _ hmem, ?_⟩
      · rw [afterSteps_of_next hn, hs]
      · rw [spentIn_of_next hn, hspent, spentIn_of_next hn, Nat.add_assoc]
    · rw [spend_of_not_pos hmore] at h
      rw [steps_of_not_pos hmore]
      obtain rfl := Except.ok.inj h
      refine ⟨0, r, rfl, rfl, List.mem_cons_self, ?_⟩
      rw [spentIn_of_next hn, Nat.add_comm]
      rfl

/-- The statistics of a block of `frames` frames that began as `start` with a budget. -/
structure Spends (start : Run κ χ) (budget frames : Nat) (stats : RenderStats) : Prop where
  frames : stats.frames = frames
  /-- The steps taken are the fewest that cover the budget. -/
  least : ∀ k, budget ≤ start.spentIn k ↔ stats.instructions ≤ k
  cycles : stats.cycles = start.spentIn stats.instructions
  overshoot : 0 < budget → ∃ k last, stats.instructions = k + 1 ∧
    start.afterSteps k = .ok last ∧ budget ≤ stats.cycles ∧
    stats.cycles ≤ budget + last.cost.toNat - 1
  taken : stats.interruptsTaken ≤ stats.attentionSteps
  offered : stats.attentionSteps ≤ stats.instructions

theorem block_stats {budget : Int} {frames : Nat} {start last : Run κ χ}
    (hstats : start.stats = { frames }) (h : start.spend budget = .ok last) :
    last.stats =
      { frames
        instructions := (start.steps budget).length
        attentionSteps := (start.steps budget).countP (·.attention)
        interruptsTaken := (start.steps budget).countP fun r => r.attention && r.answer != 0
        cycles := ((start.steps budget).map (·.cost.toNat)).sum } := by
  rw [spend_stats h, hstats]
  simp only [RenderStats.after, Nat.zero_add]

theorem spends {budget frames : Nat} {start last : Run κ χ} (hstats : start.stats = { frames })
    (h : start.spend budget = .ok last) : start.Spends budget frames last.stats := by
  have hcovers := spentIn_covers h
  have hlength := spentIn_length h
  rw [block_stats hstats h]
  constructor
  case frames => rfl
  case least => exact fun k => by rw [← hcovers k, Int.ofNat_le]
  case cycles => exact hlength.symm
  case overshoot =>
    intro hpos
    obtain ⟨k, s, hk, hs, -, hspent⟩ := exists_last h (by omega)
    have hover := (hcovers (k + 1)).2 (Nat.le_of_eq hk)
    have hbefore := mt (hcovers k).1 (by omega)
    refine ⟨k, s, hk, hs, ?_⟩
    dsimp only
    rw [← hlength, hk]
    omega
  case taken => exact List.countP_mono_left fun r _ hr => (Bool.and_eq_true_iff.1 hr).1
  case offered => exact List.countP_le_length

theorem spend_bounds {budget most frames : Nat} {start last : Run κ χ}
    (hstats : start.stats = { frames }) (h : start.spend budget = .ok last)
    (hmost : ∀ r ∈ start.steps budget, r.cost.toNat ≤ most) :
    budget ≤ last.stats.cycles ∧ last.stats.cycles ≤ budget + (most - 1) := by
  have hcovers := spentIn_covers h
  have hlength := spentIn_length h
  rw [block_stats hstats h]
  dsimp only
  rw [← hlength]
  rcases Nat.eq_zero_or_pos budget with rfl | hpos
  · have hnone : (start.steps 0).length = 0 :=
      Nat.le_zero.1 ((hcovers 0).1 (Int.le_refl _))
    rw [Int.natCast_zero, hnone]
    exact ⟨Nat.le_refl _, Nat.zero_le _⟩
  · obtain ⟨k, s, hk, -, hmem, hspent⟩ := exists_last h (by omega)
    have hover := (hcovers (k + 1)).2 (Nat.le_of_eq hk)
    have hbefore := mt (hcovers k).1 (by omega)
    have hcost := hmost s hmem
    rw [hk]
    omega

end Run

/-! ## Blocks of a life -/

namespace Card

variable {κ χ : Type} [Processor κ] [FmChip χ]

/-- What a render of `frames` frames does with its budget. -/
structure Budgeted (c : Card κ χ) (frames : Nat) : Prop where
  renders : 2 * frames < word64 → ∃ memory output c' effects, c.memory = some memory ∧
    c.render frames = .ok (output, c', effects) ∧
    (c.starting memory frames).Spends (c.clock.cyclesPerSample * frames) frames c'.stats
  /-- No memory holds that many samples. There is no budget then and no step. -/
  overlong : word64 ≤ 2 * frames →
    c.clock.cyclesPerSample = 0 ∧ c.steps frames = [] ∧
      c.render frames = .error (.atOnce .product)

theorem budgeted {c : Card κ χ} {memory : Memory} (hm : c.memory = some memory)
    (hle : c.clock.cyclesPerSample ≤ 737) {frames : Nat}
    (hbudget : (c.clock.cyclesPerSample * frames : Int) < signedWord64)
    (hcosts : ∀ r ∈ c.steps frames, r.cost.toNat + 736 < word32) : c.Budgeted frames := by
  constructor
  case renders =>
    intro hframes
    obtain ⟨last, hspend, hrender⟩ := render_spend hm hle hframes hbudget hcosts
    exact ⟨memory, _, _, _, hm, hrender, Run.spends rfl hspend⟩
  case overlong =>
    intro hframes
    have hsize : ¬ frames * 2 < word64 := by omega
    have ho : c.opening memory frames = .error .product := by
      rw [opening, mulBelow, if_neg hsize]
      rfl
    refine ⟨?_, ?_, ?_⟩
    · refine Nat.eq_zero_of_not_pos fun hpos => ?_
      have hmul : frames ≤ c.clock.cyclesPerSample * frames := Nat.le_mul_of_pos_left _ hpos
      rw [← Int.natCast_mul] at hbudget
      simp only [word64, signedWord64] at hframes hbudget
      omega
    · simp only [steps, hm, ho]
    · rw [render_of_memory hm, ho]
      rfl

/-- The statistics of the blocks rendered in a life, up to a fault. -/
def blocks (c : Card κ χ) : List CardEvent → List RenderStats
  | [] => []
  | e :: events =>
    match c.perform e with
    | .error _ => []
    | .ok (_, c', _) =>
      match e with
      | .render _ => c'.stats :: c'.blocks events
      | .read _ | .write _ _ | .timerExpired _ | .midi _ => c'.blocks events

theorem render_bounds {c c' : Card κ χ} {memory : Memory} (hm : c.memory = some memory)
    {frames most : Nat} (hmost : ∀ r ∈ c.steps frames, r.cost.toNat ≤ most)
    {output : Array Fm.Frame} {effects : List Effect}
    (h : c.render frames = .ok (output, c', effects)) :
    c'.stats.frames = frames ∧
      c.clock.cyclesPerSample * frames ≤ c'.stats.cycles ∧
      c'.stats.cycles ≤ c.clock.cyclesPerSample * frames + (most - 1) := by
  rcases render_eq_ok h with ⟨hnone, -⟩ | ⟨memory, budget, start, last, hm', ho, hspend, hclose⟩
  · rw [hm] at hnone
    cases hnone
  · obtain ⟨hframes, hbudget⟩ := granted_of_opening ho
    have hopened := c.opening_of_lt memory hframes hbudget
    rw [hopened] at ho
    cases ho
    rw [steps_of_opening hm' hopened] at hmost
    cases hclose
    have hbounds := Run.spend_bounds rfl hspend hmost
    refine ⟨?_, hbounds⟩
    change last.stats.frames = frames
    rw [Run.block_stats rfl hspend]

/-- The total of what blocks spend: never less than their budgets, and over them by less than a step
for each block. -/
theorem blocks_bounds {c : Card κ χ} (henabled : c.enabled = true) {most : Nat}
    (events : List CardEvent) (hmost : ∀ r ∈ c.life events, r.cost.toNat ≤ most) :
    c.clock.cyclesPerSample * ((c.blocks events).map (·.frames)).sum ≤
        ((c.blocks events).map (·.cycles)).sum ∧
      ((c.blocks events).map (·.cycles)).sum ≤
        c.clock.cyclesPerSample * ((c.blocks events).map (·.frames)).sum +
          (c.blocks events).length * (most - 1) := by
  induction events generalizing c with
  | nil => simp [blocks]
  | cons e events ih =>
    have hfirst := fun r hr => hmost r (List.mem_append_left _ hr)
    have hlater := fun r hr => hmost r (List.mem_append_right _ hr)
    rw [blocks]
    cases hp : c.perform e with
    | error b => simp
    | ok result =>
      obtain ⟨answer, c', effects⟩ := result
      rw [hp] at hlater
      have halike := Alike.perform hp
      have hrest := ih (halike.enabled.trans henabled) hlater
      rw [halike.cyclesPerSample] at hrest
      cases e with
      | render frames =>
        obtain ⟨memory, hm⟩ := Option.isSome_iff_exists.1 henabled
        obtain ⟨output, hr⟩ := render_of_perform hp
        obtain ⟨hframes, hlo, hhi⟩ := render_bounds hm hfirst hr
        simp only [List.map_cons, List.sum_cons, List.length_cons, hframes, Nat.mul_add,
          Nat.add_mul, Nat.one_mul]
        omega
      | read port | write port value | timerExpired timer | midi chunk => exact hrest

theorem blocks_render {c : Card κ χ} (henabled : c.enabled = true)
    (hle : c.clock.cyclesPerSample ≤ 737) (sizes : List Nat)
    (hfit : ∀ frames ∈ sizes, 2 * frames < word64 ∧
      (c.clock.cyclesPerSample * frames : Int) < signedWord64)
    (hcosts : ∀ r ∈ c.life (sizes.map .render), r.cost.toNat + 736 < word32) :
    (c.blocks (sizes.map .render)).map (·.frames) = sizes := by
  induction sizes generalizing c with
  | nil => rfl
  | cons frames sizes ih =>
    obtain ⟨memory, hm⟩ := Option.isSome_iff_exists.1 henabled
    have hfirst := fun r hr => hcosts r (List.mem_append_left _ hr)
    have hlater := fun r hr => hcosts r (List.mem_append_right _ hr)
    obtain ⟨hframes, hbudget⟩ := hfit frames List.mem_cons_self
    obtain ⟨last, hspend, hrender⟩ := render_spend hm hle hframes hbudget hfirst
    have hp : c.perform (.render frames) =
        .ok (.sound (c.closing last).1, (c.closing last).2.1, (c.closing last).2.2) := by
      rw [perform, hrender]
      rfl
    have halike := Alike.perform hp
    rw [hp] at hlater
    have hrest := ih (halike.enabled.trans henabled) (halike.cyclesPerSample ▸ hle)
      (fun n hn => halike.cyclesPerSample ▸ hfit n (List.mem_cons_of_mem _ hn)) hlater
    rw [List.map_cons, blocks, hp]
    simp only [List.map_cons, hrest]
    congr 1
    change last.stats.frames = frames
    rw [Run.block_stats rfl hspend]

end Card

/-- Every block takes the fewest steps that cover its budget, and none pays for the one before it,
whatever the card has lived through. -/
theorem budget_is_spent {κ χ : Type} [Processor κ] [FmChip χ] (config : Config)
    (firmware : ByteArray) (cpu : κ) (chip : χ) (life : List CardEvent) (c : Card κ χ)
    (hlive : (Card.assemble config (some firmware) cpu chip).live life = .ok c) :
    (∀ r : Run κ χ, r.cost =
      if r.attention = true ∧ r.answer ≠ 0 then r.answer
      else if r.result = 0 then 4 else r.result) ∧
    (∀ frames : Nat, (c.clock.cyclesPerSample * frames : Int) < signedWord64 →
      (∀ r ∈ c.steps frames, r.cost.toNat + 736 < word32) → c.Budgeted frames) ∧
    (∀ events most, (∀ r ∈ c.life events, r.cost.toNat ≤ most) →
      c.clock.cyclesPerSample * ((c.blocks events).map (·.frames)).sum ≤
          ((c.blocks events).map (·.cycles)).sum ∧
        ((c.blocks events).map (·.cycles)).sum ≤
          c.clock.cyclesPerSample * ((c.blocks events).map (·.frames)).sum +
            (c.blocks events).length * (most - 1)) ∧
    ∀ sizes : List Nat,
      (∀ frames ∈ sizes, 2 * frames < word64 ∧
        (c.clock.cyclesPerSample * frames : Int) < signedWord64) →
      (∀ r ∈ c.life (sizes.map .render), r.cost.toNat + 736 < word32) →
      (c.blocks (sizes.map .render)).map (·.frames) = sizes := by
  have henabled : c.enabled = true := (Card.Alike.live hlive).enabled
  have hle := Card.cyclesPerSample_le_of_live hlive
  obtain ⟨memory, hm⟩ := Option.isSome_iff_exists.1 henabled
  refine ⟨Run.cost_eq, fun frames => Card.budgeted hm hle, fun events most => ?_, fun sizes => ?_⟩
  · exact Card.blocks_bounds henabled events
  · exact Card.blocks_render henabled hle sizes

/-- Steps of 100 T-states: two blocks of 737 and 1474 are rendered, each paid for on its own. -/
theorem budget_is_spent_scripted :
    let cpu : ScriptedCpu := { costs := #[100] }
    let c : Card ScriptedCpu Fm.LevelChip :=
      Card.assemble { sampleRate := 8000 } (some .empty) cpu {}
    let events : List CardEvent := [1, 2].map .render
    (c.clock.cyclesPerSample = 737 ∧ (∀ r ∈ c.steps 1, r.cost.toNat + 736 < word32) ∧
      ∀ r ∈ c.life events, r.cost.toNat ≤ 100) ∧
    c.Budgeted 1 ∧ (c.blocks events).map (·.frames) = [1, 2] ∧
    737 * 3 ≤ ((c.blocks events).map (·.cycles)).sum ∧
    ((c.blocks events).map (·.cycles)).sum ≤ 737 * 3 + 2 * 99 := by
  intro cpu c events
  have hcycles : c.clock.cyclesPerSample = 737 := by decide +kernel
  have hmost : ∀ r ∈ c.life events, r.cost.toNat ≤ 100 :=
    Card.life_cost_single (P := fun cost => cost.toNat ≤ 100) rfl rfl (by decide) (by decide)
      (by decide) events
  have hlife : ∀ r ∈ c.life events, r.cost.toNat + 736 < word32 := fun r hr => by
    have := hmost r hr
    simp only [word32]
    omega
  have hfirst : ∀ r ∈ c.steps 1, r.cost.toNat + 736 < word32 := fun r hr =>
    hlife r (List.mem_append_left _ hr)
  obtain ⟨-, hblock, htotal, hrender⟩ :=
    budget_is_spent { sampleRate := 8000 } .empty cpu {} [] c rfl
  have hsizes := hrender [1, 2] (by rw [hcycles]; decide) hlife
  have hbounds := htotal events 100 hmost
  have hlength : (c.blocks events).length = 2 := by
    rw [← List.length_map (f := (·.frames)), hsizes]
    rfl
  rw [hcycles, hsizes, hlength] at hbounds
  exact ⟨⟨hcycles, hfirst, hmost⟩, hblock 1 (by rw [hcycles]; decide) hfirst, hsizes, hbounds⟩

end FeatureCard
