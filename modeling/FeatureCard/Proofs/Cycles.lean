import FeatureCard.Proofs.Acknowledge
import FeatureCard.Proofs.Budget
import FeatureCard.Proofs.Carrying

/-!
# T-states are counted once

A mounted engine has two counts: the engine's own, and that of the T-states spent halted or accepting
interrupts. Together they are what its calls have answered. So the blocks of a card report just what
its processor has spent, halted or not, whether interrupts are accepted or declined.
-/

namespace FeatureCard

open Fm (FmChip)

namespace Z80

namespace Mounted

/-- What can be asked of a processor. -/
inductive Call where
  | step
  | interrupt
  deriving DecidableEq, Repr

variable {ε σ : Type} [Engine ε]

def call (m : Mounted ε) : Call → BusProgram (UInt32 × Mounted ε)
  | .step => m.step
  | .interrupt => m.interrupt

/-- What calls answer, and the processor after them. Each call finds the bus in the state that comes
with it: between calls others may have used it. -/
def serve [Bus σ] (m : Mounted ε) : List (Call × σ) → List UInt32 × Mounted ε
  | [] => ([], m)
  | (call, s) :: calls =>
    let (cost, m') := ((m.call call).run s).1
    let (costs, last) := m'.serve calls
    (cost :: costs, last)

/-! ## One call -/

theorem step_run [Bus σ] (m : Mounted ε) (s : σ) :
    m.step.run s =
      (m.account ((Engine.execute m.engine).run s).1, ((Engine.execute m.engine).run s).2) := by
  unfold step
  rw [BusProgram.run_bind]
  rfl

theorem account_ne_zero (m : Mounted ε) (engine : ε) : (m.account engine).1 ≠ 0 := by
  have hhalt : haltCycles ≠ 0 := by decide
  unfold account
  dsimp only
  split
  · exact hhalt
  · assumption

theorem account_totalCycles (m : Mounted ε) {engine : ε} {cost : UInt32}
    (h : Engine.cycles engine = Engine.cycles m.engine + cost.toNat) :
    (m.account engine).2.totalCycles = m.totalCycles + (m.account engine).1.toNat := by
  have hcost : (Engine.cycles engine - Engine.cycles m.engine).toUInt32 = cost := by
    rw [h, Nat.add_sub_cancel_left]
    exact UInt32.ofNat_toNat
  unfold account
  dsimp only
  rw [hcost]
  split
  · rename_i hzero
    subst hzero
    change Engine.cycles engine + (m.extra + haltCycles.toNat) = _
    rw [h]
    exact (Nat.add_assoc _ _ _).symm
  · change Engine.cycles engine + m.extra = Engine.cycles m.engine + m.extra + cost.toNat
    omega

theorem acknowledgeCost_ne_zero (mode : UInt8) : acknowledgeCost mode ≠ 0 := by
  unfold acknowledgeCost
  split <;> decide

theorem step_ne_zero [Bus σ] (m : Mounted ε) (s : σ) : (m.step.run s).1.1 ≠ 0 := by
  rw [step_run]
  exact m.account_ne_zero _

theorem interrupt_eq_zero [Bus σ] {m : Mounted ε} {s : σ} (h : (m.interrupt.run s).1.1 = 0) :
    m.interrupt.run s = ((0, m), s) := by
  cases ha : acknowledge m.engine with
  | none => exact interrupt_of_none ha s
  | some acknowledged =>
    rw [interrupt_of_some ha, enter_run] at h
    exact absurd h (acknowledgeCost_ne_zero acknowledged.2)

theorem acknowledge_cycles (hrestores : Engine.RestoresCount ε) {engine engine' : ε} {mode : UInt8}
    (h : acknowledge engine = some (engine', mode)) :
    Engine.cycles engine' = Engine.cycles engine := by
  cases hs : Snapshot.capture engine with
  | none =>
    rw [acknowledge, hs] at h
    cases h
  | some s =>
    rw [acknowledge_of_capture hs] at h
    split at h
    · obtain ⟨read, hread, hpair⟩ := Option.map_eq_some_iff.1 h
      obtain rfl : read = engine' := congrArg Prod.fst hpair
      exact hrestores engine read s s.acknowledged hs (s.count_clearAll fun _ hp => hp) hread
    · cases h

theorem call_totalCycles (h : Engine.Counts ε) [Bus σ] (m : Mounted ε) (call : Call) (s : σ) :
    ((m.call call).run s).1.2.totalCycles =
      m.totalCycles + ((m.call call).run s).1.1.toNat := by
  cases call with
  | step =>
    obtain ⟨cost, hcost⟩ := h.execute m.engine s
    change (m.step.run s).1.2.totalCycles = m.totalCycles + (m.step.run s).1.1.toNat
    rw [step_run]
    exact m.account_totalCycles hcost
  | interrupt =>
    change (m.interrupt.run s).1.2.totalCycles = m.totalCycles + (m.interrupt.run s).1.1.toNat
    cases ha : acknowledge m.engine with
    | none =>
      rw [interrupt_of_none ha]
      rfl
    | some acknowledged =>
      rw [interrupt_of_some ha, enter_run]
      simp only [totalCycles, h.setPc, h.setSp, acknowledge_cycles h.restores ha, Nat.add_assoc]

theorem serve_totalCycles (h : Engine.Counts ε) [Bus σ] (m : Mounted ε) (calls : List (Call × σ)) :
    (m.serve calls).2.totalCycles =
      m.totalCycles + ((m.serve calls).1.map (·.toNat)).sum := by
  induction calls generalizing m with
  | nil => rfl
  | cons entry calls ih =>
    have hfirst := call_totalCycles h m entry.1 entry.2
    have hlater := ih ((m.call entry.1).run entry.2).1.2
    simp only [serve, List.map_cons, List.sum_cons]
    rw [hlater, hfirst, Nat.add_assoc]

end Mounted

end Z80

/-! ## The calls that blocks make -/

open Z80 (Engine Mounted)

section Blocks

variable {ε χ : Type} [Engine ε] [FmChip χ] (h : Engine.Counts ε)
include h

namespace Run

theorem offer_totalCycles (r : Run (Mounted ε) χ) :
    r.offer.2.cpu.totalCycles = r.cpu.totalCycles + r.offer.1.toNat := by
  unfold offer
  split
  · exact Mounted.call_totalCycles h r.cpu .interrupt r.bus
  · rfl

theorem execute_totalCycles (r : Run (Mounted ε) χ) :
    r.execute.2.cpu.totalCycles = r.cpu.totalCycles + r.execute.1.toNat :=
  Mounted.call_totalCycles h r.cpu .step r.bus

theorem acted_totalCycles (r : Run (Mounted ε) χ) :
    r.acted.cpu.totalCycles = r.cpu.totalCycles + r.cost.toNat := by
  have hoffer := offer_totalCycles h r
  unfold acted cost act
  by_cases hc : r.offer.1 = 0
  · -- No step costs nothing, so none is counted as more than it was.
    have hstep : r.offer.2.execute.1 ≠ 0 := Mounted.step_ne_zero r.offer.2.cpu r.offer.2.bus
    have hcost : effectiveCost r.offer.2.execute.1 = r.offer.2.execute.1 := if_neg hstep
    rw [hc] at hoffer
    simp only [hc, ne_eq, not_true_eq_false, if_false, hcost]
    rw [execute_totalCycles h, hoffer]
    rfl
  · simp only [hc, ne_eq, not_false_eq_true, if_true]
    exact hoffer

theorem next_totalCycles {r r' : Run (Mounted ε) χ} (hn : r.next = .ok r') :
    r'.cpu.totalCycles = r.cpu.totalCycles + r.cost.toNat := by
  obtain ⟨reached, cursor, fm, -, -, rfl⟩ := settle_eq_ok hn
  exact acted_totalCycles h r

end Run

namespace Card

theorem carries_totalCycles (start : Nat) :
    Carries (fun spent (c : Card (Mounted ε) χ) => c.cpu.totalCycles = start + spent)
      (fun spent r => r.cpu.totalCycles = start + spent) where
  event _ _ _ _ hc := hc
  silence _ _ _ hc := hc
  opening _ _ _ _ hc := hc
  next spent r r' hr hn := by rw [Run.next_totalCycles h hn, hr, Nat.add_assoc]
  closing _ _ _ hr := hr

end Card

end Blocks

namespace Card

open Run (spentBefore)

section Stats

variable {κ χ : Type} [Processor κ] [FmChip χ]

theorem cycles_of_render {c c' : Card κ χ} {frames : Nat} {output : Array Fm.Frame}
    {effects : List Effect} (h : c.render frames = .ok (output, c', effects)) :
    c'.stats.cycles = spentBefore (c.steps frames) (c.steps frames).length := by
  cases hm : c.memory with
  | none =>
    have hsteps : c.steps frames = [] := by rw [steps, hm]
    rw [hsteps]
    unfold render at h
    rw [hm] at h
    cases hsize : mulBelow word64 frames 2 with
    | error f => simp [hsize, bind, Except.bind] at h
    | ok size =>
      obtain ⟨-, rfl, -⟩ := by simpa [hsize, bind, Except.bind, pure, Except.pure] using h
      rfl
  | some memory =>
    rcases render_eq_ok h with ⟨hnone, -⟩ | ⟨memory', budget, start, last, hm', ho, hs, hc⟩
    · rw [hm] at hnone
      cases hnone
    · rw [steps_of_opening hm' ho, spentBefore, List.take_length]
      obtain ⟨-, -, rfl⟩ := opening_eq_ok ho
      cases hc
      change last.stats.cycles = _
      rw [Run.block_stats rfl hs]

end Stats

variable {ε χ : Type} [Engine ε] [FmChip χ]

theorem live_totalCycles (h : Engine.Counts ε) {c c' : Card (Mounted ε) χ} {events : List CardEvent}
    (hl : c.live events = .ok c') :
    c'.cpu.totalCycles = c.cpu.totalCycles + ((c.blocks events).map (·.cycles)).sum := by
  induction events generalizing c with
  | nil =>
    obtain rfl := Except.ok.inj hl
    rfl
  | cons e events ih =>
    obtain ⟨answer, c₁, effects, hp, hlater⟩ := live_cons.1 hl
    have hfirst : c₁.cpu.totalCycles = c.cpu.totalCycles +
        (0 + spentBefore (c.stepsOf e) (c.stepsOf e).length) :=
      (carries_totalCycles h c.cpu.totalCycles).perform rfl hp
    rw [ih hlater, hfirst, blocks, hp, Nat.zero_add, Nat.add_assoc]
    cases e with
    | render frames =>
      obtain ⟨output, hr⟩ := render_of_perform hp
      rw [List.map_cons, List.sum_cons, cycles_of_render hr]
      rfl
    | read port | write port value | timerExpired timer | midi chunk =>
      exact congrArg (c.cpu.totalCycles + ·) (Nat.zero_add _)

end Card

/-! ## A processor at rest -/

namespace Z80.Mounted

/-- The processor is halted, and no interrupt wakes it. -/
def Resting (m : Z80) : Prop := m.engine.state.halted = true ∧ m.engine.state.iff1 = false

variable {σ : Type} [Bus σ] {m : Z80}

theorem Resting.interrupt (h : m.Resting) (s : σ) : m.interrupt.run s = ((0, m), s) :=
  interrupt_of_none (acknowledge_declines Core.faithful (.inl h.2)) s

theorem Resting.step (h : m.Resting) (s : σ) :
    m.step.run s = ((haltCycles, { m with extra := m.extra + haltCycles.toNat }), s) := by
  have hexecute : (Engine.execute m.engine).run s = (m.engine, s) := by
    change m.engine.execute.run s = _
    rw [Core.execute, if_pos h.1]
    rfl
  have hcost : (Engine.cycles m.engine - Engine.cycles m.engine).toUInt32 = 0 := by
    rw [Nat.sub_self]
    rfl
  rw [step_run, hexecute]
  simp only [account, hcost, if_true]

end Z80.Mounted

namespace Run

variable {χ : Type} [FmChip χ] {r r' : Run Z80 χ}

theorem act_of_resting (h : r.cpu.Resting) : r.cost = haltCycles ∧ r.acted.cpu.Resting := by
  have hoffer : r.offer.1 = 0 ∧ r.offer.2.cpu = r.cpu := by
    unfold offer
    split
    · change (r.cpu.interrupt.run r.bus).1.1 = 0 ∧ (r.cpu.interrupt.run r.bus).1.2 = r.cpu
      rw [h.interrupt]
      exact ⟨rfl, rfl⟩
    · exact ⟨rfl, rfl⟩
  obtain ⟨hcost, hcpu⟩ := hoffer
  have hresting : r.offer.2.cpu.Resting := hcpu ▸ h
  have hexecute : r.offer.2.execute.1 = haltCycles ∧ r.offer.2.execute.2.cpu.Resting := by
    change (r.offer.2.cpu.step.run r.offer.2.bus).1.1 = haltCycles ∧
      (r.offer.2.cpu.step.run r.offer.2.bus).1.2.Resting
    rw [hresting.step]
    exact ⟨rfl, hresting⟩
  unfold cost acted act
  simp only [hcost, ne_eq, not_true_eq_false, if_false, hexecute.1]
  exact ⟨rfl, hexecute.2⟩

end Run

theorem Card.cost_of_resting {χ : Type} [FmChip χ] {c : Card Z80 χ} (h : c.cpu.Resting)
    (events : List CardEvent) : ∀ r ∈ c.life events, r.cost = haltCycles := by
  have hcarries : Card.Carries (fun _ (c : Card Z80 χ) => c.cpu.Resting)
      (fun _ r => r.cpu.Resting) := by
    constructor
    case event => exact fun _ _ _ _ hc => hc
    case silence => exact fun _ _ _ hc => hc
    case opening => exact fun _ _ _ _ hc => hc
    case next =>
      intro spent r r' hr hn
      obtain ⟨reached, cursor, fm, -, -, rfl⟩ := Run.settle_eq_ok hn
      exact (Run.act_of_resting hr).2
    case closing => exact fun _ _ _ hr => hr
  intro r hr
  obtain ⟨k, hk⟩ := List.mem_iff_getElem?.1 hr
  exact (Run.act_of_resting (@Carries.life _ _ _ _ _ _ hcarries 0 c h events k r hk)).1

/-- Whatever is asked of a mounted engine, its total is the sum of what it has answered. No step is
free, and only an interrupt that changes nothing is. So what the blocks of any life report is what
the total grows by in it, and a life whose blocks fit is lived to its end. -/
theorem every_cycle_is_counted_once {ε : Type} [Engine ε] (h : Engine.Counts ε) :
    (∀ {σ : Type} [Bus σ] (calls : List (Mounted.Call × σ)),
      ((Mounted.powerOn : Mounted ε).serve calls).2.totalCycles =
        (((Mounted.powerOn : Mounted ε).serve calls).1.map (·.toNat)).sum) ∧
    (∀ {σ : Type} [Bus σ] (m : Mounted ε) (s : σ), (m.step.run s).1.1 ≠ 0 ∧
      ((m.interrupt.run s).1.1 = 0 → m.interrupt.run s = ((0, m), s))) ∧
    (∀ {χ : Type} [FmChip χ] (c c' : Card (Mounted ε) χ) (events : List CardEvent),
      c.live events = .ok c' →
      c'.cpu.totalCycles = c.cpu.totalCycles + ((c.blocks events).map (·.cycles)).sum) ∧
    ∀ {χ : Type} [FmChip χ] (c : Card (Mounted ε) χ) (events : List CardEvent),
      c.config.basePort.toNat + Config.portCount ≤ 0x10000 → c.clock.cyclesPerSample ≤ 737 →
      (∀ frames, .render frames ∈ events →
        2 * frames < word64 ∧ (c.clock.cyclesPerSample * frames : Int) < signedWord64) →
      (∀ r ∈ c.life events, r.cost.toNat + 736 < word32) →
      ∃ c', c.live events = .ok c' ∧
        c'.cpu.totalCycles = c.cpu.totalCycles + ((c.blocks events).map (·.cycles)).sum := by
  have hfresh : (Mounted.powerOn : Mounted ε).totalCycles = 0 := h.fresh
  refine ⟨fun calls => ?_, fun m s => ⟨m.step_ne_zero s, Mounted.interrupt_eq_zero⟩,
    fun c c' events => Card.live_totalCycles h, ?_⟩
  · rw [Mounted.serve_totalCycles h, hfresh, Nat.zero_add]
  · intro χ _ c events hroom hle hfits hcosts
    obtain ⟨c', hlive⟩ := Card.lives hroom hle events hfits hcosts
    exact ⟨c', hlive, Card.live_totalCycles h hlive⟩

/-- A processor halted with interrupts disabled, and a chip that raises the attention line after
every step: two blocks of one T-state a frame, each made of steps of four. -/
theorem every_cycle_is_counted_once_at_rest :
    let cpu : Z80 := { engine := { state := { Z80.State.powerOn with halted := true } }, extra := 19 }
    let chip : Fm.LevelChip := { every := 1 }
    let c : Card Z80 Fm.LevelChip :=
      Card.assemble { sampleRate := 5900000 } (some .empty) cpu chip
    let events : List CardEvent := [9, 3].map .render
    (c.config.basePort.toNat + Config.portCount ≤ 0x10000 ∧ c.clock.cyclesPerSample ≤ 737 ∧
      (∀ frames, .render frames ∈ events →
        2 * frames < word64 ∧ (c.clock.cyclesPerSample * frames : Int) < signedWord64) ∧
      ∀ r ∈ c.life events, r.cost.toNat + 736 < word32) ∧
    ∃ c', c.live events = .ok c' ∧
      c'.cpu.totalCycles = 19 + ((c.blocks events).map (·.cycles)).sum ∧
      9 + 3 ≤ ((c.blocks events).map (·.cycles)).sum ∧
      ((c.blocks events).map (·.cycles)).sum ≤ 9 + 3 + 2 * 3 := by
  intro cpu chip c events
  have hcycles : c.clock.cyclesPerSample = 1 := by decide +kernel
  have hroom : c.config.basePort.toNat + Config.portCount ≤ 0x10000 := by decide
  have hle : c.clock.cyclesPerSample ≤ 737 := by
    rw [hcycles]
    decide
  have hsizes : ∀ frames ∈ [9, 3],
      2 * frames < word64 ∧ (c.clock.cyclesPerSample * frames : Int) < signedWord64 := by
    rw [hcycles]
    decide
  have hfits : ∀ frames, .render frames ∈ events →
      2 * frames < word64 ∧ (c.clock.cyclesPerSample * frames : Int) < signedWord64 := by
    intro frames hrender
    exact hsizes frames (by simpa [events] using hrender)
  have hfour : ∀ r ∈ c.life events, r.cost = haltCycles := Card.cost_of_resting ⟨rfl, rfl⟩ events
  have hcosts : ∀ r ∈ c.life events, r.cost.toNat + 736 < word32 := fun r hr => by
    rw [hfour r hr]
    decide
  obtain ⟨-, -, -, hlives⟩ := every_cycle_is_counted_once Z80.Core.counts
  obtain ⟨c', hlive, htotal⟩ := hlives c events hroom hle hfits hcosts
  have hframes : (c.blocks events).map (·.frames) = [9, 3] :=
    Card.blocks_render rfl hle [9, 3] hsizes hcosts
  have hlength : (c.blocks events).length = 2 := by
    rw [← List.length_map (f := (·.frames)), hframes]
    rfl
  have hmost : ∀ r ∈ c.life events, r.cost.toNat ≤ 4 := fun r hr => by
    rw [hfour r hr]
    decide
  have hbounds := Card.blocks_bounds (c := c) rfl events hmost
  rw [hcycles, hframes, hlength] at hbounds
  exact ⟨⟨hroom, hle, hfits, hcosts⟩, c', hlive, htotal, hbounds⟩

end FeatureCard
