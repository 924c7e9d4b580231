import FeatureCard.Proofs.Carrying

/-!
# The time base

The microseconds that the chip's timers hear of are those of all T-states spent so far, rounded down
once. The rest is kept from step to step and from block to block.
-/

namespace FeatureCard

open Fm

/-! ## A recorded life -/

section Map

variable {κ χ ψ : Type} (f : χ → ψ)

theorem Device.hostRead_map (d : Device χ) (offset : UInt8) :
    (d.map f).hostRead offset =
      ((d.hostRead offset).1, (d.hostRead offset).2.1.map f, (d.hostRead offset).2.2) := by
  unfold hostRead answerHost
  cases PortMap.HostRead.ofOffset offset <;> rfl

theorem Device.hostWrite_map (d : Device χ) (offset value : UInt8) :
    (d.map f).hostWrite offset value =
      ((d.hostWrite offset value).1.map f, (d.hostWrite offset value).2) := by
  unfold hostWrite acceptHost
  cases PortMap.HostWrite.ofOffset offset with
  | piuControl => simp only [control_map]
  | putHostToCard | timer address | timerControl | unmapped => rfl

theorem Card.read_map (c : Card κ χ) (port : UInt16) :
    (c.map f).read port =
      (c.read port).map fun result => (result.1, result.2.1.map f, result.2.2) := by
  unfold Card.read
  change (if c.config.decodes port = true then c.offsetOf port >>= _ else _) = _
  split
  · cases c.offsetOf port with
    | error fault => rfl
    | ok offset =>
      have hread := c.device.hostRead_map f offset
      simp only [bind, Except.bind, Except.map, pure, Except.pure, Card.map, hread]
  · rfl

theorem Card.write_map (c : Card κ χ) (port : UInt16) (value : UInt8) :
    (c.map f).write port value =
      (c.write port value).map fun result => (result.1.map f, result.2) := by
  unfold Card.write
  change (if c.config.decodes port = true then c.offsetOf port >>= _ else _) = _
  split
  · cases c.offsetOf port with
    | error fault => rfl
    | ok offset =>
      have hwrite := c.device.hostWrite_map f offset value
      simp only [bind, Except.bind, Except.map, pure, Except.pure, Card.map, hwrite]
  · rfl

end Map

namespace Fm.FmChip.Hom

variable {κ χ ψ : Type} [FmChip χ] [FmChip ψ] {f : χ → ψ}

variable [Processor κ]

theorem perform (h : FmChip.Hom f) (c : Card κ χ) (e : CardEvent) :
    (c.map f).perform e =
      (c.perform e).map fun result => (result.1, result.2.1.map f, result.2.2) := by
  cases e with
  | read port =>
    rw [Card.perform, Card.perform, Card.read_map]
    cases c.read port <;> rfl
  | write port value =>
    rw [Card.perform, Card.perform, Card.write_map]
    cases c.write port value <;> rfl
  | timerExpired timer => rfl
  | midi chunk => rfl
  | render frames =>
    rw [Card.perform, h.render, Card.perform]
    cases c.render frames <;> rfl

theorem stepsOf (h : FmChip.Hom f) (c : Card κ χ) (e : CardEvent) :
    (c.map f).stepsOf e = (c.stepsOf e).map (Run.map f) := by
  cases e with
  | render frames =>
    have hmemory : (c.map f).memory = c.memory := rfl
    simp only [Card.stepsOf, Card.steps, hmemory]
    cases c.memory with
    | none => rfl
    | some memory =>
      simp only [Card.opening_map]
      cases c.opening memory frames with
      | error fault => rfl
      | ok opened => exact h.steps opened.1 opened.2
  | read port | write port value | timerExpired timer | midi chunk => rfl

theorem life (h : FmChip.Hom f) (c : Card κ χ) (events : List CardEvent) :
    (c.map f).life events = (c.life events).map (Run.map f) := by
  induction events generalizing c with
  | nil => rfl
  | cons e events ih =>
    rw [Card.life, Card.life, h.stepsOf, h.perform, List.map_append]
    cases c.perform e with
    | error b => rfl
    | ok result =>
      have hrest := ih result.2.1
      simp only [Except.map, hrest]

end Fm.FmChip.Hom

/-! ## What the chip has heard of -/

namespace Fm.FmPort

variable {χ : Type} [FmChip χ]

theorem flush_counted (p : FmPort (Recorded χ)) : p.flush.chip.counted = p.chip.counted := by
  unfold flush
  split <;> rfl

theorem count_counted (p : FmPort (Recorded χ)) (micros : UInt32) :
    (p.count micros).2.chip.counted = p.chip.counted + micros.toNat := rfl

end Fm.FmPort

open SampleClock (microsAfter)

/-- The chip has heard of the microseconds of `spent` T-states, and the clock keeps the rest. -/
structure InTime {χ : Type} (spent : Nat) (clock : SampleClock) (p : FmPort (Recorded χ)) :
    Prop where
  kept : clock.Kept spent
  counted : p.chip.counted = microsAfter spent

theorem microsAfter_mono {spent spent' : Nat} (h : spent ≤ spent') :
    microsAfter spent ≤ microsAfter spent' :=
  Nat.div_le_div_right (Nat.mul_le_mul_left 10 h)

namespace Run

variable {κ χ : Type} [Processor κ] [FmChip χ]

theorem acted_counted (r : Run κ (Recorded χ)) :
    r.acted.bus.device.fm.chip.counted = r.bus.device.fm.chip.counted := by
  let heard (p : FmPort (Recorded χ)) : Prop := p.chip.counted = r.bus.device.fm.chip.counted
  exact r.acted_kept (FmPort.kept_bus (P := heard) (fun _ _ h => h)
    (fun p h => p.flush_counted.trans h) (fun p _ _ h => p.flush_counted.trans h)) rfl

theorem next_inTime {r r' : Run κ (Recorded χ)} {spent : Nat}
    (h : InTime spent r.clock r.bus.device.fm) (hn : r.next = .ok r') :
    InTime (spent + r.cost.toNat) r'.clock r'.bus.device.fm := by
  obtain ⟨hmicros, hkept⟩ := h.kept.elapsed r.cost
  have hmono := microsAfter_mono (Nat.le_add_right spent r.cost.toNat)
  constructor
  case kept => rwa [next_clock hn]
  case counted =>
    have hacted := r.acted_counted.trans h.counted
    obtain ⟨reached, cursor, fm, -, hfm, rfl⟩ := settle_eq_ok hn
    obtain ⟨position, rfl⟩ := reach_eq_ok hfm
    simp only [settled, counted, FmPort.count_counted, r.acted_clock.1, hmicros, hacted]
    omega

end Run

theorem Card.carries_inTime {κ χ : Type} [Processor κ] [FmChip χ] :
    Card.Carries (fun spent (c : Card κ (Recorded χ)) => InTime spent c.clock c.device.fm)
      fun spent r => InTime spent r.clock r.bus.device.fm where
  event spent c e he h := by
    rw [c.device.after_fm he]
    exact h
  silence _ _ _ h := h
  opening _ _ _ _ h := ⟨h.kept, h.counted⟩
  next _ _ _ h hn := Run.next_inTime h hn
  closing _ c r h := ⟨h.kept, (FmPort.flush_counted _).trans h.counted⟩

/-! ## Exact time -/

/-- The time of a step is counted in words that hold it. -/
structure SampleClock.Fits (c : SampleClock) (cycles : UInt32) : Prop where
  total : cycles.toNat * microsPerSecond + c.remainder < word64
  micros : (cycles.toNat * microsPerSecond + c.remainder) / processorHertz < word32
  exact : (c.elapsed cycles).1.toNat =
    (cycles.toNat * microsPerSecond + c.remainder) / processorHertz

theorem SampleClock.Kept.fits {c : SampleClock} {spent : Nat} (h : c.Kept spent)
    (cycles : UInt32) : c.Fits cycles := by
  have hremainder : c.remainder < processorHertz := h ▸ Nat.mod_lt _ (by decide)
  have hcycles := cycles.toNat_lt
  have hmicros : (cycles.toNat * microsPerSecond + c.remainder) / processorHertz < word32 := by
    refine (Nat.div_lt_iff_lt_mul (by decide)).2 ?_
    simp only [microsPerSecond, processorHertz, word32] at hremainder ⊢
    omega
  constructor
  case total =>
    simp only [microsPerSecond, processorHertz, word64] at hremainder ⊢
    omega
  case micros => exact hmicros
  case exact => rw [(c.elapsed_fields cycles).1, Nat.toUInt32_eq, UInt32.toNat_ofNat_of_lt' hmicros]

open Run (spentBefore)

/-- After every step of a life the chip has heard of the microseconds of all T-states spent so far,
and the clock keeps what is left over. That the chip is recorded makes no difference to the life. -/
theorem time_base_is_exact {κ χ : Type} [Processor κ] [FmChip χ] (config : Config)
    (firmware : ByteArray) (cpu : κ) (chip : χ) (events : List CardEvent)
    {steps : List (Run κ (Recorded χ))}
    (hsteps : steps =
      (Card.assemble config (some firmware) cpu (Recorded.fresh chip)).life events)
    (hcosts : ∀ r ∈ steps, r.cost.toNat + 736 < word32) :
    steps.map (Run.map Recorded.chip) =
        (Card.assemble config (some firmware) cpu chip).life events ∧
      ∀ k r, steps[k]? = some r →
        (∃ r', r.next = .ok r' ∧
          r'.bus.device.fm.chip.counted =
            spentBefore steps (k + 1) * microsPerSecond / processorHertz ∧
          r'.clock.remainder = spentBefore steps (k + 1) * microsPerSecond % processorHertz) ∧
        ∀ cycles, r.clock.Fits cycles := by
  let c := Card.assemble config (some firmware) cpu (Recorded.fresh chip)
  have hstart : InTime 0 c.clock c.device.fm := ⟨rfl, rfl⟩
  constructor
  · rw [hsteps, ← Recorded.chip_hom.life]
    rfl
  · intro k r hr
    have hin : InTime (spentBefore steps k) r.clock r.bus.device.fm := by
      subst hsteps
      have hcarried := Card.carries_inTime.life hstart events hr
      rwa [Nat.zero_add] at hcarried
    obtain ⟨r', hr'⟩ : ∃ r', r.next = .ok r' := by
      subst hsteps
      have hle : c.clock.cyclesPerSample ≤ 737 := cyclesPerSample_le config.sampleRate
      exact Card.life_settles hle hcosts r (List.mem_of_getElem? hr)
    have hafter := Run.next_inTime hin hr'
    rw [← Run.spentBefore_concat hr] at hafter
    refine ⟨⟨r', hr', ?_, hafter.kept⟩, hin.kept.fits⟩
    rw [hafter.counted, SampleClock.microsAfter_eq]

/-- A step of 100 T-states takes 16 microseconds and 56 59ths of another. -/
theorem time_base_is_exact_scripted :
    let cpu : ScriptedCpu := { costs := #[100] }
    let c : Card ScriptedCpu (Recorded LevelChip) :=
      Card.assemble { sampleRate := 8000 } (some .empty) cpu (Recorded.fresh {})
    let events : List CardEvent := [.render 1, .write 0x2A20 0x55, .render 2]
    let steps := c.life events
    (∀ r ∈ steps, r.cost.toNat + 736 < word32) ∧
    ∃ r r', steps[0]? = some r ∧ r.next = .ok r' ∧
      r'.bus.device.fm.chip.counted = 16 ∧ r'.clock.remainder = 5600000 ∧
      ∀ cycles, r.clock.Fits cycles := by
  intro cpu c events steps
  have hcosts : ∀ r ∈ steps, r.cost.toNat + 736 < word32 :=
    Card.life_cost_single (P := fun cost => cost.toNat + 736 < word32) rfl rfl (by decide)
      (by decide) (by decide) events
  let first := c.starting (Memory.ofFirmware .empty) 1
  have hcost : first.cost = 100 := by decide +kernel
  have hcycles : c.clock.cyclesPerSample = 737 := by decide +kernel
  have ho := c.opening_of_lt (Memory.ofFirmware .empty) (by decide : 2 * 1 < word64)
    (by rw [hcycles]; decide)
  have hpos : (0 : Int) < c.clock.cyclesPerSample * (1 : Nat) := by rw [hcycles]; decide
  have hfirst : steps[0]? = some first := by
    have hblock : (c.stepsOf (.render 1))[0]? = some first := by
      rw [Card.stepsOf, Card.steps_of_opening rfl ho]
      exact Run.steps_head hpos first
    have hlt := (List.getElem?_eq_some_iff.1 hblock).1
    exact (List.getElem?_append_left hlt).trans hblock
  have hspent : spentBefore steps 1 = 100 := by
    rw [Run.spentBefore_concat hfirst, Run.spentBefore_zero, hcost]
    rfl
  obtain ⟨⟨r', hr', hcounted, hremainder⟩, hfits⟩ :=
    (time_base_is_exact { sampleRate := 8000 } .empty cpu ({} : LevelChip) events rfl hcosts).2
      0 first hfirst
  rw [hspent] at hcounted hremainder
  exact ⟨hcosts, first, r', hfirst, hr', hcounted, hremainder, hfits⟩

end FeatureCard
