import FeatureCard.Proofs.Budget
import FeatureCard.Proofs.GuardedDevices
import FeatureCard.Proofs.Scripted

/-!
# No operation of a card fails

The life of a card with every operation guarded that can fail on a machine. A step keeps the counters
within what the block has granted, so that no guard of a card with a valid configuration stops it:
its life is the plain one.
-/

namespace FeatureCard

open Fm (FmChip GuardedChip Frame)

/-- A difference of signed words. -/
def minusSigned64? (a b : Int) : Option Int :=
  if -signedWord64 ≤ a - b ∧ a - b < signedWord64 then some (a - b) else none

/-! ## Programs on the bus -/

namespace BusProgram

variable {α χ : Type} [FmChip χ] [GuardedChip χ]

def run? (p : BusProgram α) (b : CardBus χ) : Option (α × CardBus χ) :=
  match p with
  | done a => some (a, b)
  | read address next => do
    let v ← b.memory.read? address
    (next v).run? b
  | write address value next => do
    let memory ← b.memory.write? address value
    next.run? { b with memory }
  | input port next => do
    let (v, device, effects) ← b.device.cardRead? port
    (next v).run? { b with device, effects := b.effects ++ effects }
  | output port value next => do
    let (device, effects) ← b.device.cardWrite? port value
    next.run? { b with device, effects := b.effects ++ effects }

omit [GuardedChip χ] in
theorem kept_sound : Kept fun b : CardBus χ => b.device.Sound where
  write _ _ _ h := h
  input _ port h := h.after (.cardRead port)
  output _ port value h := h.after (.cardWrite port value)

theorem run?_eq (p : BusProgram α) {b : CardBus χ} (h : b.device.Sound) :
    p.run? b = some (p.run b) := by
  induction p generalizing b with
  | done a => rfl
  | read address next ih =>
    rw [run?, Memory.read?_eq]
    exact ih _ h
  | write address value next ih =>
    rw [run?, Memory.write?_eq]
    exact ih (kept_sound.write b address value h)
  | input port next ih =>
    rw [run?, Device.cardRead?_eq]
    exact ih _ (kept_sound.input b port h)
  | output port value next ih =>
    rw [run?, Device.cardWrite?_eq h]
    exact ih (kept_sound.output b port value h)

end BusProgram

/-! ## The clock -/

def SampleClock.elapsed? (c : SampleClock) (cycles : UInt32) : Option (UInt32 × SampleClock) := do
  let scaled ← fits? word64 (cycles.toNat * microsPerSecond)
  let total ← fits? word64 (scaled + c.remainder)
  let micros ← over? total processorHertz
  return (micros.toUInt32, { c with remainder := total % processorHertz })

theorem SampleClock.elapsed?_eq {c : SampleClock} (h : c.remainder < processorHertz)
    (cycles : UInt32) : c.elapsed? cycles = some (c.elapsed cycles) := by
  have hcycles := cycles.toNat_lt
  have htotal : cycles.toNat * microsPerSecond + c.remainder < word64 := by
    simp only [processorHertz] at h
    simp only [microsPerSecond, word64]
    omega
  have hscaled : cycles.toNat * microsPerSecond < word64 :=
    Nat.lt_of_le_of_lt (Nat.le_add_right _ _) htotal
  unfold elapsed?
  rw [bind_of_eq (fits?_of_lt hscaled), bind_of_eq (fits?_of_lt htotal),
    bind_of_eq (over?_of_pos (by decide))]
  rfl

/-! ## Steps -/

namespace Run

variable {κ χ : Type} [FmChip χ] [GuardedChip χ]

def settle? (r : Run κ χ) (cost : UInt32) : Option (Run κ χ) := do
  let instructions ← fits? word64 (r.stats.instructions + 1)
  let cycles ← fits? word64 (r.stats.cycles + cost.toNat)
  let (reached, cursor) ← (r.cursor.advance cost).toOption
  let fm ← (reach r.bus.device.fm reached).toOption
  let (micros, clock) ← r.clock.elapsed? cost
  let (event, fm) ← fm.count? micros
  let device := { r.bus.device with fm }
  return { r with
    bus := { r.bus with device }
    clock, cursor
    stats := { r.stats with instructions, cycles }
    attention := device.attentionLine event }

variable [Processor κ]

def offer? (r : Run κ χ) : Option (UInt32 × Run κ χ) :=
  if r.attention then do
    let attentionSteps ← fits? word64 (r.stats.attentionSteps + 1)
    let ((cost, cpu), bus) ← (Processor.interrupt r.cpu).run? r.bus
    let interruptsTaken ← fits? word64 (r.stats.interruptsTaken + if cost = 0 then 0 else 1)
    return (cost, { r with bus, cpu, stats := { r.stats with attentionSteps, interruptsTaken } })
  else some (0, r)

def execute? (r : Run κ χ) : Option (UInt32 × Run κ χ) := do
  let ((cost, cpu), bus) ← (Processor.step r.cpu).run? r.bus
  return (cost, { r with bus, cpu })

def act? (r : Run κ χ) : Option (UInt32 × Run κ χ) := do
  let (cost, r) ← r.offer?
  if cost ≠ 0 then return (cost, r)
  else
    let (cost, r) ← r.execute?
    return (effectiveCost cost, r)

theorem act?_cost_pos {r r' : Run κ χ} {cost : UInt32} (h : r.act? = some (cost, r')) :
    0 < cost.toNat := by
  unfold act? at h
  cases ho : r.offer? with
  | none => simp [ho] at h
  | some offered =>
    simp only [ho, bind, Option.bind] at h
    split at h
    · rename_i hne
      cases h
      exact Nat.pos_of_ne_zero fun h0 => hne (UInt32.toNat_inj.1 h0)
    · cases he : offered.2.execute? with
      | none => simp [he] at h
      | some executed =>
        simp only [he] at h
        cases h
        exact effectiveCost_pos _

def spend? (budget : Int) (r : Run κ χ) : Option (Run κ χ) :=
  if 0 < budget then
    match _h : r.act? with
    | none => none
    | some (cost, r') => do
      let _ ← minusSigned64? budget cost.toNat
      let r'' ← r'.settle? cost
      spend? (budget - cost.toNat) r''
  else some r
termination_by budget.toNat
decreasing_by
  have := act?_cost_pos _h
  omega

omit [Processor κ] in
theorem settle?_eq {r r' : Run κ χ} {cost : UInt32} (h : r.settle cost = .ok r')
    (hclock : r.clock.remainder < processorHertz)
    (hinstructions : r.stats.instructions + 1 < word64)
    (hcycles : r.stats.cycles + cost.toNat < word64) : r.settle? cost = some r' := by
  obtain ⟨reached, cursor, fm, hadvance, hreach, rfl⟩ := settle_eq_ok h
  have hcursor := congrArg Except.toOption hadvance
  have hfm := congrArg Except.toOption hreach
  unfold settle?
  rw [bind_of_eq (fits?_of_lt hinstructions), bind_of_eq (fits?_of_lt hcycles), bind_of_eq hcursor]
  dsimp only
  rw [bind_of_eq hfm, bind_of_eq (SampleClock.elapsed?_eq hclock cost),
    bind_of_eq (Fm.FmPort.count?_eq _ _)]
  rfl

theorem offer?_eq {r : Run κ χ} (h : r.bus.device.Sound)
    (hattention : r.stats.attentionSteps + 1 < word64)
    (htaken : r.stats.interruptsTaken + 1 < word64) : r.offer? = some r.offer := by
  unfold offer? offer
  split
  · have hmore : r.stats.interruptsTaken +
        (if ((Processor.interrupt r.cpu).run r.bus).1.1 = 0 then 0 else 1) < word64 := by
      split <;> omega
    simp only [fits?_of_lt hattention, BusProgram.run?_eq _ h, fits?_of_lt hmore, bind, Option.bind]
    rfl
  · rfl

theorem execute?_eq {r : Run κ χ} (h : r.bus.device.Sound) : r.execute? = some r.execute := by
  unfold execute?
  rw [BusProgram.run?_eq _ h]
  rfl

theorem act?_eq {r : Run κ χ} (h : r.bus.device.Sound)
    (hattention : r.stats.attentionSteps + 1 < word64)
    (htaken : r.stats.interruptsTaken + 1 < word64) : r.act? = some (r.cost, r.acted) := by
  have hoffered : r.offer.2.bus.device.Sound := r.offer_kept BusProgram.kept_sound h
  unfold act? cost acted act
  simp only [offer?_eq h hattention htaken, bind, Option.bind]
  by_cases hc : r.offer.1 = 0
  · simp only [hc, ne_eq, not_true_eq_false, if_false, execute?_eq hoffered]
    rfl
  · simp only [hc, ne_eq, not_false_eq_true, if_true]
    rfl

theorem spend?_of_not_pos {budget : Int} (h : ¬ 0 < budget) (r : Run κ χ) :
    r.spend? budget = some r := by
  rw [spend?, if_neg h]

theorem spend?_of_settle {budget : Int} (h : 0 < budget) {r r' : Run κ χ}
    (hact : r.act? = some (r.cost, r.acted))
    (hfits : -signedWord64 ≤ budget - r.cost.toNat ∧ budget - r.cost.toNat < signedWord64)
    (hsettle : r.acted.settle? r.cost = some r') :
    r.spend? budget = r'.spend? (budget - r.cost.toNat) := by
  rw [spend?, if_pos h]
  split
  · rename_i hnone
    rw [hact] at hnone
    cases hnone
  · rename_i hsome
    rw [hact] at hsome
    cases hsome
    simp only [minusSigned64?, if_pos hfits, hsettle, bind, Option.bind]

/-! ## Blocks -/

/-- A block on time whose counters have kept up with the T-states spent. -/
structure Sound (q length spent : Nat) (r : Run κ χ) : Prop where
  onTime : r.OnTime q length spent
  timers : r.bus.device.timers.Sequenced
  clock : r.clock.remainder < processorHertz
  cycles : r.stats.cycles = spent
  instructions : r.stats.instructions ≤ spent
  attentionSteps : r.stats.attentionSteps ≤ spent
  interruptsTaken : r.stats.interruptsTaken ≤ spent

namespace Sound

variable {q length spent : Nat} {r : Run κ χ}

omit [FmChip χ] [GuardedChip χ] [Processor κ] in
theorem device (h : r.Sound q length spent) (hlength : 2 * length < word64) :
    r.bus.device.Sound := by
  refine ⟨h.timers, h.onTime.rendered, ?_, ?_⟩
  · rw [h.onTime.position, h.onTime.frames]
    exact Nat.min_le_right _ _
  · rw [h.onTime.frames]
    exact hlength

omit [GuardedChip χ] in
theorem next (h : r.Sound q length spent) (hq : 0 < q) (hle : q ≤ 737)
    (hlength : 2 * length < word64) (hcost : r.cost.toNat + 736 < word32) :
    ∃ r', r.next = .ok r' ∧ r'.Sound q length (spent + r.cost.toNat) := by
  obtain ⟨r', hn, honTime, -⟩ := h.onTime.next hq hle hlength hcost
  have hpos := r.cost_pos
  have hacted : r.acted.bus.device.Sound := r.acted_kept BusProgram.kept_sound (h.device hlength)
  have hclock := Run.next_clock hn
  have hstats := next_stats hn
  simp only [RenderStats.after, List.map_cons, List.map_nil, List.sum_cons, List.sum_nil,
    List.length_cons, List.length_nil] at hstats
  refine ⟨r', hn, ?_⟩
  constructor
  case onTime => exact honTime
  case timers =>
    obtain ⟨reached, cursor, fm, -, -, rfl⟩ := settle_eq_ok hn
    exact hacted.timers
  case clock =>
    rw [hclock, (r.clock.elapsed_fields r.cost).2.2]
    exact Nat.mod_lt _ (by decide)
  case cycles =>
    rw [hstats, h.cycles]
    rfl
  case instructions =>
    have := h.instructions
    rw [hstats]
    dsimp only
    omega
  case attentionSteps =>
    have := h.attentionSteps
    have hone : [r].countP (·.attention) ≤ 1 := List.countP_le_length
    rw [hstats]
    dsimp only
    omega
  case interruptsTaken =>
    have := h.interruptsTaken
    have hone : [r].countP (fun r => r.attention && r.answer != 0) ≤ 1 := List.countP_le_length
    rw [hstats]
    dsimp only
    omega

theorem settle? (h : r.Sound q length spent) (hdevice : r.bus.device.Sound)
    (hspent : spent + r.cost.toNat < word64) {r' : Run κ χ} (hn : r.next = .ok r') :
    r.act? = some (r.cost, r.acted) ∧ r.acted.settle? r.cost = some r' := by
  have hpos := r.cost_pos
  have hinstructions := h.instructions
  have hattention := h.attentionSteps
  have htaken := h.interruptsTaken
  refine ⟨act?_eq hdevice (by omega) (by omega), settle?_eq hn ?_ ?_ ?_⟩
  · rw [r.acted_clock.1]
    exact h.clock
  · rw [r.acted_stats, r.offer_stats]
    dsimp only
    omega
  · rw [r.acted_stats, r.offer_stats, ← h.cycles] at *
    exact hspent

theorem spend (hle : q ≤ 737) (hlength : 2 * length < word64)
    (hgranted : (q * length : Int) < signedWord64) (budget : Int) (r : Run κ χ)
    (hbudget : budget = q * length - spent) (h : r.Sound q length spent)
    (hcosts : ∀ s ∈ r.steps budget, s.cost.toNat + 736 < word32) :
    ∃ last spent', r.spend budget = .ok last ∧ r.spend? budget = some last ∧
      last.Sound q length spent' := by
  induction budget, r using Run.steps.induct generalizing spent with
  | case1 budget r hpos ih =>
    -- A frame of no T-states grants no budget, so the block has a step only if `q` is positive.
    have hq : 0 < q := by
      rcases Nat.eq_zero_or_pos q with rfl | hq
      · omega
      · exact hq
    have hcost := hcosts r (List.mem_of_getElem? (steps_head hpos r))
    obtain ⟨r', hn, hsound⟩ := h.next hq hle hlength hcost
    have hspent : spent + r.cost.toNat < word64 := by
      simp only [signedWord64, word32, word64] at *
      omega
    have hfits : -signedWord64 ≤ budget - r.cost.toNat ∧ budget - r.cost.toNat < signedWord64 := by
      simp only [signedWord64, word32] at *
      omega
    have hsettle := h.settle? (h.device hlength) hspent hn
    rw [steps_of_next hpos hn] at hcosts
    obtain ⟨last, spent', hspend, hspend?, hlast⟩ := ih r' (by omega) hsound
      fun s hs => hcosts s (List.mem_cons_of_mem _ hs)
    refine ⟨last, spent', ?_, ?_, hlast⟩
    · rw [spend_of_next hpos hn, hspend]
    · rw [spend?_of_settle hpos hsettle.1 hfits hsettle.2, hspend?]
  | case2 budget r hpos =>
    exact ⟨r, spent, spend_of_not_pos hpos r, spend?_of_not_pos hpos r, h⟩

end Sound

end Run

namespace Card

variable {κ χ : Type}

/-- The devices and the clock are sound, and the window of ports ends within the address space. -/
structure Sound (c : Card κ χ) : Prop where
  device : c.device.Sound
  clock : c.clock.remainder < processorHertz
  cyclesPerSample : c.clock.cyclesPerSample ≤ 737
  room : c.config.basePort.toNat + Config.portCount ≤ 0x10000

variable [FmChip χ]

def read? (c : Card κ χ) (port : UInt16) : Option (UInt8 × Card κ χ × List Effect) :=
  if c.config.decodes port then do
    let offset ← (c.offsetOf port).toOption
    let (value, device, effects) ← c.device.hostRead? offset
    return (value, { c with device }, effects)
  else some (openBus, c, [.note (.hostReadOutside port)])

def write? (c : Card κ χ) (port : UInt16) (value : UInt8) : Option (Card κ χ × List Effect) :=
  if c.config.decodes port then do
    let offset ← (c.offsetOf port).toOption
    let (device, effects) ← c.device.hostWrite? offset value
    return ({ c with device }, effects)
  else some (c, [.note (.hostWriteOutside port)])

def enqueue? (c : Card κ χ) (chunk : List UInt8) : Option (Nat × Card κ χ × List Effect) := do
  let (accepted, device, effects) ← c.device.enqueue? chunk
  return (accepted, { c with device }, effects)

namespace Sound

variable {c : Card κ χ}

theorem assemble {config : Config} (hvalid : config.validate = .ok ())
    (firmware : Option ByteArray) (cpu : κ) (chip : χ) :
    (Card.assemble config firmware cpu chip).Sound := by
  constructor
  case device => exact .powerOn config.irq chip
  case clock => exact Nat.zero_lt_succ _
  case cyclesPerSample => exact cyclesPerSample_le config.sampleRate
  case room => exact Config.room_of_validate hvalid

theorem event (h : c.Sound) (e : DeviceEvent) :
    Card.Sound { c with device := c.device.after e } where
  device := h.device.after e
  clock := h.clock
  cyclesPerSample := h.cyclesPerSample
  room := h.room

theorem read (h : c.Sound) (port : UInt16) :
    ∃ value c' effects, c.read port = .ok (value, c', effects) ∧
      c.read? port = some (value, c', effects) ∧ c'.Sound := by
  by_cases hport : c.config.decodes port = true
  · obtain ⟨offset, hoffset⟩ := offsetOf_of_room h.room hport
    refine ⟨(c.device.hostRead offset).1, { c with device := c.device.after (.hostRead offset) },
      c.device.effectsOf (.hostRead offset), ?_, ?_, h.event _⟩
    · simp only [Card.read, hport, if_true, hoffset]
      rfl
    · simp only [Card.read?, hport, if_true, hoffset, Device.hostRead?_eq]
      rfl
  · refine ⟨openBus, c, [.note (.hostReadOutside port)], ?_, ?_, h⟩
    · exact if_neg hport
    · exact if_neg hport

theorem write (h : c.Sound) (port : UInt16) (value : UInt8) :
    ∃ c' effects, c.write port value = .ok (c', effects) ∧
      c.write? port value = some (c', effects) ∧ c'.Sound := by
  by_cases hport : c.config.decodes port = true
  · obtain ⟨offset, hoffset⟩ := offsetOf_of_room h.room hport
    refine ⟨{ c with device := c.device.after (.hostWrite offset value) },
      c.device.effectsOf (.hostWrite offset value), ?_, ?_, h.event _⟩
    · simp only [Card.write, hport, if_true, hoffset]
      rfl
    · simp only [Card.write?, hport, if_true, hoffset, Device.hostWrite?_eq h.device.timers]
      rfl
  · refine ⟨c, [.note (.hostWriteOutside port)], ?_, ?_, h⟩
    · exact if_neg hport
    · exact if_neg hport

end Sound

variable [GuardedChip χ]

def memory? : Option ByteArray → Option (Option Memory)
  | none => some none
  | some firmware => (Memory.ofFirmware? firmware).map some

def assemble? (config : Config) (firmware : Option ByteArray) (cpu : κ) (chip : χ) :
    Option (Card κ χ) := do
  let cyclesPerSample ← over? processorHertz (effectiveRate config.sampleRate)
  let memory ← memory? firmware
  let device ← Device.powerOn? config.irq chip
  return {
    config, memory, device, cpu
    clock := { rate := effectiveRate config.sampleRate, cyclesPerSample } }

theorem memory?_eq (firmware : Option ByteArray) :
    memory? firmware = some (firmware.map Memory.ofFirmware) := by
  cases firmware with
  | none => rfl
  | some bytes =>
    rw [memory?, Memory.ofFirmware?_eq]
    rfl

theorem assemble?_eq (config : Config) (firmware : Option ByteArray) (cpu : κ) (chip : χ) :
    assemble? config firmware cpu chip = some (assemble config firmware cpu chip) := by
  have hrate : 0 < effectiveRate config.sampleRate :=
    Nat.lt_of_lt_of_le (by decide) (Nat.le_max_right _ _)
  unfold assemble?
  rw [over?_of_pos hrate, memory?_eq, Device.powerOn?_eq]
  rfl

def closing? (c : Card κ χ) (r : Run κ χ) : Option (Array Frame × Card κ χ × List Effect) := do
  let fm ← r.bus.device.fm.finish?
  return (fm.output,
    { c with
      memory := some r.bus.memory
      device := { r.bus.device with fm }
      cpu := r.cpu
      clock := r.clock
      attention := r.attention
      stats := r.stats },
    r.bus.effects.toList)

variable [Processor κ]

def render? (c : Card κ χ) (frames : Nat) : Option (Array Frame × Card κ χ × List Effect) :=
  match c.memory with
  | none => do
    let _ ← fits? word64 (frames * 2)
    return (Array.replicate frames .silence, { c with stats := { frames } }, [])
  | some memory => do
    let (budget, start) ← (c.opening memory frames).toOption
    let r ← start.spend? budget
    c.closing? r

def perform? (c : Card κ χ) : CardEvent → Option (CardAnswer × Card κ χ × List Effect)
  | .read port => do
    let (value, rest) ← c.read? port
    return (.byte value, rest)
  | .write port value => do
    let rest ← c.write? port value
    return (.nothing, rest)
  | .timerExpired timer => some (.nothing, c.timerExpired timer)
  | .midi chunk => do
    let (count, rest) ← c.enqueue? chunk
    return (.accepted count, rest)
  | .render frames => do
    let (output, rest) ← c.render? frames
    return (.sound output, rest)

/-- The card after a life of events, unless an operation failed. -/
def live? (c : Card κ χ) : List CardEvent → Option (Card κ χ)
  | [] => some c
  | e :: events => do
    let (_, c', _) ← c.perform? e
    c'.live? events

variable {c : Card κ χ}

theorem Sound.render (h : c.Sound) {frames : Nat} (hframes : 2 * frames < word64)
    (hbudget : (c.clock.cyclesPerSample * frames : Int) < signedWord64)
    (hcosts : ∀ r ∈ c.steps frames, r.cost.toNat + 736 < word32) :
    ∃ output c' effects, c.render frames = .ok (output, c', effects) ∧
      c.render? frames = some (output, c', effects) ∧ c'.Sound := by
  cases hm : c.memory with
  | none =>
    have hsize : frames * 2 < word64 := by omega
    refine ⟨Array.replicate frames .silence, { c with stats := { frames } }, [],
      render_of_none hm hframes, ?_, ?_⟩
    · unfold render?
      rw [hm, fits?_of_lt hsize]
      rfl
    · exact ⟨h.device, h.clock, h.cyclesPerSample, h.room⟩
  | some memory =>
    have ho := c.opening_of_lt memory hframes hbudget
    have hstart : (c.starting memory frames).Sound c.clock.cyclesPerSample frames 0 :=
      ⟨c.starting_onTime memory frames, h.device.timers, h.clock, rfl, Nat.le_refl _, Nat.le_refl _,
        Nat.le_refl _⟩
    rw [steps_of_opening hm ho] at hcosts
    obtain ⟨last, spent, hspend, hspend?, hlast⟩ :=
      Run.Sound.spend h.cyclesPerSample hframes hbudget _ _ (by simp) hstart hcosts
    have hdevice := hlast.device hframes
    have hrender := render_of_spend hm ho hspend
    have halike : c.Alike (c.closing last).2.1 := Alike.render hrender
    refine ⟨(c.closing last).1, (c.closing last).2.1, (c.closing last).2.2, hrender, ?_, ?_⟩
    · unfold render? closing?
      simp only [hm, ho, Except.toOption, bind, Option.bind, hspend?,
        Fm.FmPort.finish?_eq hdevice.fm]
      rfl
    · constructor
      case device => exact ⟨hdevice.timers, hdevice.fm.finish⟩
      case clock => exact hlast.clock
      case cyclesPerSample => exact halike.cyclesPerSample ▸ h.cyclesPerSample
      case room => exact h.room

theorem Sound.perform (h : c.Sound) (e : CardEvent)
    (hfits : ∀ frames, e = .render frames →
      2 * frames < word64 ∧ (c.clock.cyclesPerSample * frames : Int) < signedWord64)
    (hcosts : ∀ r ∈ c.stepsOf e, r.cost.toNat + 736 < word32) :
    ∃ answer c' effects, c.perform e = .ok (answer, c', effects) ∧
      c.perform? e = some (answer, c', effects) ∧ c'.Sound := by
  cases e with
  | read port =>
    obtain ⟨value, c', effects, hread, hread?, hsound⟩ := h.read port
    refine ⟨.byte value, c', effects, ?_, ?_, hsound⟩
    · rw [Card.perform, hread]
      rfl
    · rw [perform?, hread?]
      rfl
  | write port value =>
    obtain ⟨c', effects, hwrite, hwrite?, hsound⟩ := h.write port value
    refine ⟨.nothing, c', effects, ?_, ?_, hsound⟩
    · rw [Card.perform, hwrite]
      rfl
    · rw [perform?, hwrite?]
      rfl
  | timerExpired timer =>
    exact ⟨.nothing, (c.timerExpired timer).1, (c.timerExpired timer).2, rfl, rfl,
      h.event (.timerExpired timer)⟩
  | midi chunk =>
    refine ⟨.accepted (c.enqueue chunk).1, (c.enqueue chunk).2.1, (c.enqueue chunk).2.2, rfl, ?_,
      h.event (.midi chunk)⟩
    rw [perform?, enqueue?, Device.enqueue?_eq]
    rfl
  | render frames =>
    obtain ⟨hframes, hbudget⟩ := hfits frames rfl
    obtain ⟨output, c', effects, hrender, hrender?, hsound⟩ := h.render hframes hbudget hcosts
    refine ⟨.sound output, c', effects, ?_, ?_, hsound⟩
    · rw [Card.perform, hrender]
      rfl
    · rw [perform?, hrender?]
      rfl

theorem Sound.live (h : c.Sound) (events : List CardEvent)
    (hfits : ∀ frames, .render frames ∈ events →
      2 * frames < word64 ∧ (c.clock.cyclesPerSample * frames : Int) < signedWord64)
    (hcosts : ∀ r ∈ c.life events, r.cost.toNat + 736 < word32) :
    ∃ c', c.live events = .ok c' ∧ c.live? events = some c' := by
  induction events generalizing c with
  | nil => exact ⟨c, rfl, rfl⟩
  | cons e events ih =>
    obtain ⟨answer, c', effects, hp, hp?, hsound⟩ := h.perform e
      (fun frames he => hfits frames (he ▸ List.mem_cons_self))
      fun r hr => hcosts r (List.mem_append_left _ hr)
    have hlater := fun r hr => hcosts r (List.mem_append_right _ hr)
    rw [hp] at hlater
    obtain ⟨last, hlive, hlive?⟩ := ih hsound
      (fun frames hm =>
        (Alike.perform hp).cyclesPerSample ▸ hfits frames (List.mem_cons_of_mem _ hm))
      hlater
    refine ⟨last, live_cons.2 ⟨answer, c', effects, hp, hlive⟩, ?_⟩
    rw [live?, hp?]
    exact hlive?

end Card

/-- With a valid configuration, nothing that a card does fails: no sum, difference or product is too
big for its word, no divisor is zero, and no index is outside of its table. -/
theorem no_operation_fails {κ χ : Type} [Processor κ] [FmChip χ] [GuardedChip χ] (config : Config)
    (hvalid : config.validate = .ok ()) (firmware : Option ByteArray) (cpu : κ) (chip : χ)
    (events : List CardEvent)
    (hfits : ∀ frames, .render frames ∈ events →
      2 * frames < word64 ∧ (config.cyclesPerSample * frames : Int) < signedWord64)
    (hcosts : ∀ r ∈ (Card.assemble config firmware cpu chip).life events,
      r.cost.toNat + 736 < word32) :
    ∃ c, (Card.assemble? config firmware cpu chip).bind (·.live? events) = some c ∧
      (Card.assemble config firmware cpu chip).live events = .ok c := by
  have hsound := Card.Sound.assemble hvalid firmware cpu chip
  obtain ⟨c, hlive, hlive?⟩ := hsound.live events hfits hcosts
  refine ⟨c, ?_, hlive⟩
  rw [Card.assemble?_eq]
  exact hlive?

/-- Three blocks between accesses to the first and the last port, ports outside of the window, a
timer that expires, and more MIDI than the queue can take. -/
theorem no_operation_fails_scripted :
    let config : Config := { sampleRate := 8000 }
    let cpu : ScriptedCpu := { costs := #[100] }
    let chip := Fm.OpmTimers.powerOn 4000000
    let port := config.basePort
    let events : List CardEvent :=
      [.write (port + 15) 0x80, .render 2, .read port, .read (port - 1), .midi (.replicate 100 0xF8),
        .render 0, .timerExpired .a, .write (port + 16) 1, .render 5]
    config.validate = .ok () ∧
    (∀ frames, .render frames ∈ events →
      2 * frames < word64 ∧ (config.cyclesPerSample * frames : Int) < signedWord64) ∧
    (∀ r ∈ (Card.assemble config (some .empty) cpu chip).life events,
      r.cost.toNat + 736 < word32) ∧
    ∃ c, (Card.assemble? config (some .empty) cpu chip).bind (·.live? events) = some c ∧
      (Card.assemble config (some .empty) cpu chip).live events = .ok c := by
  intro config cpu chip port events
  have hcycles : config.cyclesPerSample = 737 := by decide +kernel
  have hfits : ∀ frames, .render frames ∈ events →
      2 * frames < word64 ∧ (config.cyclesPerSample * frames : Int) < signedWord64 := by
    intro frames hrender
    have hblocks : frames = 2 ∨ frames = 0 ∨ frames = 5 := by simpa [events] using hrender
    rw [hcycles]
    rcases hblocks with rfl | rfl | rfl <;> decide
  have hcosts := Card.life_cost_single (c := Card.assemble config (some .empty) cpu chip)
    (P := fun cost => cost.toNat + 736 < word32) rfl rfl (by decide) (by decide) (by decide) events
  exact ⟨rfl, hfits, hcosts,
    no_operation_fails config rfl (some .empty) cpu chip events hfits hcosts⟩

/-- A window that runs over the end of the address space is not valid: it holds port 0, from which
its first port cannot be taken. -/
example :
    (Card.assemble? { basePort := 0xFFF8 } none ({} : ScriptedCpu)
      (Fm.OpmTimers.powerOn 4000000)).bind (·.live? [.read 0]) = none := by
  rfl

end FeatureCard
