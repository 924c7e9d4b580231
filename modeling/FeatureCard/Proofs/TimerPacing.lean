import FeatureCard.Proofs.Carrying
import FeatureCard.Proofs.OpmTimers

/-!
# The firmware's tempo

The steps of a life follow each other as if there were no blocks: the chip, the clock and the
attention line pass from each step to the next. So a timer of the OPM chip that was loaded once runs
over in time, and each time the processor is called to attention.
-/

namespace FeatureCard

open Fm

/-! ## What a step sends to the chip -/

namespace Fm.FmPort

theorem flush_silent (p : FmPort OpmTimers) : p.flush.chip = p.chip := by
  unfold flush
  split <;> rfl

/-- The recorded chip is `start` after the writes that were recorded. -/
def Told (start : OpmTimers) (p : FmPort (Recorded OpmTimers)) : Prop :=
  p.chip.chip = start.writeAll (p.chip.calls.toList.filterMap ChipCall.write?)

theorem Told.flush {start : OpmTimers} {p : FmPort (Recorded OpmTimers)} (h : p.Told start) :
    p.flush.Told start := by
  have hchip : p.flush.chip.chip = p.chip.chip := by
    unfold FmPort.flush
    split <;> rfl
  have hwrites : p.flush.chip.calls.toList.filterMap ChipCall.write? =
      p.chip.calls.toList.filterMap ChipCall.write? := by
    rw [p.flush_calls, List.filterMap_append]
    split <;> exact List.append_nil _
  rw [Told, hchip, hwrites]
  exact h

theorem Told.put {start : OpmTimers} {p : FmPort (Recorded OpmTimers)} (register value : UInt8)
    (h : p.Told start) : (p.flush.put register value).Told start := by
  rw [Told, put_calls, List.filterMap_append, OpmTimers.writeAll_append, ← h.flush]
  rfl

end Fm.FmPort

namespace Run

variable {κ : Type} [Processor κ]

theorem acted_chip (r : Run κ OpmTimers) :
    r.acted.bus.device.fm.chip = r.bus.device.fm.chip.writeAll r.forwarded := by
  have hkept := r.recording.acted_kept
    (FmPort.kept_bus (P := FmPort.Told r.bus.device.fm.chip) (fun _ _ h => h)
      (fun _ h => h.flush) (fun _ register value h => h.put register value)) rfl
  rw [← r.recording_acted]
  exact hkept

end Run

/-! ## From step to step -/

/-- What passes from a step to the next, in the same block or in a later one. -/
structure Carried where
  chip : OpmTimers
  clock : SampleClock
  attention : Bool

namespace Run

variable {κ : Type}

def carried (r : Run κ OpmTimers) : Carried where
  chip := r.bus.device.fm.chip
  clock := r.clock
  attention := r.attention

variable [Processor κ]

def micros (r : Run κ OpmTimers) : UInt32 := (r.clock.elapsed r.cost).1

/-- What the step leaves to the next. -/
def left (r : Run κ OpmTimers) : Carried where
  chip := (r.acted.bus.device.fm.chip.advance r.micros).2
  clock := (r.clock.elapsed r.cost).2
  attention := r.acted.bus.device.attentionLine (r.acted.bus.device.fm.chip.advance r.micros).1

theorem next_carried {r r' : Run κ OpmTimers} (h : r.next = .ok r') : r'.carried = r.left := by
  have hclock := r.acted_clock.1
  obtain ⟨reached, cursor, fm, -, hfm, rfl⟩ := settle_eq_ok h
  obtain ⟨position, rfl⟩ := reach_eq_ok hfm
  simp only [carried, left, micros, settled, counted, FmPort.count, hclock]
  rfl

end Run

/-- Each step begins with what the one before it leaves, the first one with `x`. -/
def Chained {κ : Type} [Processor κ] (x : Carried) : List (Run κ OpmTimers) → Prop
  | [] => True
  | r :: rest => r.carried = x ∧ Chained r.left rest

namespace Card

variable {κ : Type}

def carried (c : Card κ OpmTimers) : Carried where
  chip := c.device.fm.chip
  clock := c.clock
  attention := c.attention

theorem closing_carried (c : Card κ OpmTimers) (r : Run κ OpmTimers) :
    (c.closing r).2.1.carried = r.carried := by
  have hchip := FmPort.flush_silent { r.bus.device.fm with position := r.bus.device.fm.frames }
  simp only [carried, closing, FmPort.finish, hchip, Run.carried]

theorem passes_carried : Card.Passes (κ := κ) (χ := OpmTimers) carried Run.carried where
  event c e he := by
    have hfm := c.device.after_fm he
    simp only [carried, hfm]
  silence c stats := rfl
  opening c memory frames := rfl
  closing c r := c.closing_carried r

variable [Processor κ]

theorem chained_of_linked {x : Carried} {steps : List (Run κ OpmTimers)}
    (h : Linked Run.carried x steps) : Chained x steps := by
  induction steps generalizing x with
  | nil => trivial
  | cons r rest ih =>
    obtain ⟨hr, hrest⟩ := h
    refine ⟨hr, ?_⟩
    cases hn : r.next with
    | error f =>
      simp only [hn] at hrest
      subst hrest
      trivial
    | ok r' =>
      simp only [hn] at hrest
      rw [← Run.next_carried hn]
      exact ih hrest

theorem chained_life (c : Card κ OpmTimers) (events : List CardEvent) :
    Chained c.carried (c.life events) :=
  chained_of_linked (passes_carried.life c events)

end Card

/-! ## Timers over a whole life -/

namespace Run

variable {κ χ : Type} [Processor κ] [FmChip χ] {steps : List (Run κ χ)}

/-- The microseconds that have passed in full before step `k`. -/
def microsBefore (steps : List (Run κ χ)) (k : Nat) : Nat :=
  SampleClock.microsAfter (spentBefore steps k)

theorem microsBefore_mono (steps : List (Run κ χ)) {m n : Nat} (h : m ≤ n) :
    microsBefore steps m ≤ microsBefore steps n := by
  have hspent := spentBefore_mono steps h
  exact Nat.div_le_div_right (Nat.mul_le_mul_left 10 hspent)

end Run

/-- The periods are tuned, and the clock has handed out the time of `spent` T-states. -/
structure Carried.Paced (x : Carried) (spent : Nat) : Prop where
  tuned : x.chip.Tuned
  kept : x.clock.Kept spent

variable {κ : Type} [Processor κ] {x : Carried} {steps : List (Run κ OpmTimers)}

theorem Run.left_paced {r : Run κ OpmTimers} {spent : Nat} (h : r.carried.Paced spent) :
    r.left.Paced (spent + r.cost.toNat) where
  tuned := by
    have hacted := h.tuned.writeAll r.forwarded
    change (r.bus.device.fm.chip.writeAll r.forwarded).Tuned at hacted
    rw [← r.acted_chip] at hacted
    exact hacted.advance r.micros
  kept := (h.kept.elapsed r.cost).2

namespace Chained

open Run (spentBefore spentBefore_concat)

theorem first (h : Chained x steps) {r : Run κ OpmTimers} (hr : steps[0]? = some r) :
    r.carried = x := by
  cases steps with
  | nil => cases hr
  | cons s rest =>
    cases hr
    exact h.1

theorem succ (h : Chained x steps) {k : Nat} {r r' : Run κ OpmTimers} (hr : steps[k]? = some r)
    (hr' : steps[k + 1]? = some r') : r'.carried = r.left := by
  induction steps generalizing x k with
  | nil => cases hr
  | cons s rest ih =>
    cases k with
    | zero =>
      cases hr
      exact h.2.first hr'
    | succ k => exact ih h.2 hr hr'

omit [Processor κ] in
theorem exists_before {k : Nat} {r : Run κ OpmTimers} (hr : steps[k + 1]? = some r) :
    ∃ s, steps[k]? = some s := by
  have hlt := (List.getElem?_eq_some_iff.1 hr).1
  exact ⟨_, List.getElem?_eq_getElem (Nat.lt_of_succ_lt hlt)⟩

theorem paced (h : Chained x steps) (hx : x.Paced 0) {k : Nat} {r : Run κ OpmTimers}
    (hr : steps[k]? = some r) : r.carried.Paced (spentBefore steps k) := by
  induction k generalizing r with
  | zero => exact h.first hr ▸ hx
  | succ k ih =>
    obtain ⟨s, hs⟩ := exists_before hr
    rw [h.succ hs hr, spentBefore_concat hs]
    exact Run.left_paced (ih hs)

end Chained

/-! ## A timer that was loaded once -/

namespace Run

open OpmTimers (controlRegister bit)

def timerRegisters : List UInt8 := [0x10, 0x11, 0x12, controlRegister]

/-- The step's last write to the timers' registers takes the load bit of timer `t` from 0 to 1, and
the period of `t` is `period` microseconds then. -/
def Loads (r : Run κ OpmTimers) (t : OpmTimer) (period : Nat) : Prop :=
  ∃ earlier value later,
    r.forwarded = earlier ++ (controlRegister, value) :: later ∧
    (∀ write ∈ later, write.1 ∉ timerRegisters) ∧
    bit ((r.bus.device.fm.chip.writeAll earlier).register controlRegister) t.loadMask = false ∧
    bit value t.loadMask = true ∧
    t.period (r.bus.device.fm.chip.writeAll earlier) = period

/-- The step neither writes the count of timer `t` nor clears its load bit. -/
def Spares (r : Run κ OpmTimers) (t : OpmTimer) : Prop :=
  ∀ write ∈ r.forwarded, OpmTimers.Spares t write

/-- Timer `t` runs over when the chip hears of the step's time. -/
def Reports (r : Run κ OpmTimers) (t : OpmTimer) : Prop :=
  t.runsOver r.acted.bus.device.fm.chip r.micros = true

theorem Loads.period_bounds {r : Run κ OpmTimers} {t : OpmTimer} {period : Nat}
    (h : r.Loads t period) : 0 < period ∧ period < ChipTimer.periodLimit := by
  obtain ⟨earlier, value, later, -, -, -, -, rfl⟩ := h
  exact t.period_bounds _

theorem Reports.attention {r : Run κ OpmTimers} {t : OpmTimer} (h : r.Reports t) :
    r.left.attention = true := by
  have hevent : (r.acted.bus.device.fm.chip.advance r.micros).1 = true := by
    rw [OpmTimers.advance_fst]
    cases t with
    | a => exact Bool.or_eq_true_iff.2 (.inl h)
    | b => exact Bool.or_eq_true_iff.2 (.inr h)
  simp only [left, hevent, Device.attentionLine, FeatureCard.attention, Bool.true_or]

theorem spares_of_not_mem {t : OpmTimer} {write : UInt8 × UInt8} (h : write.1 ∉ timerRegisters) :
    OpmTimers.Spares t write := by
  simp only [timerRegisters, List.mem_cons, List.not_mem_nil, or_false, not_or] at h
  obtain ⟨hhigh, hlow, hcount, hcontrol⟩ := h
  refine ⟨?_, fun hwrite => absurd hwrite hcontrol⟩
  cases t with
  | a => simp [OpmTimer.countRegisters, hhigh, hlow]
  | b => simp [OpmTimer.countRegisters, hcount]

theorem Loads.loaded {r : Run κ OpmTimers} {t : OpmTimer} {period : Nat} (h : r.Loads t period)
    (htuned : r.carried.chip.Tuned) : r.acted.bus.device.fm.chip.Loaded t period 0 := by
  obtain ⟨earlier, value, later, hwrites, hlater, hoff, hon, rfl⟩ := h
  have hload := (htuned.writeAll earlier).load hoff hon
  rw [r.acted_chip, hwrites, OpmTimers.writeAll_append]
  exact hload.writeAll fun write hwrite => spares_of_not_mem (hlater write hwrite)

end Run

namespace Chained

open Run (spentBefore spentBefore_concat microsBefore microsBefore_mono)
open SampleClock (microsAfter)

theorem microsBefore_succ (h : Chained x steps) (hx : x.Paced 0) {k : Nat} {r : Run κ OpmTimers}
    (hr : steps[k]? = some r) :
    microsBefore steps (k + 1) = microsBefore steps k + r.micros.toNat := by
  have hmicros : r.micros.toNat = _ := ((h.paced hx hr).kept.elapsed r.cost).1
  have hle : microsAfter (spentBefore steps k) ≤
      microsAfter (spentBefore steps k + r.cost.toNat) := by
    simp only [microsAfter]
    omega
  rw [microsBefore, microsBefore, spentBefore_concat hr, hmicros]
  omega

/-- The counter of a loaded timer knows the time since the step that loaded it began. -/
theorem loaded (h : Chained x steps) (hx : x.Paced 0) {t : OpmTimer} {period m : Nat}
    {loading : Run κ OpmTimers} (hm : steps[m]? = some loading) (hload : loading.Loads t period)
    {n : Nat} (hmn : m ≤ n)
    (hspare : ∀ k, m < k → k ≤ n → ∀ r, steps[k]? = some r → r.Spares t) {r : Run κ OpmTimers}
    (hn : steps[n]? = some r) :
    r.acted.bus.device.fm.chip.Loaded t period (microsBefore steps n - microsBefore steps m) := by
  obtain ⟨hpos, hlt⟩ := hload.period_bounds
  induction hmn generalizing r with
  | refl =>
    rw [hm] at hn
    cases hn
    rw [Nat.sub_self]
    exact hload.loaded (h.paced hx hm).tuned
  | step hle ih =>
    rename_i k
    obtain ⟨s, hs⟩ := exists_before hn
    have hbefore := ih (fun j hj hjk => hspare j hj (Nat.le_succ_of_le hjk)) hs
    have hafter := (hbefore.advance hpos hlt s.micros).2
    have hchip : r.bus.device.fm.chip = s.left.chip := congrArg Carried.chip (h.succ hs hn)
    have hmono := microsBefore_mono steps hle
    rw [r.acted_chip, hchip, h.microsBefore_succ hx hs, Nat.sub_add_comm hmono]
    exact hafter.writeAll (hspare (k + 1) (Nat.lt_succ_of_le hle) (Nat.le_refl _) r hn)

end Chained

omit [Processor κ] in
theorem Card.assemble_paced (config : Config) (firmware : Option ByteArray) (cpu : κ)
    {chip : OpmTimers} (hclock : chip.clockHertz = OpmTimers.cardClockHertz) :
    (Card.assemble config firmware cpu chip).carried.Paced 0 := by
  constructor
  case tuned =>
    change (OpmTimers.powerOn chip.clockHertz).Tuned
    rw [hclock]
    exact .powerOn
  case kept => rfl

open Run (microsBefore)

/-- A timer of the chip that was loaded in step `m` runs over whenever another of its periods has
passed since that step began, and then the next step begins with the attention line up. -/
theorem timers_keep_pace (config : Config) (firmware : ByteArray) (cpu : κ) (chip : OpmTimers)
    (hclock : chip.clockHertz = OpmTimers.cardClockHertz) (events : List CardEvent)
    (hsteps : steps = (Card.assemble config (some firmware) cpu chip).life events)
    (hcosts : ∀ r ∈ steps, r.cost.toNat + 736 < word32) {t : OpmTimer} {period m n : Nat}
    {loading r : Run κ OpmTimers} (hmn : m ≤ n) (hm : steps[m]? = some loading)
    (hn : steps[n]? = some r) (hload : loading.Loads t period)
    (hspare : ∀ k, m < k → k ≤ n → ∀ s, steps[k]? = some s → s.Spares t) :
    (t.counter loading.acted.bus.device.fm.chip).period = period.toUInt32.toFloat ∧
    (r.Reports t ↔ (microsBefore steps n - microsBefore steps m) / period <
      (microsBefore steps (n + 1) - microsBefore steps m) / period) ∧
    ∃ r', r.next = .ok r' ∧ (r.Reports t →
      r'.attention = true ∧ ∀ s, steps[n + 1]? = some s → s.attention = true) := by
  let c := Card.assemble config (some firmware) cpu chip
  have hchain : Chained c.carried steps := hsteps ▸ c.chained_life events
  have hstart : c.carried.Paced 0 := Card.assemble_paced config (some firmware) cpu hclock
  obtain ⟨hpos, hlt⟩ := hload.period_bounds
  have hloaded := hchain.loaded hstart hm hload hmn hspare hn
  have hpace := (hloaded.advance hpos hlt r.micros).1
  have hmicros := hchain.microsBefore_succ hstart hn
  have hmono := Run.microsBefore_mono steps hmn
  rw [← Nat.sub_add_comm hmono, ← hmicros] at hpace
  refine ⟨?_, hpace, ?_⟩
  · have hperiod := (hload.loaded (hchain.paced hstart hm).tuned).counting.period_eq
    rw [hperiod, toFloat_eq_whole, Nat.toUInt32_eq, UInt32.toNat_ofNat_of_lt' hlt]
  · obtain ⟨r', hr'⟩ : ∃ r', r.next = .ok r' := by
      have hle : c.clock.cyclesPerSample ≤ 737 := cyclesPerSample_le config.sampleRate
      subst hsteps
      exact Card.life_settles hle hcosts r (List.mem_of_getElem? hn)
    refine ⟨r', hr', fun hreport => ?_⟩
    have hleft := hreport.attention
    refine ⟨?_, fun s hs => ?_⟩
    · rw [← hleft, ← Run.next_carried hr']
      rfl
    · rw [← hleft, ← hchain.succ hn hs]
      rfl

/-- Timer A with a period of 16 microseconds is loaded in the first step. -/
theorem timers_keep_pace_scripted :
    let cpu : ScriptedCpu :=
      { costs := #[100]
        script := [(0, .output 0x00 0x10), (0, .output 0x01 0xFF), (0, .output 0x00 0x11),
          (0, .output 0x01 0x03), (0, .output 0x00 0x14), (0, .output 0x01 0x01)] }
    let c : Card ScriptedCpu OpmTimers :=
      Card.assemble { sampleRate := 8000 } (some .empty) cpu (.powerOn OpmTimers.cardClockHertz)
    let steps := c.life [.render 1]
    ∃ loading r : Run ScriptedCpu OpmTimers, steps[0]? = some loading ∧ steps[1]? = some r ∧
      (∀ s ∈ steps, s.cost.toNat + 736 < word32) ∧ loading.Loads .a 16 ∧ r.Spares .a ∧
      (OpmTimer.a.counter loading.acted.bus.device.fm.chip).period = (16 : Nat).toUInt32.toFloat ∧
      (r.Reports .a ↔ (microsBefore steps 1 - microsBefore steps 0) / 16 <
        (microsBefore steps 2 - microsBefore steps 0) / 16) ∧
      ∃ r', r.next = .ok r' ∧ (r.Reports .a →
        r'.attention = true ∧ ∀ s, steps[2]? = some s → s.attention = true) := by
  intro cpu c steps
  have hlife : steps = c.steps 1 := c.life_singleton (.render 1)
  have hcosts : ∀ s ∈ steps, s.cost.toNat + 736 < word32 := by
    intro s hs
    have hturn (n : Nat) : (ScriptedCpu.turn #[100] n).toNat < 101 := by
      simp [ScriptedCpu.turn, Nat.mod_one]
    have hanswer (n : Nat) : (ScriptedCpu.turn #[0] n).toNat < 101 := by
      simp [ScriptedCpu.turn, Nat.mod_one]
    rw [hlife] at hs
    have := Card.cost_scripted (c := c) (by decide) hturn hanswer 1 s hs
    simp only [word32]
    omega
  let loading := c.starting (Memory.ofFirmware .empty) 1
  have hwrites : loading.forwarded =
      [(0x10, 0xFF), (0x11, 0x03)] ++ (OpmTimers.controlRegister, 0x01) :: [] := by
    decide +kernel
  have hcost : loading.cost = 100 := by decide +kernel
  have hnext : loading.next.toOption.map Run.forwarded = some [] := by decide +kernel
  obtain ⟨r, hr, hquiet⟩ : ∃ r, loading.next = .ok r ∧ r.forwarded = [] := by
    cases hn : loading.next with
    | error f => simp [hn, Except.toOption] at hnext
    | ok r => exact ⟨r, rfl, by simpa [hn, Except.toOption] using hnext⟩
  have hcycles : c.clock.cyclesPerSample = 737 := by decide +kernel
  have hopening : c.opening (Memory.ofFirmware .empty) 1 = .ok (737, loading) := by
    have h := c.opening_of_lt (Memory.ofFirmware .empty) (by decide : 2 * 1 < word64)
      (by rw [hcycles]; decide)
    rwa [hcycles] at h
  have hsteps : steps = loading :: r.steps 637 := by
    rw [hlife, Card.steps_of_opening rfl hopening, Run.steps_of_next (by decide) hr, hcost]
    rfl
  have hfirst : steps[0]? = some loading := by rw [hsteps]; rfl
  have hsecond : steps[1]? = some r := by
    rw [hsteps]
    exact Run.steps_head (by decide) r
  have hloads : loading.Loads .a 16 := by
    refine ⟨[(0x10, 0xFF), (0x11, 0x03)], 0x01, [], hwrites, ?_, ?_, ?_, ?_⟩
    · exact fun write hwrite => absurd hwrite List.not_mem_nil
    all_goals decide +kernel
  have hspares : r.Spares .a := by
    intro write hwrite
    rw [hquiet] at hwrite
    exact absurd hwrite List.not_mem_nil
  refine ⟨loading, r, hfirst, hsecond, hcosts, hloads, hspares, ?_⟩
  have hlater : ∀ k, 0 < k → k ≤ 1 → ∀ s, steps[k]? = some s → s.Spares .a := by
    intro k hlo hhi s hs
    obtain rfl : k = 1 := by omega
    rw [hsecond] at hs
    cases hs
    exact hspares
  exact timers_keep_pace { sampleRate := 8000 } .empty cpu (.powerOn OpmTimers.cardClockHertz) rfl
    [.render 1] rfl hcosts (by decide) hfirst hsecond hloads hlater

end FeatureCard
