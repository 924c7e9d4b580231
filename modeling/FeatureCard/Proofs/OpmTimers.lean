import FeatureCard.Fm.OpmTimers
import FeatureCard.Proofs.SampleClock
import FeatureCard.Proofs.WholeDouble

/-!
# The timers of the OPM chip keep time

On the card's clock the periods of both timers are whole microseconds, so nothing is ever rounded. A
timer that was loaded runs over whenever the time since then passes another multiple of its period.
-/

namespace FeatureCard.Fm

/-! ## Down-counters -/

namespace ChipTimer

def periodLimit : Nat := 2 ^ 32

/-- What remains of the period when `passed` microseconds have passed since the counter started. -/
def left (period passed : Nat) : Int := period - (passed % period : Nat)

/-- What remains of `rest` microseconds after `micros` more. The period only counts once the rest is
used up. -/
def restAfter (period rest micros : Nat) : Nat :=
  if micros < rest then rest - micros else period - (micros - rest) % period

/-- A counter in whole microseconds. It runs as long as some remain. -/
structure Exact (period rest : Nat) (t : ChipTimer) : Prop where
  period_eq : t.period = whole period
  remaining_eq : t.remaining = whole rest
  running_iff : t.running = true ↔ 0 < rest

/-- A counter that started `passed` microseconds ago with a period of whole microseconds. -/
structure Counting (period passed : Nat) (t : ChipTimer) : Prop where
  running : t.running = true
  period_eq : t.period = whole period
  remaining_eq : t.remaining = whole (left period passed)

theorem refill_of_pos {n : Int} (hpos : 0 < n) (hn : n.natAbs < exactLimit) (period : Float)
    (fuel : Nat) : refill period fuel (whole n) = whole n := by
  cases fuel with
  | zero => rfl
  | succ fuel => rw [refill, if_neg fun h => Int.not_le.2 hpos ((whole_le_zero hn).1 h)]

theorem refill_eq {period : Nat} (hperiod : period < periodLimit) (fuel : Nat) {overrun : Nat}
    (hoverrun : overrun < periodLimit) (hfuel : overrun < fuel * period) :
    refill (whole period) fuel (whole (-(overrun : Int))) = whole (left period overrun) := by
  have hlimit : periodLimit + periodLimit < exactLimit := by decide
  induction fuel generalizing overrun with
  | zero => omega
  | succ fuel ih =>
    have hle : whole (-(overrun : Int)) ≤ 0 := (whole_le_zero (by omega)).2 (by omega)
    rw [refill, if_pos hle, whole_add (by omega) (by omega) (by omega)]
    by_cases hlast : overrun < period
    · rw [refill_of_pos (by omega) (by omega), left, Nat.mod_eq_of_lt hlast]
      congr 1
      omega
    · have hmod : (overrun - period) % period = overrun % period := by
        rw [← Nat.mod_eq_sub_mod (Nat.le_of_not_lt hlast)]
      have hnext : -(overrun : Int) + period = -((overrun - period : Nat) : Int) := by omega
      have hrest : overrun - period < fuel * period := by
        rw [Nat.succ_mul] at hfuel
        omega
      rw [hnext, ih (by omega) hrest, left, left, hmod]

theorem Exact.advance_stopped {t : ChipTimer} {period : Nat} (h : t.Exact period 0)
    (micros : UInt32) : t.advance micros = (false, t) := by
  have hstopped : t.running = false := by
    apply Bool.eq_false_iff.2
    intro hrunning
    exact Nat.lt_irrefl 0 (h.running_iff.1 hrunning)
  unfold ChipTimer.advance
  rw [hstopped]
  rfl

/-- A counter runs over when no less time passes than remains, and nothing of the rest is lost. -/
theorem Exact.advance {t : ChipTimer} {period rest : Nat} (h : t.Exact period rest)
    (hpos : 0 < period) (hperiod : period < periodLimit) (hrest : 0 < rest)
    (hlimit : rest < periodLimit) (micros : UInt32) :
    t.advance micros =
      (decide (rest ≤ micros.toNat),
        { t with remaining := whole (restAfter period rest micros.toNat) }) := by
  have hexact : periodLimit + periodLimit < exactLimit := by decide
  have hmicros : micros.toNat < periodLimit := micros.toNat_lt
  have hguard : ¬ (!t.running || decide (t.period ≤ 0)) = true := by
    rw [h.running_iff.2 hrest, h.period_eq]
    simp only [Bool.not_true, Bool.false_or, decide_eq_true_eq,
      whole_le_zero (n := period) (by omega)]
    omega
  have hremaining : t.remaining - micros.toFloat = whole ((rest : Int) - micros.toNat) := by
    rw [h.remaining_eq, toFloat_eq_whole, whole_sub (by omega) (by omega) (by omega)]
  have hpositive : 0 < t.remaining - micros.toFloat ↔ micros.toNat < rest := by
    rw [hremaining, zero_lt_whole (by omega)]
    omega
  unfold ChipTimer.advance
  rw [if_neg hguard]
  by_cases hbefore : micros.toNat < rest
  · -- The counter stays above zero.
    have hrestAfter : ((restAfter period rest micros.toNat : Nat) : Int) = rest - micros.toNat := by
      rw [restAfter, if_pos hbefore]
      omega
    have hnot : decide (rest ≤ micros.toNat) = false := decide_eq_false (Nat.not_le.2 hbefore)
    simp only [if_pos (hpositive.2 hbefore)]
    rw [hremaining, hrestAfter, hnot]
  · -- It runs over and is filled up again.
    obtain ⟨overrun, hoverrun⟩ := Nat.exists_eq_add_of_le (Nat.le_of_not_lt hbefore)
    have hmod : overrun % period < period := Nat.mod_lt overrun hpos
    have hover : (rest : Int) - micros.toNat = -(overrun : Int) := by omega
    have hfuel : overrun < refillLimit micros * period := by
      apply Nat.lt_of_lt_of_le _ (Nat.le_mul_of_pos_right _ hpos)
      simp only [refillLimit]
      omega
    have hrestAfter : ((restAfter period rest micros.toNat : Nat) : Int) = left period overrun := by
      rw [restAfter, if_neg hbefore, hoverrun, Nat.add_sub_cancel_left, left]
      omega
    have hyes : decide (rest ≤ micros.toNat) = true := decide_eq_true (Nat.le_of_not_lt hbefore)
    simp only [if_neg (mt hpositive.1 hbefore)]
    rw [hremaining, hover, h.period_eq, refill_eq hperiod _ (by omega) hfuel, hrestAfter, hyes]

theorem Counting.start {t : ChipTimer} {period : Nat} (h : t.period = whole period) :
    t.start.Counting period 0 := by
  refine ⟨rfl, h, ?_⟩
  rw [left, Nat.zero_mod]
  exact h

theorem Counting.exact {t : ChipTimer} {period passed : Nat} (h : t.Counting period passed)
    (hpos : 0 < period) : t.Exact period (period - passed % period) := by
  have hrest : passed % period < period := Nat.mod_lt passed hpos
  have hleft : left period passed = ((period - passed % period : Nat) : Int) := by
    rw [left]
    omega
  exact ⟨h.period_eq, hleft ▸ h.remaining_eq, iff_of_true h.running (by omega)⟩

theorem Counting.advance {t : ChipTimer} {period passed : Nat} (h : t.Counting period passed)
    (hpos : 0 < period) (hperiod : period < periodLimit) (micros : UInt32) :
    ((t.advance micros).1 = true ↔ passed / period < (passed + micros.toNat) / period) ∧
      (t.advance micros).2.Counting period (passed + micros.toNat) := by
  have hrest : passed % period < period := Nat.mod_lt passed hpos
  have hdiv := add_div_of_mod hpos passed micros.toNat
  have hmod := Nat.mod_add_mod passed period micros.toNat
  have hadvance := (h.exact hpos).advance hpos hperiod (by omega) (by omega) micros
  have hover : period - passed % period ≤ micros.toNat ↔
      0 < (passed % period + micros.toNat) / period := by
    rw [Nat.div_pos_iff]
    omega
  have hafter : ((restAfter period (period - passed % period) micros.toNat : Nat) : Int) =
      left period (passed + micros.toNat) := by
    rw [left, ← hmod, restAfter]
    split
    · rw [Nat.mod_eq_of_lt (a := passed % period + micros.toNat) (by omega)]
      omega
    · have hsame : micros.toNat - (period - passed % period) =
          passed % period + micros.toNat - period := by omega
      have hlt := Nat.mod_lt (passed % period + micros.toNat - period) hpos
      rw [hsame, Nat.mod_eq_sub_mod (a := passed % period + micros.toNat) (by omega)]
      omega
  rw [hadvance]
  refine ⟨?_, h.running, h.period_eq, congrArg whole hafter⟩
  rw [decide_eq_true_iff, hover, hdiv]
  omega

theorem advance_period (t : ChipTimer) (micros : UInt32) :
    (t.advance micros).2.period = t.period := by
  unfold ChipTimer.advance
  split
  · rfl
  · dsimp only
    split <;> rfl

end ChipTimer

/-! ## The two timers of a chip -/

inductive OpmTimer where
  | a
  | b
  deriving DecidableEq, Repr

namespace OpmTimer

def loadMask : OpmTimer → UInt8
  | a => 0x01
  | b => 0x02

def countRegisters : OpmTimer → List UInt8
  | a => [0x10, 0x11]
  | b => [0x12]

def counter (t : OpmTimer) (c : OpmTimers) : ChipTimer :=
  match t with
  | a => c.timerA
  | b => c.timerB

/-- The timer's period in microseconds, by its registers, on the card's clock. -/
def period (t : OpmTimer) (c : OpmTimers) : Nat :=
  match t with
  | a => 16 * (1024 - c.countA)
  | b => 256 * (256 - c.countB)

def runsOver (t : OpmTimer) (c : OpmTimers) (micros : UInt32) : Bool :=
  ((t.counter c).advance micros).1

theorem period_bounds (t : OpmTimer) (c : OpmTimers) :
    0 < t.period c ∧ t.period c < ChipTimer.periodLimit := by
  have hlimit : (65536 : Nat) < ChipTimer.periodLimit := by decide
  have ha : c.countA < 1024 := by
    have := (c.register 0x10).toNat_lt
    unfold OpmTimers.countA
    omega
  have hb : c.countB < 256 := (c.register 0x12).toNat_lt
  cases t <;> simp only [period] <;> omega

end OpmTimer

namespace OpmTimers

theorem micros_eq {c : OpmTimers} (hclock : c.clockHertz = cardClockHertz) {scale ticks : Nat}
    (hscale : 0 < scale) (hticks : 0 < ticks) (hle : scale * ticks ≤ 65536) :
    c.micros (whole (4 * scale : Nat)) ticks = whole (scale * ticks : Nat) := by
  have hpos : 0 < scale * ticks := Nat.mul_pos hscale hticks
  have hfour : 0 < 4 * scale := Nat.mul_pos (by decide) hscale
  have hcount : ticks.toUInt32.toNat = ticks := by
    have hsmall : ticks ≤ 65536 := Nat.le_trans (Nat.le_mul_of_pos_left ticks hscale) hle
    exact UInt32.toNat_ofNat_of_lt' (Nat.lt_of_le_of_lt hsmall (by decide))
  have hmillion : (1000000.0 : Float) = whole (1000000 : Nat) := by decide +kernel
  have hproduct : 4 * scale * ticks * 1000000 = scale * ticks * 4000000 := by
    rw [Nat.mul_assoc 4, Nat.mul_comm 4, Nat.mul_assoc]
  have hexact : scale * ticks * 4000000 < exactLimit :=
    Nat.lt_of_le_of_lt (Nat.mul_le_mul_right 4000000 hle) (by decide)
  have hscaled : 4 * scale * ticks * 1000000 < exactLimit := by rwa [hproduct]
  have hsmall : 4 * scale * ticks < exactLimit :=
    Nat.lt_of_le_of_lt (Nat.le_mul_of_pos_right _ (by decide)) hscaled
  unfold micros
  rw [hclock, hmillion, toFloat_eq_whole, toFloat_eq_whole, hcount, whole_mul hfour hticks hsmall,
    whole_mul (Nat.mul_pos hfour hticks) (by decide) hscaled, hproduct]
  exact whole_div (b := 4000000) hpos (by decide) hexact

/-! ## Register writes -/

theorem register_store (c : OpmTimers) (address value other : UInt8) :
    (c.store address value).register other =
      if other = address then value else c.register other := by
  unfold register store
  refine (Vector.getElem_set address.toNat_lt other.toNat_lt).trans ?_
  by_cases h : address.toNat = other.toNat
  · rw [if_pos h, if_pos (UInt8.toNat_inj.1 h.symm)]
  · rw [if_neg h, if_neg fun hsame => h (congrArg UInt8.toNat hsame.symm)]
    rfl

theorem register_writeRegister (c : OpmTimers) (address value other : UInt8) :
    (c.writeRegister address value).register other =
      if other = address then value else c.register other := by
  have hcontrol : (if address = controlRegister then c.writeControl value else c).register other =
      c.register other := by
    split <;> rfl
  rw [← hcontrol, ← register_store]
  unfold writeRegister
  dsimp only
  split
  · rfl
  · split <;> rfl

end OpmTimers

namespace OpmTimer

open OpmTimers

theorem period_writeRegister {t : OpmTimer} {c : OpmTimers} {address : UInt8} (value : UInt8)
    (h : address ∉ t.countRegisters) : t.period (c.writeRegister address value) = t.period c := by
  cases t with
  | a =>
    simp only [countRegisters, List.mem_cons, List.not_mem_nil, or_false, not_or] at h
    simp only [period, countA, register_writeRegister, if_neg (Ne.symm h.1), if_neg (Ne.symm h.2)]
  | b =>
    simp only [countRegisters, List.mem_cons, List.not_mem_nil, or_false] at h
    simp only [period, countB, register_writeRegister, if_neg (Ne.symm h)]

theorem counter_writeRegister {t : OpmTimer} {c : OpmTimers} {address : UInt8} (value : UInt8)
    (h : address ∉ t.countRegisters) :
    t.counter (c.writeRegister address value) =
      if address = controlRegister then
        applyLoad (t.counter c) (bit (c.register controlRegister) t.loadMask)
          (bit value t.loadMask)
      else t.counter c := by
  by_cases hcontrol : address = controlRegister
  · subst hcontrol
    cases t <;> rfl
  · unfold writeRegister
    simp only [if_neg hcontrol]
    cases t with
    | a =>
      simp only [countRegisters, List.mem_cons, List.not_mem_nil, or_false] at h
      rw [if_neg h]
      split <;> rfl
    | b =>
      simp only [countRegisters, List.mem_cons, List.not_mem_nil, or_false] at h
      rw [if_neg h]
      split <;> rfl

end OpmTimer

namespace OpmTimers

theorem applyLoad_period (t : ChipTimer) (before after : Bool) :
    (applyLoad t before after).period = t.period := by
  unfold applyLoad
  split
  · rfl
  · split <;> rfl

/-- The periods of the counters are those that the registers hold, on the card's clock. -/
structure Tuned (c : OpmTimers) : Prop where
  clock : c.clockHertz = cardClockHertz
  period : ∀ t : OpmTimer, (t.counter c).period = whole (t.period c)

theorem loadPeriodA_period {c : OpmTimers} (h : c.clockHertz = cardClockHertz) :
    c.loadPeriodA.timerA.period = whole (OpmTimer.a.period c) := by
  have hscale : (64.0 : Float) = whole (4 * 16 : Nat) := by decide +kernel
  have hcount : c.countA < 1024 := by
    have := (c.register 0x10).toNat_lt
    unfold countA
    omega
  have hperiod := micros_eq h (by decide : 0 < 16) (by omega : 0 < 1024 - c.countA) (by omega)
  rwa [← hscale] at hperiod

theorem loadPeriodB_period {c : OpmTimers} (h : c.clockHertz = cardClockHertz) :
    c.loadPeriodB.timerB.period = whole (OpmTimer.b.period c) := by
  have hscale : (1024.0 : Float) = whole (4 * 256 : Nat) := by decide +kernel
  have hcount : c.countB < 256 := (c.register 0x12).toNat_lt
  have hperiod := micros_eq h (by decide : 0 < 256) (by omega : 0 < 256 - c.countB) (by omega)
  rwa [← hscale] at hperiod

theorem Tuned.powerOn : (powerOn cardClockHertz).Tuned where
  clock := rfl
  period t := by
    cases t with
    | a => exact loadPeriodA_period rfl
    | b => exact loadPeriodB_period rfl

theorem counter_of_mem {t : OpmTimer} {c : OpmTimers} (h : c.clockHertz = cardClockHertz)
    {address : UInt8} (value : UInt8) (hmem : address ∈ t.countRegisters) :
    (t.counter (c.writeRegister address value)).period =
      whole (t.period (c.writeRegister address value)) := by
  cases t with
  | a =>
    simp only [OpmTimer.countRegisters, List.mem_cons, List.not_mem_nil, or_false] at hmem
    rcases hmem with rfl | rfl
    · exact loadPeriodA_period (c := c.store 0x10 value) h
    · exact loadPeriodA_period (c := c.store 0x11 value) h
  | b =>
    obtain rfl := List.mem_singleton.1 hmem
    exact loadPeriodB_period (c := c.store 0x12 value) h

theorem clockHertz_writeRegister (c : OpmTimers) (address value : UInt8) :
    (c.writeRegister address value).clockHertz = c.clockHertz := by
  have hcontrol : (if address = controlRegister then c.writeControl value else c).clockHertz =
      c.clockHertz := by
    split <;> rfl
  rw [← hcontrol]
  unfold writeRegister
  dsimp only
  split
  · rfl
  · split <;> rfl

theorem Tuned.writeRegister {c : OpmTimers} (h : c.Tuned) (address value : UInt8) :
    (c.writeRegister address value).Tuned where
  clock := (c.clockHertz_writeRegister address value).trans h.clock
  period t := by
    by_cases hmem : address ∈ t.countRegisters
    · exact counter_of_mem h.clock value hmem
    · have hsame : (t.counter (c.writeRegister address value)).period = (t.counter c).period := by
        rw [OpmTimer.counter_writeRegister value hmem]
        split
        · exact applyLoad_period _ _ _
        · rfl
      rw [hsame, OpmTimer.period_writeRegister value hmem]
      exact h.period t

theorem counter_advance (t : OpmTimer) (c : OpmTimers) (micros : UInt32) :
    t.counter (c.advance micros).2 = ((t.counter c).advance micros).2 := by
  cases t <;> rfl

theorem advance_fst (c : OpmTimers) (micros : UInt32) :
    (c.advance micros).1 = (OpmTimer.a.runsOver c micros || OpmTimer.b.runsOver c micros) := rfl

theorem Tuned.advance {c : OpmTimers} (h : c.Tuned) (micros : UInt32) :
    (c.advance micros).2.Tuned where
  clock := h.clock
  period t := by
    have hperiod : t.period (c.advance micros).2 = t.period c := by cases t <;> rfl
    rw [counter_advance, ChipTimer.advance_period, hperiod]
    exact h.period t

/-! ## A loaded timer -/

/-- The load bit of timer `t` is set, and its counter started `passed` microseconds ago. -/
structure Loaded (c : OpmTimers) (t : OpmTimer) (period passed : Nat) : Prop where
  load : bit (c.register controlRegister) t.loadMask = true
  counting : (t.counter c).Counting period passed

theorem Tuned.load {c : OpmTimers} (h : c.Tuned) {t : OpmTimer} {value : UInt8}
    (hoff : bit (c.register controlRegister) t.loadMask = false)
    (hon : bit value t.loadMask = true) :
    (c.writeRegister controlRegister value).Loaded t (t.period c) 0 := by
  have hmem : controlRegister ∉ t.countRegisters := by cases t <;> decide
  constructor
  case load => rwa [register_writeRegister, if_pos rfl]
  case counting =>
    rw [OpmTimer.counter_writeRegister value hmem, if_pos rfl, hoff, hon]
    exact ChipTimer.Counting.start (h.period t)

theorem Loaded.writeRegister {c : OpmTimers} {t : OpmTimer} {period passed : Nat}
    (h : c.Loaded t period passed) {address value : UInt8} (hcount : address ∉ t.countRegisters)
    (hload : address = controlRegister → bit value t.loadMask = true) :
    (c.writeRegister address value).Loaded t period passed := by
  have hcounter := OpmTimer.counter_writeRegister value hcount (c := c)
  by_cases hcontrol : address = controlRegister
  · subst hcontrol
    rw [if_pos rfl, h.load, hload rfl] at hcounter
    constructor
    case load =>
      rw [register_writeRegister, if_pos rfl]
      exact hload rfl
    case counting => exact hcounter ▸ h.counting
  · rw [if_neg hcontrol] at hcounter
    constructor
    case load =>
      rw [register_writeRegister, if_neg (Ne.symm hcontrol)]
      exact h.load
    case counting => exact hcounter ▸ h.counting

theorem Loaded.advance {c : OpmTimers} {t : OpmTimer} {period passed : Nat}
    (h : c.Loaded t period passed) (hpos : 0 < period) (hlt : period < ChipTimer.periodLimit)
    (micros : UInt32) :
    (t.runsOver c micros = true ↔ passed / period < (passed + micros.toNat) / period) ∧
      (c.advance micros).2.Loaded t period (passed + micros.toNat) := by
  obtain ⟨hover, hcounting⟩ := h.counting.advance hpos hlt micros
  refine ⟨hover, h.load, ?_⟩
  rwa [counter_advance]

/-! ## Runs of register writes -/

def writeAll (c : OpmTimers) (writes : List (UInt8 × UInt8)) : OpmTimers :=
  writes.foldl (fun c write => c.writeRegister write.1 write.2) c

theorem writeAll_append (c : OpmTimers) (first second : List (UInt8 × UInt8)) :
    c.writeAll (first ++ second) = (c.writeAll first).writeAll second := List.foldl_append

theorem Tuned.writeAll {c : OpmTimers} (h : c.Tuned) (writes : List (UInt8 × UInt8)) :
    (c.writeAll writes).Tuned := by
  induction writes generalizing c with
  | nil => exact h
  | cons write writes ih => exact ih (h.writeRegister write.1 write.2)

/-- The writes that leave a loaded timer alone. -/
def Spares (t : OpmTimer) (write : UInt8 × UInt8) : Prop :=
  write.1 ∉ t.countRegisters ∧ (write.1 = controlRegister → bit write.2 t.loadMask = true)

theorem Loaded.writeAll {c : OpmTimers} {t : OpmTimer} {period passed : Nat}
    (h : c.Loaded t period passed) {writes : List (UInt8 × UInt8)}
    (hspare : ∀ write ∈ writes, Spares t write) :
    (c.writeAll writes).Loaded t period passed := by
  induction writes generalizing c with
  | nil => exact h
  | cons write writes ih =>
    obtain ⟨hcount, hload⟩ := hspare write List.mem_cons_self
    exact ih (h.writeRegister hcount hload) fun w hw => hspare w (List.mem_cons_of_mem _ hw)

end OpmTimers

end FeatureCard.Fm
