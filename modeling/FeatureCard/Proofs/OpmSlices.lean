import FeatureCard.Proofs.OpmTimers

/-!
# The OPM timers do not depend on how time is cut

Whatever the chip was told before, its counters hold whole microseconds, and its periods are whole
too. So it makes no difference whether time passes at once or in two parts: the counters end up at
the same place, and a timer runs over in the whole if it does in one of the parts.
-/

namespace FeatureCard.Fm

/-! ## One counter -/

namespace ChipTimer

theorem restAfter_bounds {period rest : Nat} (hpos : 0 < period) (hperiod : period < periodLimit)
    (hlimit : rest < periodLimit) (micros : Nat) :
    0 < restAfter period rest micros ∧ restAfter period rest micros < periodLimit := by
  unfold restAfter
  have hmod : (micros - rest) % period < period := Nat.mod_lt _ hpos
  split <;> omega

theorem restAfter_add {period rest : Nat} (hpos : 0 < period) (first second : Nat) :
    restAfter period (restAfter period rest first) second =
      restAfter period rest (first + second) := by
  by_cases hfirst : first < rest
  · -- The counter is still on its first rest.
    have hrest : restAfter period rest first = rest - first := if_pos hfirst
    rw [hrest]
    unfold restAfter
    by_cases hsecond : second < rest - first
    · rw [if_pos hsecond, if_pos (by omega)]
      omega
    · rw [if_neg hsecond, if_neg (by omega)]
      congr 2
      omega
  · -- It was filled up `extra` microseconds ago.
    obtain ⟨extra, rfl⟩ := Nat.exists_eq_add_of_le (Nat.le_of_not_lt hfirst)
    have hmod : extra % period < period := Nat.mod_lt extra hpos
    have hrest : restAfter period rest (rest + extra) = period - extra % period := by
      rw [restAfter, if_neg hfirst, Nat.add_sub_cancel_left]
    have hsum : restAfter period rest (rest + extra + second) =
        period - (extra % period + second) % period := by
      rw [restAfter, if_neg (by omega), Nat.add_assoc, Nat.add_sub_cancel_left, Nat.mod_add_mod]
    rw [hrest, hsum]
    unfold restAfter
    by_cases hsecond : second < period - extra % period
    · have hbelow : extra % period + second < period := by omega
      rw [if_pos hsecond, Nat.mod_eq_of_lt hbelow]
      omega
    · have hsame : second - (period - extra % period) = extra % period + second - period := by omega
      rw [if_neg hsecond, hsame, ← Nat.mod_eq_sub_mod (by omega)]

theorem le_add_iff (period rest first second : Nat) :
    rest ≤ first + second ↔ rest ≤ first ∨ restAfter period rest first ≤ second := by
  by_cases hfirst : first < rest
  · have hrest : restAfter period rest first = rest - first := if_pos hfirst
    rw [hrest]
    omega
  · omega

/-- The counter's bounds in microseconds. -/
structure InRange (period rest : Nat) : Prop where
  period_pos : 0 < period
  period_lt : period < periodLimit
  rest_lt : rest < periodLimit

theorem Exact.after {t : ChipTimer} {period rest : Nat} (h : t.Exact period rest)
    (hrange : InRange period rest) (micros : UInt32) :
    ∃ rest', InRange period rest' ∧ (t.advance micros).2.Exact period rest' := by
  rcases Nat.eq_zero_or_pos rest with rfl | hrest
  · rw [h.advance_stopped]
    exact ⟨0, hrange, h⟩
  · obtain ⟨hpos, hlt⟩ :=
      restAfter_bounds hrange.period_pos hrange.period_lt hrange.rest_lt micros.toNat
    rw [h.advance hrange.period_pos hrange.period_lt hrest hrange.rest_lt]
    exact ⟨_, ⟨hrange.period_pos, hrange.period_lt, hlt⟩, h.period_eq, rfl,
      iff_of_true (h.running_iff.2 hrest) hpos⟩

theorem Exact.advance_add {t : ChipTimer} {period rest : Nat} (h : t.Exact period rest)
    (hrange : InRange period rest) {first second : UInt32}
    (hsum : (first + second).toNat = first.toNat + second.toNat) :
    t.advance (first + second) =
      ((t.advance first).1 || ((t.advance first).2.advance second).1,
        ((t.advance first).2.advance second).2) := by
  rcases Nat.eq_zero_or_pos rest with rfl | hrest
  · rw [h.advance_stopped, h.advance_stopped, h.advance_stopped]
    rfl
  · obtain ⟨hpos, hlt⟩ :=
      restAfter_bounds hrange.period_pos hrange.period_lt hrange.rest_lt first.toNat
    have hfirst := h.advance hrange.period_pos hrange.period_lt hrest hrange.rest_lt first
    have hboth := h.advance hrange.period_pos hrange.period_lt hrest hrange.rest_lt (first + second)
    have hthen : ({ t with remaining := whole (restAfter period rest first.toNat) } :
        ChipTimer).Exact period (restAfter period rest first.toNat) :=
      ⟨h.period_eq, rfl, iff_of_true (h.running_iff.2 hrest) hpos⟩
    rw [hboth, hfirst, hthen.advance hrange.period_pos hrange.period_lt hpos hlt second, hsum,
      restAfter_add hrange.period_pos]
    simp only [le_add_iff period rest first.toNat second.toNat, Bool.decide_or]

end ChipTimer

/-! ## The whole chip -/

/-- What a chip is told. -/
inductive ChipEvent where
  | write (register value : UInt8)
  | count (micros : UInt32)
  | reset
  deriving DecidableEq, Repr

namespace OpmTimers

open ChipTimer (InRange periodLimit)

def after (c : OpmTimers) : ChipEvent → OpmTimers
  | .write register value => FmChip.write c register value
  | .count micros => (FmChip.count c micros).2
  | .reset => FmChip.reset c

def afterAll (c : OpmTimers) (events : List ChipEvent) : OpmTimers := events.foldl after c

/-- The registers hold the periods, and both counters are in whole microseconds. -/
structure Exact (c : OpmTimers) : Prop where
  tuned : c.Tuned
  counter : ∀ t : OpmTimer, ∃ rest,
    InRange (t.period c) rest ∧ (t.counter c).Exact (t.period c) rest

theorem inRange_of_lt (t : OpmTimer) (c : OpmTimers) {rest : Nat} (h : rest < periodLimit) :
    InRange (t.period c) rest :=
  ⟨(t.period_bounds c).1, (t.period_bounds c).2, h⟩

/-! ## Every event keeps whole microseconds -/

theorem Exact.powerOn : (OpmTimers.powerOn cardClockHertz).Exact where
  tuned := Tuned.powerOn
  counter t := by
    refine ⟨0, inRange_of_lt t _ (by decide), Tuned.powerOn.period t, ?_, ?_⟩
    · cases t <;> exact zero_eq_whole
    · cases t <;> exact iff_of_false Bool.noConfusion (Nat.lt_irrefl 0)

theorem applyLoad_exact {t : ChipTimer} {period rest : Nat} (h : t.Exact period rest)
    (hrange : InRange period rest) (before after : Bool) :
    ∃ rest', InRange period rest' ∧ (applyLoad t before after).Exact period rest' := by
  unfold applyLoad
  split
  · exact ⟨rest, hrange, h⟩
  · split
    · refine ⟨period, ⟨hrange.period_pos, hrange.period_lt, hrange.period_lt⟩, ?_⟩
      exact ⟨h.period_eq, h.period_eq, iff_of_true rfl hrange.period_pos⟩
    · refine ⟨0, ⟨hrange.period_pos, hrange.period_lt, by decide⟩, h.period_eq, zero_eq_whole, ?_⟩
      exact iff_of_false Bool.noConfusion (Nat.lt_irrefl 0)

theorem counter_writeRegister_of_mem {t : OpmTimer} (c : OpmTimers) {address : UInt8}
    (value : UInt8) (h : address ∈ t.countRegisters) :
    (t.counter (c.writeRegister address value)).remaining = (t.counter c).remaining ∧
      (t.counter (c.writeRegister address value)).running = (t.counter c).running := by
  cases t with
  | a =>
    simp only [OpmTimer.countRegisters, List.mem_cons, List.not_mem_nil, or_false] at h
    rcases h with rfl | rfl <;> exact ⟨rfl, rfl⟩
  | b =>
    obtain rfl := List.mem_singleton.1 h
    exact ⟨rfl, rfl⟩

theorem Exact.writeRegister {c : OpmTimers} (h : c.Exact) (address value : UInt8) :
    (c.writeRegister address value).Exact where
  tuned := h.tuned.writeRegister address value
  counter t := by
    obtain ⟨rest, hrange, hcounter⟩ := h.counter t
    by_cases hmem : address ∈ t.countRegisters
    · obtain ⟨hremaining, hrunning⟩ := c.counter_writeRegister_of_mem value hmem
      refine ⟨rest, inRange_of_lt t _ hrange.rest_lt, ?_⟩
      exact ⟨(h.tuned.writeRegister address value).period t, hremaining.trans hcounter.remaining_eq,
        hrunning ▸ hcounter.running_iff⟩
    · rw [OpmTimer.counter_writeRegister value hmem, OpmTimer.period_writeRegister value hmem]
      split
      · exact applyLoad_exact hcounter hrange _ _
      · exact ⟨rest, hrange, hcounter⟩

theorem Exact.advance {c : OpmTimers} (h : c.Exact) (micros : UInt32) :
    (c.advance micros).2.Exact where
  tuned := h.tuned.advance micros
  counter t := by
    obtain ⟨rest, hrange, hcounter⟩ := h.counter t
    have hperiod : t.period (c.advance micros).2 = t.period c := by cases t <;> rfl
    rw [counter_advance, hperiod]
    exact hcounter.after hrange micros

theorem Exact.after {c : OpmTimers} (h : c.Exact) (e : ChipEvent) : (c.after e).Exact := by
  cases e with
  | write register value => exact h.writeRegister register value
  | count micros => exact h.advance micros
  | reset =>
    have hreset : c.after .reset = OpmTimers.powerOn cardClockHertz :=
      congrArg OpmTimers.powerOn h.tuned.clock
    rw [hreset]
    exact Exact.powerOn

theorem Exact.afterAll {c : OpmTimers} (h : c.Exact) (events : List ChipEvent) :
    (c.afterAll events).Exact := by
  induction events generalizing c with
  | nil => exact h
  | cons e events ih => exact ih (h.after e)

/-! ## Time in two parts -/

/-- A status with the bit `mask` set if the timer `fired`. -/
def flagged (status mask : UInt8) (fired : Bool) : UInt8 :=
  if fired then status ||| mask else status

theorem flagged_flagged (status mask : UInt8) (first second : Bool) :
    flagged (flagged status mask first) mask second = flagged status mask (first || second) := by
  cases first <;> cases second <;> simp [flagged, UInt8.or_assoc]

theorem flagged_comm (status mask mask' : UInt8) (fired fired' : Bool) :
    flagged (flagged status mask fired) mask' fired' =
      flagged (flagged status mask' fired') mask fired := by
  cases fired <;> cases fired' <;> simp [flagged, UInt8.or_assoc, UInt8.or_comm mask]

theorem advance_eq (c : OpmTimers) (micros : UInt32) :
    c.advance micros =
      ((c.timerA.advance micros).1 || (c.timerB.advance micros).1,
        { c with
          timerA := (c.timerA.advance micros).2
          timerB := (c.timerB.advance micros).2
          status :=
            flagged
              (flagged c.status 0x01
                ((c.timerA.advance micros).1 && bit (c.register controlRegister) 0x04))
              0x02 ((c.timerB.advance micros).1 && bit (c.register controlRegister) 0x08) }) := rfl

theorem Exact.advance_add {c : OpmTimers} (h : c.Exact) {first second : UInt32}
    (hsum : (first + second).toNat = first.toNat + second.toNat) :
    c.advance (first + second) =
      ((c.advance first).1 || ((c.advance first).2.advance second).1,
        ((c.advance first).2.advance second).2) := by
  obtain ⟨restA, hrangeA, hcounterA⟩ := h.counter .a
  obtain ⟨restB, hrangeB, hcounterB⟩ := h.counter .b
  have htimerA := hcounterA.advance_add hrangeA hsum
  have htimerB := hcounterB.advance_add hrangeB hsum
  simp only [OpmTimer.counter] at htimerA htimerB
  have hregister : (c.advance first).2.register controlRegister = c.register controlRegister := rfl
  rw [advance_eq, advance_eq (c.advance first).2, hregister, advance_eq c first, htimerA, htimerB]
  simp only [Bool.and_or_distrib_right, ← flagged_flagged]
  rw [flagged_comm (flagged c.status 0x01 _) 0x01 0x02]
  congr 1
  ac_rfl

/-- Whatever the chip on the card's clock was told, its counters are in whole microseconds, and time
that passes in two parts is time that passes at once. -/
theorem time_passes_in_parts (events : List ChipEvent) (first second : UInt32)
    (h : first.toNat + second.toNat < 2 ^ 32) :
    ((OpmTimers.powerOn cardClockHertz).afterAll events).Exact ∧
      ((OpmTimers.powerOn cardClockHertz).afterAll events).advance (first + second) =
        ((((OpmTimers.powerOn cardClockHertz).afterAll events).advance first).1 ||
            ((((OpmTimers.powerOn cardClockHertz).afterAll events).advance first).2.advance
              second).1,
          ((((OpmTimers.powerOn cardClockHertz).afterAll events).advance first).2.advance
            second).2) := by
  have hexact := Exact.powerOn.afterAll events
  have hsum : (first + second).toNat = first.toNat + second.toNat := by
    rw [UInt32.toNat_add, Nat.mod_eq_of_lt h]
  exact ⟨hexact, hexact.advance_add hsum⟩

/-- Timer B with the shortest period, 256 microseconds, runs over in both parts. -/
theorem time_passes_in_parts_of_timer_b :
    let c := (OpmTimers.powerOn cardClockHertz).afterAll [.write 0x12 0xFF, .write 0x14 0x0A]
    (300 : UInt32).toNat + (500 : UInt32).toNat < 2 ^ 32 ∧
      c.advance 800 =
        ((c.advance 300).1 || ((c.advance 300).2.advance 500).1,
          ((c.advance 300).2.advance 500).2) ∧
      (c.advance 300).1 = true ∧ ((c.advance 300).2.advance 500).1 = true ∧
      (c.advance 800).2.status = 0x02 := by
  intro c
  have hsum : (300 : UInt32).toNat + (500 : UInt32).toNat < 2 ^ 32 := by decide
  have hparts := (time_passes_in_parts [.write 0x12 0xFF, .write 0x14 0x0A] 300 500 hsum).2
  refine ⟨hsum, hparts, ?_, ?_, ?_⟩
  · decide +kernel
  · decide +kernel
  · decide +kernel

end OpmTimers

end FeatureCard.Fm
