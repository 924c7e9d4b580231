import FeatureCard.Proofs.Byte
import FeatureCard.Proofs.Latching
import FeatureCard.Proofs.OpmSlices

/-!
# The OPM timers and their history

Whatever the chip was told, a timer runs just if its load bit is set, its period is the one that its
registers hold, and nothing but time and its load bit moves its counter. A status bit shows that the
timer ran over while it was enabled and that no word for the control register has cleared the bit
since.
-/

namespace FeatureCard.Fm

open ChipTimer (InRange)

/-! ## Bits of the control register and of the status -/

namespace OpmTimer

def statusMask : OpmTimer → UInt8
  | a => 0x01
  | b => 0x02

/-- The bit of the control register that lets the timer into the status. -/
def enableMask : OpmTimer → UInt8
  | a => 0x04
  | b => 0x08

/-- The bit of the control register that clears the timer's status bit. -/
def resetMask : OpmTimer → UInt8
  | a => 0x10
  | b => 0x20

end OpmTimer

namespace OpmTimers

/-- The event leaves the timer's status bit as it is, or sets it. -/
def KeepsStatus (t : OpmTimer) (e : ChipEvent) : Prop :=
  e ≠ .reset ∧ ∀ value, e = .write controlRegister value → bit value t.resetMask = false

/-- The chip on the card's clock after a history from power-on. -/
def told (history : List ChipEvent) : OpmTimers :=
  (powerOn cardClockHertz).afterAll history

/-- The timer ran over while it was enabled, and nothing after that has cleared its status bit. -/
def RanOver (t : OpmTimer) : List ChipEvent → Prop :=
  Latched
    (fun before e => ∃ micros, e = .count micros ∧ t.runsOver (told before) micros = true ∧
      bit ((told before).register controlRegister) t.enableMask = true)
    (KeepsStatus t)

/-- A timer runs just if its load bit is set. -/
def Governed (c : OpmTimers) : Prop :=
  ∀ t : OpmTimer, (t.counter c).running = bit (c.register controlRegister) t.loadMask

theorem running_applyLoad {t : ChipTimer} {before : Bool} (h : t.running = before) (after : Bool) :
    (applyLoad t before after).running = after := by
  unfold applyLoad
  split
  · rename_i hsame
    rw [h, hsame]
  · cases after <;> rfl

theorem running_advance (t : ChipTimer) (micros : UInt32) :
    (t.advance micros).2.running = t.running := by
  unfold ChipTimer.advance
  split
  · rfl
  · dsimp only
    split <;> rfl

theorem controlRegister_not_mem (t : OpmTimer) : controlRegister ∉ t.countRegisters := by
  cases t <;> decide

theorem register_powerOn (hertz : UInt32) (address : UInt8) :
    (powerOn hertz).register address = 0 :=
  Vector.getElem_replicate address.toNat_lt

theorem Governed.powerOn (hertz : UInt32) : (powerOn hertz).Governed := by
  intro t
  rw [register_powerOn]
  cases t <;> rfl

theorem Governed.after {c : OpmTimers} (h : c.Governed) (e : ChipEvent) : (c.after e).Governed := by
  intro t
  cases e with
  | write register value =>
    change (t.counter (c.writeRegister register value)).running =
      bit ((c.writeRegister register value).register controlRegister) t.loadMask
    by_cases hcontrol : controlRegister = register
    · subst hcontrol
      rw [OpmTimer.counter_writeRegister value (controlRegister_not_mem t), if_pos rfl,
        register_writeRegister, if_pos rfl]
      exact running_applyLoad (h t) _
    · rw [register_writeRegister, if_neg hcontrol, ← h t]
      by_cases hmem : register ∈ t.countRegisters
      · exact (c.counter_writeRegister_of_mem value hmem).2
      · rw [OpmTimer.counter_writeRegister value hmem, if_neg (Ne.symm hcontrol)]
  | count micros =>
    change (t.counter (c.advance micros).2).running = _
    rw [counter_advance, running_advance]
    exact h t
  | reset => exact Governed.powerOn c.clockHertz t

/-- The write leaves timer `t` loaded if it was, and stopped if it was. -/
def KeepsLoad (c : OpmTimers) (t : OpmTimer) (register value : UInt8) : Prop :=
  register = controlRegister →
    bit value t.loadMask = bit (c.register controlRegister) t.loadMask

theorem counter_write_of_keepsLoad {c : OpmTimers} {t : OpmTimer} {register value : UInt8}
    (h : c.KeepsLoad t register value) :
    (t.counter (c.writeRegister register value)).remaining = (t.counter c).remaining ∧
      (t.counter (c.writeRegister register value)).running = (t.counter c).running := by
  by_cases hmem : register ∈ t.countRegisters
  · exact c.counter_writeRegister_of_mem value hmem
  · have hcounter : t.counter (c.writeRegister register value) = t.counter c := by
      rw [OpmTimer.counter_writeRegister value hmem]
      split
      · rename_i hcontrol
        rw [h hcontrol]
        exact if_pos rfl
      · rfl
    rw [hcounter]
    exact ⟨rfl, rfl⟩

end OpmTimers

theorem ChipTimer.Exact.advance_fst {t : ChipTimer} {period rest : Nat} (h : t.Exact period rest)
    (hrange : InRange period rest) (micros : UInt32) :
    (t.advance micros).1 = decide (0 < rest ∧ rest ≤ micros.toNat) := by
  rcases Nat.eq_zero_or_pos rest with rfl | hrest
  · rw [h.advance_stopped]
    simp
  · rw [h.advance hrange.period_pos hrange.period_lt hrest hrange.rest_lt]
    simp [hrest]

namespace OpmTimers

theorem Exact.spared {c : OpmTimers} (h : c.Exact) {t : OpmTimer} {register value : UInt8}
    (hload : c.KeepsLoad t register value) :
    (t.counter (c.writeRegister register value)).remaining = (t.counter c).remaining ∧
      ∀ micros, t.runsOver (c.writeRegister register value) micros = t.runsOver c micros := by
  obtain ⟨hremaining, hrunning⟩ := counter_write_of_keepsLoad hload
  obtain ⟨rest, hrange, hcounter⟩ := h.counter t
  have hwritten : (t.counter (c.writeRegister register value)).Exact
      (t.period (c.writeRegister register value)) rest :=
    ⟨(h.tuned.writeRegister register value).period t, hremaining.trans hcounter.remaining_eq,
      hrunning ▸ hcounter.running_iff⟩
  refine ⟨hremaining, fun micros => ?_⟩
  unfold OpmTimer.runsOver
  rw [hwritten.advance_fst (inRange_of_lt t _ hrange.rest_lt), hcounter.advance_fst hrange]

/-! ## What holds after every history -/

/-- What a timer of the chip owes to the chip's history and to the current registers. -/
structure Follows (history : List ChipEvent) (t : OpmTimer) : Prop where
  running_iff : (t.counter (told history)).running = true ↔
    bit ((told history).register controlRegister) t.loadMask = true
  stopped : (t.counter (told history)).running = false →
    (t.counter (told history)).remaining = 0 ∧
      ∀ micros, t.runsOver (told history) micros = false
  started : (t.counter (told history)).running = true →
    0 < (t.counter (told history)).remaining ∧
      ∃ rest : Nat, (t.counter (told history)).remaining = whole rest ∧
        ∀ micros, t.runsOver (told history) micros = decide (rest ≤ micros.toNat)
  period_eq : (t.counter (told history)).period = whole (t.period (told history))
  spared : ∀ register value, (told history).KeepsLoad t register value →
    (t.counter (told (history ++ [.write register value]))).remaining =
        (t.counter (told history)).remaining ∧
      ∀ micros, t.runsOver (told (history ++ [.write register value])) micros =
        t.runsOver (told history) micros
  flag_iff : (told history).status &&& t.statusMask ≠ 0 ↔ RanOver t history

end OpmTimers

end FeatureCard.Fm
