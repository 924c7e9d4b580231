import FeatureCard.SampleClock

/-!
# The clock loses nothing

Within a block the cursor completes as many frames as fit into the T-states spent, and over a life
the clock hands out as many microseconds.
-/

namespace FeatureCard

theorem cyclesPerSample_le (rate : UInt32) : cyclesPerSample rate ≤ 737 := by
  have hrate : lowestRate ≤ effectiveRate rate := Nat.le_max_right _ _
  calc cyclesPerSample rate ≤ processorHertz / lowestRate :=
        Nat.div_le_div_left hrate (by decide)
    _ = 737 := by decide

theorem add_div_of_mod {q : Nat} (hq : 0 < q) (spent more : Nat) :
    (spent + more) / q = spent / q + (spent % q + more) / q := by
  have hspent : spent + more = spent % q + more + q * (spent / q) := by
    have := Nat.div_add_mod spent q
    omega
  rw [hspent, Nat.add_mul_div_left _ _ hq, Nat.add_comm]

namespace FrameCursor

/-- The cursor of a block in which `spent` T-states were spent. -/
def reached (q spent : Nat) : FrameCursor where
  cyclesPerSample := q
  accumulated := spent % q

theorem advance_reached {q : Nat} (hq : 0 < q) (hle : q ≤ 737) (spent : Nat) {cost : UInt32}
    (hcost : cost.toNat + 736 < word32) :
    (reached q spent).advance cost =
      .ok ((spent % q + cost.toNat) / q, reached q (spent + cost.toNat)) := by
  have hmod : (spent + cost.toNat) % q = (spent % q + cost.toNat) % q :=
    (Nat.mod_add_mod spent q cost.toNat).symm
  have hsum : spent % q + cost.toNat < word32 := by
    have := Nat.mod_lt spent hq
    omega
  unfold advance reached
  simp only [addBelow_of_lt hsum, hmod, bind, Except.bind]
  by_cases hlt : spent % q + cost.toNat < q
  · rw [if_pos hlt, Nat.div_eq_of_lt hlt, Nat.mod_eq_of_lt hlt]
    rfl
  · rw [if_neg hlt, if_neg (Nat.ne_of_gt hq)]
    rfl

end FrameCursor

namespace SampleClock

theorem budget_eq {c : SampleClock} {frames : Nat} (hframes : 2 * frames < word64)
    (hbudget : (c.cyclesPerSample * frames : Int) < signedWord64) :
    c.budget frames = .ok (c.cyclesPerSample * frames) := by
  have hword : Int.bmod frames word64 = frames := by
    refine Int.bmod_eq_of_le_mul_two ?_ ?_ <;> omega
  have hnonneg : (0 : Int) ≤ c.cyclesPerSample * frames :=
    Int.mul_nonneg (Int.natCast_nonneg _) (Int.natCast_nonneg _)
  unfold budget
  rw [hword, mulSigned64_of_mem (Int.le_trans (by decide) hnonneg) hbudget]

-- The cases on the clock keep the kernel from comparing the remainders.
theorem elapsed_fields (c : SampleClock) (cycles : UInt32) :
    (c.elapsed cycles).1 =
        ((cycles.toNat * microsPerSecond + c.remainder) / processorHertz).toUInt32 ∧
      (c.elapsed cycles).2.cyclesPerSample = c.cyclesPerSample ∧
      (c.elapsed cycles).2.remainder =
        (cycles.toNat * microsPerSecond + c.remainder) % processorHertz := by
  cases c
  exact ⟨rfl, rfl, rfl⟩

/-- The microseconds that have passed in full after `spent` T-states. -/
def microsAfter (spent : Nat) : Nat := 10 * spent / 59

theorem microsAfter_eq (spent : Nat) :
    spent * microsPerSecond / processorHertz = microsAfter spent := by
  have hscale : spent * microsPerSecond = 100000 * (10 * spent) := by
    rw [microsPerSecond]
    omega
  rw [hscale, microsAfter, ← Nat.mul_div_mul_left (10 * spent) 59 (by decide : 0 < 100000)]
  rfl

/-- The clock has handed out the microseconds of `spent` T-states and keeps the rest. -/
def Kept (c : SampleClock) (spent : Nat) : Prop :=
  c.remainder = spent * microsPerSecond % processorHertz

theorem Kept.elapsed {c : SampleClock} {spent : Nat} (h : c.Kept spent) (cycles : UInt32) :
    (c.elapsed cycles).1.toNat = microsAfter (spent + cycles.toNat) - microsAfter spent ∧
      (c.elapsed cycles).2.Kept (spent + cycles.toNat) := by
  have hadd := add_div_of_mod (q := processorHertz) (by decide) (spent * microsPerSecond)
    (cycles.toNat * microsPerSecond)
  have hmod := Nat.mod_add_mod (spent * microsPerSecond) processorHertz
    (cycles.toNat * microsPerSecond)
  rw [← Nat.add_mul, ← h, Nat.add_comm c.remainder] at hadd hmod
  rw [microsAfter_eq, microsAfter_eq] at hadd
  obtain ⟨hmicros, -, hremainder⟩ := c.elapsed_fields cycles
  constructor
  · have hsmall :
        (cycles.toNat * microsPerSecond + c.remainder) / processorHertz < UInt32.size := by
      have hrem : c.remainder < processorHertz := h ▸ Nat.mod_lt _ (by decide)
      have hcycles := cycles.toNat_lt
      refine (Nat.div_lt_iff_lt_mul (by decide)).2 ?_
      simp only [microsPerSecond, processorHertz, UInt32.size] at hrem ⊢
      omega
    rw [hmicros, Nat.toUInt32_eq, UInt32.toNat_ofNat_of_lt' hsmall, hadd, Nat.add_sub_cancel_left]
  · rw [Kept, hremainder, hmod]

end SampleClock

end FeatureCard
