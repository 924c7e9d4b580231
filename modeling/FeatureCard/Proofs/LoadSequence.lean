import Mathlib.Data.List.DropRight
import FeatureCard.Proofs.Latching
import FeatureCard.Proofs.TimerBlock

/-!
# How a count is loaded

A control word stops the timer of its counter and opens a load. The load is complete with the second
byte after the word for low-then-high access, else with the first. A counter without a control word
takes three bytes. No later byte completes a load again. A byte that completes one starts the timer
if all other counters of the timer have theirs.
-/

namespace FeatureCard

/-! ## The history of a counter -/

/-- A write to the block. Of the address only the low two bits count. -/
structure TimerWrite where
  address : UInt8
  value : UInt8
  deriving DecidableEq, Repr

namespace TimerWrite

def byteFor? (i : Fin 3) (w : TimerWrite) : Option UInt8 :=
  if (w.address &&& 3).toNat = i then some w.value else none

def wordFor? (i : Fin 3) (w : TimerWrite) : Option UInt8 :=
  if w.address &&& 3 = 3 ∧ (w.value >>> 6).toNat = i then some w.value else none

end TimerWrite

open TimerWrite (byteFor? wordFor?)

/-- The bytes for counter `i` since its latest control word. -/
def bytesSince (i : Fin 3) (history : List TimerWrite) : List UInt8 :=
  (history.rtakeWhile fun w => (wordFor? i w).isNone).filterMap (byteFor? i)

/-- The access that a counter has after this control word, if there was one. -/
def accessAfter (word? : Option UInt8) : Access := word?.elim .latchCount .ofControl

/-- How many bytes make a count. -/
def bytesNeeded : Option UInt8 → Nat
  | none => 3
  | some word => if Access.ofControl word = .lowThenHigh then 2 else 1

/-- The write is the last byte of a count for counter `i`. -/
def Completes (history : List TimerWrite) (w : TimerWrite) (i : Fin 3) : Prop :=
  (byteFor? i w).isSome = true ∧
    (bytesSince i history).length + 1 = bytesNeeded (latest? (wordFor? i) history)

/-- A byte is the high one of the latch, `before` bytes having come since the control word. -/
def goesHigh (access : Access) (before : Nat) : Bool :=
  match access with
  | .latchCount | .lowByte => false
  | .highByte => true
  | .lowThenHigh => before == 1 || (decide (2 ≤ before) && before % 2 == 0)

theorem bytesNeeded_bounds (word? : Option UInt8) :
    1 ≤ bytesNeeded word? ∧ bytesNeeded word? ≤ 3 := by
  unfold bytesNeeded
  split
  · decide
  · split <;> decide

theorem bytesNeeded_of_both {word? : Option UInt8} (h : accessAfter word? = .lowThenHigh) :
    bytesNeeded word? = 2 := by
  -- Only a control word leads to this access.
  cases word? with
  | none => cases h
  | some word => exact if_pos h

namespace Counter

theorem toNat_withHigh (latch : UInt16) (value : UInt8) :
    (withHigh latch value).toNat = 256 * value.toNat + latch.toNat % 256 := by
  have hvalue := value.toNat_lt
  have hshift : value.toNat <<< 8 % 2 ^ 16 = value.toNat <<< 8 := by
    rw [Nat.shiftLeft_eq]
    omega
  have hlow : latch.toNat &&& 0xFF = latch.toNat % 2 ^ 8 := Nat.and_two_pow_sub_one_eq_mod _ 8
  unfold withHigh
  rw [UInt16.toNat_or, UInt16.toNat_and, UInt16.toNat_shiftLeft, UInt8.toNat_toUInt16]
  change latch.toNat &&& 0xFF ||| value.toNat <<< 8 % 2 ^ 16 = _
  rw [hshift, hlow, Nat.or_comm,
    ← Nat.shiftLeft_add_eq_or_of_lt (Nat.mod_lt _ (Nat.two_pow_pos 8)), Nat.shiftLeft_eq]
  omega

theorem toNat_withLow (latch : UInt16) (value : UInt8) :
    (withLow latch value).toNat = 256 * (latch.toNat / 256) + value.toNat := by
  have hlatch := latch.toNat_lt
  have hhigh : latch.toNat &&& 0xFF00 = (latch.toNat / 256) <<< 8 := by
    have hquotient : (latch.toNat &&& 0xFF00) / 2 ^ 8 = latch.toNat / 256 := by
      rw [Nat.and_div_two_pow]
      change latch.toNat / 256 &&& 2 ^ 8 - 1 = _
      rw [Nat.and_two_pow_sub_one_eq_mod]
      omega
    have hrest : (latch.toNat &&& 0xFF00) % 2 ^ 8 = 0 := by
      rw [Nat.and_mod_two_pow]
      exact Nat.and_zero _
    rw [Nat.shiftLeft_eq]
    omega
  unfold withLow
  rw [UInt16.toNat_or, UInt16.toNat_and, UInt8.toNat_toUInt16]
  change latch.toNat &&& 0xFF00 ||| value.toNat = _
  rw [hhigh, ← Nat.shiftLeft_add_eq_or_of_lt value.toNat_lt, Nat.shiftLeft_eq]
  omega

/-- The counter after a byte, as a write leaves it. -/
def load (c : Counter) (value : UInt8) : Counter :=
  if (c.merge value).loadState = complete then (c.merge value).park else c.merge value

theorem load_latch (c : Counter) (value : UInt8) :
    (c.load value).latch =
      if c.takesHigh then withHigh c.latch value else withLow c.latch value := by
  unfold load
  split <;> rfl

theorem load_access (c : Counter) (value : UInt8) : (c.load value).access = c.access := by
  unfold load
  split <;> rfl

theorem load_place (c : Counter) (value : UInt8) :
    (c.load value).loadState =
      if (c.merge value).loadState = complete then parked else (c.merge value).loadState := by
  unfold load
  split <;> rfl

/-- The counter as its latest control word and the bytes since then leave it. -/
structure Loading (word? : Option UInt8) (bytes : List UInt8) (c : Counter) : Prop where
  access : c.access = accessAfter word?
  loading : bytes.length < bytesNeeded word? →
    c.loadState = complete - bytesNeeded word? + bytes.length
  loaded : bytesNeeded word? ≤ bytes.length →
    c.loadState = parked + (bytes.length - bytesNeeded word?) % 2
  /-- The first of two bytes is kept as the low one. -/
  first : accessAfter word? = .lowThenHigh → ∀ low, bytes = [low] →
    c.latch.toNat % 256 = low.toNat

theorem Loading.powerOn : Loading none [] {} where
  access := rfl
  loading _ := rfl
  loaded h := absurd h (by decide)
  first := by rintro ⟨⟩

theorem Loading.program (c : Counter) (word : UInt8) :
    Loading (some word) [] (c.program word) := by
  have hmode : ∀ word, Access.ofControl (word &&& 0x3F) = Access.ofControl word :=
    forall_byte (by decide +kernel)
  constructor
  case access => exact hmode word
  case loading =>
    intro _
    unfold Counter.program
    dsimp only
    rw [hmode, bytesNeeded]
    split <;> rfl
  case loaded => exact fun h => absurd h (Nat.not_le.2 (bytesNeeded_bounds _).1)
  case first => rintro - low ⟨⟩

section Bytes

variable {word? : Option UInt8} {bytes : List UInt8} {c : Counter}

theorem Loading.completes_iff (h : c.Loading word? bytes) (value : UInt8) :
    (c.merge value).loadState = complete ↔ bytes.length + 1 = bytesNeeded word? := by
  have hbounds := bytesNeeded_bounds word?
  have hloading := h.loading
  have hloaded := h.loaded
  rw [TimerBlock.merge_complete]
  simp only [complete, parked] at *
  omega

theorem Loading.takesHigh_eq (h : c.Loading word? bytes) :
    c.takesHigh = goesHigh (accessAfter word?) bytes.length := by
  have hloading := h.loading
  have hloaded := h.loaded
  unfold takesHigh goesHigh
  rw [h.access]
  cases haccess : accessAfter word? with
  | latchCount | lowByte | highByte => rfl
  | lowThenHigh =>
    rw [Bool.eq_iff_iff]
    simp only [bytesNeeded_of_both haccess, complete, parked, beq_iff_eq, Bool.or_eq_true,
      Bool.and_eq_true, decide_eq_true_eq] at *
    omega

theorem Loading.toNat_load (h : c.Loading word? bytes) (value : UInt8) :
    (c.load value).latch.toNat =
      if goesHigh (accessAfter word?) bytes.length
        then 256 * value.toNat + c.latch.toNat % 256
        else 256 * (c.latch.toNat / 256) + value.toNat := by
  rw [load_latch, h.takesHigh_eq]
  split
  · exact toNat_withHigh _ value
  · exact toNat_withLow _ value

theorem Loading.load (h : c.Loading word? bytes) (value : UInt8) :
    Loading word? (bytes ++ [value]) (c.load value) := by
  have hbounds := bytesNeeded_bounds word?
  constructor
  case access => rw [load_access, h.access]
  case loading =>
    intro hmore
    rw [List.length_append, List.length_singleton] at hmore ⊢
    have hbefore := h.loading (Nat.lt_of_succ_lt hmore)
    have hnot := mt (h.completes_iff value).1 (Nat.ne_of_lt hmore)
    rw [load_place, if_neg hnot, TimerBlock.merge_loadState, hbefore]
    split <;> simp only [complete, last, parked] at * <;> omega
  case loaded =>
    intro henough
    rw [List.length_append, List.length_singleton] at henough ⊢
    rw [load_place]
    split
    · rename_i hcomplete
      rw [(h.completes_iff value).1 hcomplete, Nat.sub_self]
      rfl
    · rename_i hnot
      have hmore := mt (h.completes_iff value).2 hnot
      have hbefore := h.loaded (by omega)
      rw [TimerBlock.merge_loadState, hbefore]
      split <;> simp only [last, parked] at * <;> omega
  case first =>
    intro haccess low hone
    rw [← List.nil_append [low]] at hone
    obtain ⟨rfl, hlow⟩ := List.append_inj' hone rfl
    obtain rfl := List.singleton_inj.1 hlow
    rw [h.toNat_load, haccess]
    change (256 * (c.latch.toNat / 256) + value.toNat) % 256 = _
    have hvalue := value.toNat_lt
    omega

end Bytes

end Counter

/-! ## The block -/

namespace TimerBlock

/-- Two counters that make timer B together. -/
def Stages (i j : Fin 3) : Prop := i.val ≠ 0 ∧ j.val ≠ 0 ∧ i ≠ j

theorem Stages.timerOf {i j : Fin 3} (h : Stages i j) :
    TimerBlock.timerOf i = .b ∧ TimerBlock.timerOf j = .b ∧
      ∀ k, TimerBlock.timerOf k = .b → k ≠ i → k = j := by
  revert i j
  unfold Stages
  decide

end TimerBlock

end FeatureCard
