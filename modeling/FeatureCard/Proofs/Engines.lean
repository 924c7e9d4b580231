import Mathlib.Algebra.GroupWithZero.Nat
import Mathlib.Order.Fin.Basic
import FeatureCard.Proofs.Bus
import FeatureCard.Z80.Processor

/-!
# What is asked of an engine

An engine counts what its instructions cost. Set back to a snapshot in which latches were cleared,
it goes on as the engine that the snapshot was taken from with these latches cleared. The engine of
the card does both.
-/

namespace FeatureCard.Z80

/-! ## Snapshots with cleared latches -/

namespace Snapshot

/-- The places that may be cleared. -/
def latches : List Place := [iff1, iff2, halted]

def clearAll (s : Snapshot) (places : List Place) : Snapshot := places.foldl clear s

theorem acknowledged_eq (s : Snapshot) : s.acknowledged = s.clearAll latches := rfl

theorem byte_clearAll (s : Snapshot) (places : List Place) (other : Place) :
    (s.clearAll places).byte other = if other ∈ places then 0 else s.byte other := by
  induction places generalizing s with
  | nil => rfl
  | cons place places ih =>
    have hclear : s.clearAll (place :: places) = (s.clear place).clearAll places := rfl
    rw [hclear, ih, byte_clear]
    by_cases hother : other = place
    · simp [hother]
    · simp [hother]

theorem getD_eq_byte (s : Snapshot) (place : Place) : s.bytes.getD place 0 = s.byte place := by
  have hplace : place.val < s.bytes.length := Nat.lt_of_lt_of_le place.isLt s.complete
  rw [List.getD_eq_getElem?_getD, List.getElem?_eq_getElem hplace]
  rfl

/-- The bytes of the count. -/
def count (s : Snapshot) : List UInt8 := (s.bytes.drop 37).take 8

theorem count_clear (s : Snapshot) {place : Place} (h : place ∈ latches) :
    (s.clear place).count = s.count := by
  have hplace : place = iff1 ∨ place = iff2 ∨ place = halted := by simpa [latches] using h
  unfold count clear
  rcases hplace with rfl | rfl | rfl
  · rw [List.drop_set_of_lt (by decide)]
  · rw [List.drop_set_of_lt (by decide)]
  · rw [List.drop_set, if_neg (by decide), List.take_set_of_le (by decide)]

theorem count_clearAll (s : Snapshot) {places : List Place} (h : ∀ p ∈ places, p ∈ latches) :
    (s.clearAll places).count = s.count := by
  induction places generalizing s with
  | nil => rfl
  | cons place places ih =>
    have hclear : s.clearAll (place :: places) = (s.clear place).clearAll places := rfl
    rw [hclear, ih _ fun p hp => h p (List.mem_cons_of_mem place hp),
      s.count_clear (h place List.mem_cons_self)]

theorem capture_eq_some {ε : Type} [Engine ε] {engine : ε} {s : Snapshot} :
    capture engine = some s ↔ s.bytes = Engine.serialize engine := by
  unfold capture
  split
  · rw [Option.some.injEq]
    exact ⟨fun h => h ▸ rfl, fun h => by cases s; cases h; rfl⟩
  · rename_i hshort
    refine iff_of_false (by simp) fun h => hshort ?_
    rw [← h]
    exact s.complete

end Snapshot

/-! ## The laws of an engine -/

/-- An engine set back to a snapshot with its count has counted as much as before. -/
def Engine.RestoresCount (ε : Type) [Engine ε] : Prop :=
  ∀ (e e' : ε) (s t : Snapshot), Snapshot.capture e = some s → t.count = s.count →
    Engine.deserialize e t.bytes = some e' → Engine.cycles e' = Engine.cycles e

/-- The count of an engine is the sum of what its instructions cost. -/
structure Engine.Counts (ε : Type) [Engine ε] : Prop where
  fresh : Engine.cycles (Engine.powerOn : ε) = 0
  execute : ∀ {σ : Type} [Bus σ] (e : ε) (s : σ), ∃ cost : UInt32,
    Engine.cycles ((Engine.execute e).run s).1 = Engine.cycles e + cost.toNat
  setSp : ∀ (e : ε) sp, Engine.cycles (Engine.setSp e sp) = Engine.cycles e
  setPc : ∀ (e : ε) pc, Engine.cycles (Engine.setPc e pc) = Engine.cycles e
  restores : Engine.RestoresCount ε

/-- An engine whose latches and mode can be seen from the outside. -/
class Inspected (ε : Type) extends Engine ε where
  iff1 : ε → Bool
  iff2 : ε → Bool
  mode : ε → UInt8
  /-- The instruction just executed enabled interrupts. -/
  justEnabled : ε → Bool

/-- All that can be seen of an engine. -/
structure View where
  register : ByteReg → UInt8
  sp : UInt16
  pc : UInt16
  iff1 : Bool
  iff2 : Bool
  mode : UInt8
  halted : Bool
  justEnabled : Bool
  cycles : Nat

def Inspected.view {ε : Type} [Inspected ε] (e : ε) : View where
  register := Engine.register e
  sp := Engine.sp e
  pc := Engine.pc e
  iff1 := Inspected.iff1 e
  iff2 := Inspected.iff2 e
  mode := Inspected.mode e
  halted := Engine.halted e
  justEnabled := Inspected.justEnabled e
  cycles := Engine.cycles e

/-- The snapshot has the latches and the mode at their places. -/
structure Snapshot.Shows (s : Snapshot) (v : View) : Prop where
  iff1 : v.iff1 = (s.byte Snapshot.iff1 != 0)
  iff2 : v.iff2 = (s.byte Snapshot.iff2 != 0)
  mode : v.mode = s.byte Snapshot.mode
  halted : v.halted = (s.byte Snapshot.halted != 0)
  justEnabled : v.justEnabled = (s.byte Snapshot.justEnabled != 0)

/-- An engine that tells the truth in its snapshots and goes on from them. -/
structure Inspected.Faithful (ε : Type) [Inspected ε] : Prop where
  setSp : ∀ (e : ε) sp, view (Engine.setSp e sp) = { view e with sp }
  setPc : ∀ (e : ε) pc, view (Engine.setPc e pc) = { view e with pc }
  complete : ∀ e : ε, snapshotSize ≤ (Engine.serialize e).length
  shows : ∀ (e : ε) s, Snapshot.capture e = some s → s.Shows (view e)
  /-- What the other bytes hold are the registers. -/
  elsewhere : ∀ (e e' : ε) s s', Snapshot.capture e = some s → Snapshot.capture e' = some s' →
    (∀ place ∉ Snapshot.latches, s'.byte place = s.byte place) →
    Engine.register e' = Engine.register e ∧ Engine.sp e' = Engine.sp e ∧ Engine.pc e' = Engine.pc e
  /-- A snapshot of the engine with latches cleared is accepted, and saved again as it is. -/
  accepts : ∀ (e : ε) s places, Snapshot.capture e = some s → (∀ p ∈ places, p ∈ Snapshot.latches) →
    ∃ e', Engine.deserialize e (s.clearAll places).bytes = some e' ∧
      Snapshot.capture e' = some (s.clearAll places)
  restores : Engine.RestoresCount ε

/-! ## The engine of the card -/

instance : Inspected Core where
  iff1 c := c.state.iff1
  iff2 c := c.state.iff2
  mode c := c.state.mode.toByte
  justEnabled c := c.state.justEnabled

theorem ofLittleEndian_littleEndian (width n : Nat) :
    ofLittleEndian (littleEndian width n) = n % 256 ^ width := by
  induction width generalizing n with
  | zero => exact (Nat.mod_one n).symm
  | succ width ih =>
    have hbyte : n.toUInt8.toNat = n % 256 := rfl
    rw [littleEndian, ofLittleEndian, ih, hbyte, Nat.pow_succ, Nat.mul_comm (256 ^ width) 256,
      Nat.mod_mul]

theorem word_highByte_lowByte (w : UInt16) : word (highByte w) (lowByte w) = w := by
  have hlimit := w.toNat_lt
  have hlow : w.toNat % 2 ^ 8 < 2 ^ 8 := Nat.mod_lt _ (by decide)
  have hhigh : (w.toNat >>> 8 % 2 ^ 8) <<< 8 % 2 ^ 16 = 2 ^ 8 * (w.toNat / 2 ^ 8) := by
    rw [Nat.shiftRight_eq_div_pow, Nat.shiftLeft_eq]
    omega
  apply UInt16.toNat_inj.1
  calc
    (word (highByte w) (lowByte w)).toNat =
        (w.toNat >>> 8 % 2 ^ 8) <<< 8 % 2 ^ 16 ||| w.toNat % 2 ^ 8 := rfl
    _ = 2 ^ 8 * (w.toNat / 2 ^ 8) + w.toNat % 2 ^ 8 := by
      rw [hhigh, Nat.two_pow_add_eq_or_of_lt hlow]
    _ = w.toNat := Nat.div_add_mod _ _

theorem maskIf_one (b : Bool) : (maskIf 1 b != 0) = b := by cases b <;> rfl

theorem InterruptMode.ofByte_toByte (m : InterruptMode) : ofByte m.toByte = m := by cases m <;> rfl

namespace State

theorem ofBytes_toBytes (z : State) (executed : Nat) :
    ofBytes ((z.toBytes executed).getD · 0) = z := by
  calc
    ofBytes ((z.toBytes executed).getD · 0) =
        { z with
          sp := word (highByte z.sp) (lowByte z.sp)
          pc := word (highByte z.pc) (lowByte z.pc)
          iff1 := maskIf 1 z.iff1 != 0
          iff2 := maskIf 1 z.iff2 != 0
          mode := .ofByte z.mode.toByte
          halted := maskIf 1 z.halted != 0
          justEnabled := maskIf 1 z.justEnabled != 0 } := rfl
    _ = z := by
      rw [word_highByte_lowByte, word_highByte_lowByte, maskIf_one, maskIf_one,
        InterruptMode.ofByte_toByte, maskIf_one, maskIf_one]

theorem clearAll_toBytes {s : Snapshot} {z : State} {executed : Nat}
    (hs : s.bytes = z.toBytes executed) {places : List Snapshot.Place}
    (h : ∀ p ∈ places, p ∈ Snapshot.latches) :
    ∃ z' : State, (s.clearAll places).bytes = z'.toBytes executed := by
  induction places generalizing s z with
  | nil => exact ⟨z, hs⟩
  | cons place places ih =>
    have hlater := fun p hp => h p (List.mem_cons_of_mem place hp)
    have hplace : place = Snapshot.iff1 ∨ place = Snapshot.iff2 ∨ place = Snapshot.halted := by
      simpa [Snapshot.latches] using h place List.mem_cons_self
    rcases hplace with rfl | rfl | rfl
    · exact ih (s := s.clear Snapshot.iff1) (z := { z with iff1 := false })
        (congrArg (·.set 34 0) hs) hlater
    · exact ih (s := s.clear Snapshot.iff2) (z := { z with iff2 := false })
        (congrArg (·.set 35 0) hs) hlater
    · exact ih (s := s.clear Snapshot.halted) (z := { z with halted := false })
        (congrArg (·.set 46 0) hs) hlater

theorem sp_ofBytes (bytes : Nat → UInt8) : (ofBytes bytes).sp = word (bytes 10) (bytes 11) := rfl

theorem pc_ofBytes (bytes : Nat → UInt8) : (ofBytes bytes).pc = word (bytes 33) (bytes 32) := rfl

theorem registers_ofBytes {bytes bytes' : Nat → UInt8}
    (h : ∀ k < snapshotSize, k ∉ [34, 35, 46] → bytes' k = bytes k) :
    (ofBytes bytes').register = (ofBytes bytes).register ∧
      (ofBytes bytes').sp = (ofBytes bytes).sp ∧ (ofBytes bytes').pc = (ofBytes bytes).pc := by
  refine ⟨funext fun reg => ?_, ?_, ?_⟩
  · cases reg <;> first | rfl | exact h _ (by decide) (by decide)
  · rw [sp_ofBytes, sp_ofBytes, h 10 (by decide) (by decide), h 11 (by decide) (by decide)]
  · rw [pc_ofBytes, pc_ofBytes, h 33 (by decide) (by decide), h 32 (by decide) (by decide)]

end State

namespace Core

theorem deserialize_toBytes (c : Core) (z : State) :
    c.deserialize (z.toBytes c.executed) = some { c with state := z } := by
  have hcount : ofLittleEndian (((z.toBytes c.executed).drop 37).take 8) =
      c.executed % countLimit := ofLittleEndian_littleEndian 8 c.executed
  have hlength : (z.toBytes c.executed).length = snapshotSize := rfl
  rw [deserialize, if_pos hlength, hcount, Nat.div_add_mod', State.ofBytes_toBytes]

theorem restoresCount : Engine.RestoresCount Core := by
  intro c c' s t hs hcount hread
  have hsaved : s.bytes = c.state.toBytes c.executed := Snapshot.capture_eq_some.1 hs
  have hlow : t.count = littleEndian 8 c.executed := by
    rw [hcount, Snapshot.count, hsaved]
    rfl
  change c.deserialize t.bytes = some c' at hread
  unfold deserialize at hread
  split at hread
  · obtain rfl := Option.some.inj hread
    change c.executed / countLimit * countLimit + ofLittleEndian t.count = c.executed
    rw [hlow, ofLittleEndian_littleEndian]
    exact Nat.div_add_mod' c.executed countLimit
  · cases hread

theorem counts : Engine.Counts Core where
  fresh := rfl
  execute c s := by
    by_cases hhalted : c.state.halted = true
    · refine ⟨0, ?_⟩
      change ((c.execute).run s).1.executed = c.executed
      rw [execute, if_pos hhalted]
      rfl
    · change ∃ cost : UInt32, ((c.execute).run s).1.executed = c.executed + cost.toNat
      rw [execute, if_neg hhalted, BusProgram.run_bind, BusProgram.run_bind]
      exact ⟨_, rfl⟩
  setSp _ _ := rfl
  setPc _ _ := rfl
  restores := restoresCount

theorem faithful : Inspected.Faithful Core where
  setSp _ _ := rfl
  setPc _ _ := rfl
  complete _ := Nat.le_refl snapshotSize
  shows c s hs := by
    obtain ⟨bytes, complete⟩ := s
    obtain rfl := Snapshot.capture_eq_some.1 hs
    exact ⟨(maskIf_one _).symm, (maskIf_one _).symm, rfl, (maskIf_one _).symm, (maskIf_one _).symm⟩
  elsewhere c c' s s' hs hs' hsame := by
    have hbytes : ∀ k < snapshotSize, k ∉ [34, 35, 46] → s'.bytes.getD k 0 = s.bytes.getD k 0 := by
      intro k hk hlatch
      rw [s'.getD_eq_byte ⟨k, hk⟩, s.getD_eq_byte ⟨k, hk⟩]
      exact hsame ⟨k, hk⟩ fun hmem => hlatch (List.mem_map_of_mem (f := Fin.val) hmem)
    have hstate : State.ofBytes (s.bytes.getD · 0) = c.state := by
      rw [Snapshot.capture_eq_some.1 hs]
      exact c.state.ofBytes_toBytes c.executed
    have hstate' : State.ofBytes (s'.bytes.getD · 0) = c'.state := by
      rw [Snapshot.capture_eq_some.1 hs']
      exact c'.state.ofBytes_toBytes c'.executed
    have hregisters := State.registers_ofBytes hbytes
    rwa [hstate, hstate'] at hregisters
  accepts c s places hs hplaces := by
    obtain ⟨z, hz⟩ := State.clearAll_toBytes (Snapshot.capture_eq_some.1 hs) hplaces
    refine ⟨{ c with state := z }, ?_, Snapshot.capture_eq_some.2 hz⟩
    rw [hz]
    exact c.deserialize_toBytes z
  restores := restoresCount

end Core

end FeatureCard.Z80
