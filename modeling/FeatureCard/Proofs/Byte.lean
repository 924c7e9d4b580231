/-!
# Bytes

A statement about all bytes is one about all vectors of eight bits, which can be decided.
-/

namespace FeatureCard

theorem forall_byte {P : UInt8 → Prop} (h : ∀ bits : BitVec 8, P ⟨bits⟩) (b : UInt8) : P b :=
  h b.toBitVec

theorem or_and_cancel_top (b : UInt8) : (b ||| 0x80) &&& 0x80 = 0x80 := by
  revert b
  exact forall_byte (by decide)

end FeatureCard
