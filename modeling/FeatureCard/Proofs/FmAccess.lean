import FeatureCard.Card.Render
import FeatureCard.Proofs.Bus
import FeatureCard.Proofs.Device

/-!
# Who reaches the FM port

Of all events only the processor's writes to two ports reach the FM port: one latches an address,
the other sends data.
-/

namespace FeatureCard

open Fm (FmChip FmPort)

namespace Device

variable {χ : Type}

theorem control_fm (d : Device χ) (side : Side) (word : UInt8) :
    (d.control side word).1.fm = d.fm := by
  unfold control
  cases ControlWord.decode side word with
  | mode value supported => cases supported <;> rfl
  | set flag on => rfl
  | unmapped field => rfl

variable [FmChip χ]

theorem cardRead_fm (d : Device χ) (port : UInt8) : (d.cardRead port).2.1.fm = d.fm := by
  unfold cardRead answerCard
  cases PortMap.CardRead.ofPort port <;> rfl

theorem cardWrite_fm (d : Device χ) (port value : UInt8) :
    (d.cardWrite port value).1.fm = d.fm ∨
      (d.cardWrite port value).1.fm = d.fm.writeAddress value ∨
      (d.cardWrite port value).1.fm = (d.fm.writeData value).1 := by
  unfold cardWrite acceptCard
  cases PortMap.CardWrite.ofPort port with
  | fmAddress => exact .inr (.inl rfl)
  | fmData => exact .inr (.inr rfl)
  | midi odd | putCardToHost | unmapped => exact .inl rfl
  | piuControl => exact .inl (d.control_fm .card value)

omit [FmChip χ] in
theorem hostRead_fm (d : Device χ) (offset : UInt8) : (d.hostRead offset).2.1.fm = d.fm := by
  unfold hostRead answerHost
  cases PortMap.HostRead.ofOffset offset <;> rfl

omit [FmChip χ] in
theorem hostWrite_fm (d : Device χ) (offset value : UInt8) :
    (d.hostWrite offset value).1.fm = d.fm := by
  unfold hostWrite acceptHost
  cases PortMap.HostWrite.ofOffset offset with
  | piuControl => exact d.control_fm .host value
  | putHostToCard | timer address | timerControl | unmapped => rfl

theorem after_fm (d : Device χ) {e : DeviceEvent} (h : e.byProcessor = false) :
    (d.after e).fm = d.fm := by
  cases e with
  | cardRead port | cardWrite port value => cases h
  | hostRead offset => exact d.hostRead_fm offset
  | hostWrite offset value => exact d.hostWrite_fm offset value
  | timerExpired timer | midi chunk => rfl

end Device

namespace Fm.FmPort

variable {χ : Type} [FmChip χ]

/-- The port after a write to a register of its chip. -/
def put (p : FmPort χ) (register value : UInt8) : FmPort χ :=
  { p with chip := FmChip.write p.chip register value }

theorem writeData_cases (p : FmPort χ) (value : UInt8) :
    (p.writeData value).1 = p ∨ (p.writeData value).1 = p.flush ∨
      ∃ register, (p.writeData value).1 = p.flush.put register value := by
  unfold writeData
  cases p.latch with
  | none => exact .inl rfl
  | some address =>
    cases htarget : targetOf address with
    | none => exact .inr (.inl (by simp only [htarget]))
    | some register => exact .inr (.inr ⟨register, by simp only [htarget, put]⟩)

/-- What the port keeps at an address, at a flush and at a register write after it holds whatever
the processor does. -/
theorem kept_bus {P : FmPort χ → Prop}
    (address : ∀ p value, P p → P (p.writeAddress value))
    (flush : ∀ p, P p → P p.flush)
    (put : ∀ p register value, P p → P (p.flush.put register value)) :
    BusProgram.Kept fun b : CardBus χ => P b.device.fm where
  write _ _ _ h := h
  input b port h := by
    change P (b.device.cardRead port).2.1.fm
    rwa [Device.cardRead_fm]
  output b port value h := by
    change P (b.device.cardWrite port value).1.fm
    rcases b.device.cardWrite_fm port value with hfm | hfm | hfm <;> rw [hfm]
    · exact h
    · exact address _ value h
    · rcases b.device.fm.writeData_cases value with hdata | hdata | ⟨register, hdata⟩ <;> rw [hdata]
      · exact h
      · exact flush _ h
      · exact put _ register value h

end Fm.FmPort

end FeatureCard
