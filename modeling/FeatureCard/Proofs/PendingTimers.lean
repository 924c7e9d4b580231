import FeatureCard.Proofs.HostLine
import FeatureCard.Proofs.Latching
import FeatureCard.Proofs.Mailboxes

/-!
# Pending timers and their history

Whether a timer is pending follows from its firings and from the words that the host wrote to the
timer control register. A firing counts if the last word before it enabled the timer, and it counts
until a word leaves the timer's acknowledge bit out. The status register shows the pending bits as
they are.
-/

namespace FeatureCard

open Fm (FmChip)
open HostInterrupt (enableBit)
open PortMap

/-! ## Words of the timer control register -/

def DeviceEvent.tcrWord? : DeviceEvent → Option UInt8
  | .hostWrite offset value =>
    if 8 ≤ offset &&& 0x0F ∧ offset &&& 0x0F ≤ 11 then some value else none
  | _ => none

theorem ofOffset_timerControl (offset : UInt8) :
    HostWrite.ofOffset offset = .timerControl ↔ 8 ≤ offset &&& 0x0F ∧ offset &&& 0x0F ≤ 11 := by
  revert offset
  exact forall_byte (by decide +kernel)

/-- The interrupt line after an event, but for the level that the host is told. -/
def HostInterrupt.react (h : HostInterrupt) (e : DeviceEvent) : HostInterrupt :=
  match e with
  | .timerExpired timer => (h.fire timer).2
  | .hostWrite offset value =>
    if 8 ≤ offset &&& 0x0F ∧ offset &&& 0x0F ≤ 11 then h.writeControl value else h
  | .cardRead _ | .cardWrite _ _ | .hostRead _ | .midi _ => h

namespace Device

variable {χ : Type}

theorem control_interrupt (d : Device χ) (side : Side) (word : UInt8) :
    (d.control side word).1.interrupt.tcr = d.interrupt.tcr ∧
      (d.control side word).1.interrupt.pending = d.interrupt.pending := by
  unfold control
  cases ControlWord.decode side word with
  | mode value supported => cases supported <;> exact ⟨rfl, rfl⟩
  | set flag on => exact ⟨rfl, rfl⟩
  | unmapped field => exact ⟨rfl, rfl⟩

variable [FmChip χ]

theorem after_interrupt (d : Device χ) (e : DeviceEvent) :
    (d.after e).interrupt.tcr = (d.interrupt.react e).tcr ∧
      (d.after e).interrupt.pending = (d.interrupt.react e).pending := by
  cases e with
  | cardRead port =>
    simp only [after, perform, cardRead, answerCard, HostInterrupt.react]
    cases CardRead.ofPort port <;> exact ⟨rfl, rfl⟩
  | cardWrite port value =>
    simp only [after, perform, cardWrite, acceptCard, HostInterrupt.react]
    cases CardWrite.ofPort port with
    | piuControl => exact d.control_interrupt .card value
    | fmAddress | fmData | midi odd | putCardToHost | unmapped => exact ⟨rfl, rfl⟩
  | hostRead offset =>
    simp only [after, perform, hostRead, answerHost, HostInterrupt.react]
    cases HostRead.ofOffset offset <;> exact ⟨rfl, rfl⟩
  | hostWrite offset value =>
    simp only [after, perform, hostWrite, acceptHost, HostInterrupt.react,
      ← ofOffset_timerControl]
    cases HostWrite.ofOffset offset with
    | piuControl => exact d.control_interrupt .host value
    | putHostToCard | timer address | timerControl | unmapped => exact ⟨rfl, rfl⟩
  | timerExpired timer => exact ⟨rfl, rfl⟩
  | midi chunk => exact ⟨rfl, rfl⟩

end Device

/-! ## Single bits -/

namespace HostInterrupt

theorem react_tcr (h : HostInterrupt) (e : DeviceEvent) :
    (h.react e).tcr = e.tcrWord?.getD h.tcr := by
  cases e with
  | hostWrite offset value =>
    simp only [react, DeviceEvent.tcrWord?]
    split <;> rfl
  | timerExpired timer =>
    simp only [react, fire]
    split <;> rfl
  | cardRead port | cardWrite port value | hostRead offset | midi chunk => rfl

end HostInterrupt

/-! ## What the history of firings and words says -/

namespace Device

variable {χ : Type} [FmChip χ]

theorem afterAll_concat (d : Device χ) (history : List DeviceEvent) (e : DeviceEvent) :
    d.afterAll (history ++ [e]) = (d.afterAll history).after e := by
  rw [afterAll, List.foldl_append]
  rfl

theorem tcr_afterAll (d : Device χ) (history : List DeviceEvent) :
    (d.afterAll history).interrupt.tcr =
      lastOf DeviceEvent.tcrWord? d.interrupt.tcr history := by
  refine lastOf_afterAll (fun d => d.interrupt.tcr) (fun d e => ?_) d history
  rw [(d.after_interrupt e).1, HostInterrupt.react_tcr]

end Device

end FeatureCard
