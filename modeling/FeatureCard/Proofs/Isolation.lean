import FeatureCard.Proofs.Byte
import FeatureCard.Proofs.FmAccess

/-!
# The host and the sound devices are isolated

The devices have two halves. The link, the interval timer and the interrupt line are the half that
the host reaches. The MIDI port and the FM port are the other, which only the processor and the MIDI
line reach. What reaches one half can be left out of a run without a trace in the other, but for a
single bit: the host can mask the MIDI port's interrupt.
-/

namespace FeatureCard

open Fm (FmChip FmPort Recorded)
open Midi (Usart)
open PortMap

/-! ## What an event shows -/

/-- An event with its answer and what it asked of the host. -/
structure Exchange where
  event : DeviceEvent
  answer : DeviceAnswer
  calls : List (HostCall Period)
  deriving DecidableEq, Repr

namespace DeviceEvent

/-- The event does not pass by the link's ports: it comes from the host, or the processor reaches
one of the link's ports. -/
def onLink : DeviceEvent → Bool
  | .cardRead port | .cardWrite port _ => group port == 2
  | .hostRead _ | .hostWrite _ _ | .timerExpired _ => true
  | .midi _ => false

/-- The event comes from the processor or from the MIDI line. -/
def onCard : DeviceEvent → Bool
  | .cardRead _ | .cardWrite _ _ | .midi _ => true
  | .hostRead _ | .hostWrite _ _ | .timerExpired _ => false

end DeviceEvent

def Exchange.onLink (x : Exchange) : Bool := x.event.onLink

/-- The answer without bit 7. -/
def DeviceAnswer.unmasked : DeviceAnswer → DeviceAnswer
  | .byte value => .byte (value &&& 0x7F)
  | .nothing => .nothing
  | .accepted count => .accepted count

/-- What is heard of the sound devices in an exchange. The MIDI port's status counts without the
bit that shows the host's mask. -/
def Exchange.heard (x : Exchange) : Option (DeviceEvent × DeviceAnswer) :=
  match x.event with
  | .cardRead port =>
    match CardRead.ofPort port with
    | .fmStatus | .midi false => some (x.event, x.answer)
    | .midi true => some (x.event, x.answer.unmasked)
    | .peekCardToHost | .takeHostToCard | .piuStatus | .unmapped => none
  | .midi _ => some (x.event, x.answer)
  | .cardWrite _ _ | .hostRead _ | .hostWrite _ _ | .timerExpired _ => none

namespace Device

variable {χ : Type}

def withSound (d : Device χ) (usart : Usart) (fm : FmPort χ) : Device χ := { d with usart, fm }

theorem control_withSound (d : Device χ) (usart : Usart) (fm : FmPort χ) (side : Side)
    (word : UInt8) :
    (d.withSound usart fm).control side word =
      ((d.control side word).1.withSound usart fm, (d.control side word).2) := by
  unfold control
  cases ControlWord.decode side word with
  | mode value supported => cases supported <;> rfl
  | set flag on => rfl
  | unmapped field => rfl

variable [FmChip χ]

def exchange (d : Device χ) (e : DeviceEvent) : Exchange where
  event := e
  answer := (d.perform e).1
  calls := Effect.calls (d.effectsOf e)

/-- All exchanges of a run. -/
def transcript (d : Device χ) : List DeviceEvent → List Exchange
  | [] => []
  | e :: events => d.exchange e :: (d.after e).transcript events

/-! ## The sound devices do not reach the link -/

theorem ofPort_of_group_two (port : UInt8) (h : group port = 2) :
    CardRead.ofPort port ≠ .fmStatus ∧ (∀ odd, CardRead.ofPort port ≠ .midi odd) ∧
      CardWrite.ofPort port ≠ .fmAddress ∧ CardWrite.ofPort port ≠ .fmData ∧
      ∀ odd, CardWrite.ofPort port ≠ .midi odd := by
  revert port
  exact forall_byte (by decide +kernel)

theorem ofPort_of_group_ne_two (port : UInt8) (h : group port ≠ 2) :
    (CardRead.ofPort port = .fmStatus ∨ (∃ odd, CardRead.ofPort port = .midi odd) ∨
      CardRead.ofPort port = .unmapped) ∧
    (CardWrite.ofPort port = .fmAddress ∨ CardWrite.ofPort port = .fmData ∨
      (∃ odd, CardWrite.ofPort port = .midi odd) ∨ CardWrite.ofPort port = .unmapped) := by
  revert port
  exact forall_byte (by decide +kernel)

theorem perform_withSound (d : Device χ) (usart : Usart) (fm : FmPort χ) {e : DeviceEvent}
    (he : e.onLink = true) :
    (d.withSound usart fm).perform e =
      ((d.perform e).1, (d.perform e).2.1.withSound usart fm, (d.perform e).2.2) := by
  cases e with
  | cardRead port =>
    obtain ⟨hstatus, hmidi, -⟩ := ofPort_of_group_two port (by simpa [DeviceEvent.onLink] using he)
    simp only [perform, cardRead, answerCard]
    cases h : CardRead.ofPort port with
    | fmStatus => exact absurd h hstatus
    | midi odd => exact absurd h (hmidi odd)
    | peekCardToHost | takeHostToCard | piuStatus | unmapped => rfl
  | cardWrite port value =>
    obtain ⟨-, -, haddress, hdata, hmidi⟩ :=
      ofPort_of_group_two port (by simpa [DeviceEvent.onLink] using he)
    simp only [perform, cardWrite, acceptCard]
    cases h : CardWrite.ofPort port with
    | fmAddress => exact absurd h haddress
    | fmData => exact absurd h hdata
    | midi odd => exact absurd h (hmidi odd)
    | piuControl => simp only [control_withSound]
    | putCardToHost | unmapped => rfl
  | hostRead offset =>
    simp only [perform, hostRead, answerHost]
    cases HostRead.ofOffset offset <;> rfl
  | hostWrite offset value =>
    simp only [perform, hostWrite, acceptHost]
    cases HostWrite.ofOffset offset with
    | piuControl => simp only [control_withSound]
    | putHostToCard | timer address | timerControl | unmapped => rfl
  | timerExpired timer => rfl
  | midi chunk => cases he

theorem after_of_not_onLink (d : Device χ) {e : DeviceEvent} (he : e.onLink = false) :
    (∃ usart fm, d.after e = d.withSound usart fm) ∧ Effect.calls (d.effectsOf e) = [] := by
  cases e with
  | cardRead port =>
    have hgroup := (ofPort_of_group_ne_two port (by simpa [DeviceEvent.onLink] using he)).1
    simp only [after, effectsOf, perform, cardRead, answerCard]
    rcases hgroup with h | ⟨odd, h⟩ | h <;> rw [h] <;> exact ⟨⟨_, _, rfl⟩, rfl⟩
  | cardWrite port value =>
    have hgroup := (ofPort_of_group_ne_two port (by simpa [DeviceEvent.onLink] using he)).2
    simp only [after, effectsOf, perform, cardWrite, acceptCard]
    rcases hgroup with h | h | ⟨odd, h⟩ | h <;> rw [h]
    · exact ⟨⟨_, _, rfl⟩, rfl⟩
    · exact ⟨⟨_, _, rfl⟩, Effect.calls_notes _⟩
    · exact ⟨⟨_, _, rfl⟩, d.usart.calls_write odd value⟩
    · exact ⟨⟨_, _, rfl⟩, rfl⟩
  | midi chunk => exact ⟨⟨_, _, rfl⟩, d.usart.calls_enqueue chunk⟩
  | hostRead offset | hostWrite offset value | timerExpired timer => cases he

theorem transcript_withSound (d : Device χ) (usart : Usart) (fm : FmPort χ)
    (events : List DeviceEvent) :
    (d.withSound usart fm).transcript (events.filter DeviceEvent.onLink) =
      (d.transcript events).filter Exchange.onLink := by
  induction events generalizing d usart fm with
  | nil => rfl
  | cons e events ih =>
    cases he : e.onLink with
    | true =>
      have hperform := d.perform_withSound usart fm he
      have hsame : (d.withSound usart fm).exchange e = d.exchange e := by
        simp only [exchange, effectsOf, hperform]
      have hafter : (d.withSound usart fm).after e = (d.after e).withSound usart fm := by
        simp only [after, hperform]
      have hkept : (d.exchange e).onLink = true := he
      rw [List.filter_cons_of_pos he, transcript, transcript, List.filter_cons_of_pos hkept, hsame,
        hafter, ih]
    | false =>
      obtain ⟨usart', fm', hafter⟩ := (d.after_of_not_onLink he).1
      have hskip : ¬ e.onLink = true := by simp [he]
      have hskipped : ¬ (d.exchange e).onLink = true := hskip
      rw [List.filter_cons_of_neg hskip, transcript, List.filter_cons_of_neg hskipped, ← ih, hafter]
      rfl

theorem calls_transcript (d : Device χ) (events : List DeviceEvent) :
    (d.transcript events).flatMap (·.calls) =
      ((d.transcript events).filter Exchange.onLink).flatMap (·.calls) := by
  induction events generalizing d with
  | nil => rfl
  | cons e events ih =>
    rw [transcript, List.flatMap_cons, ih]
    cases he : e.onLink with
    | true =>
      have hkept : (d.exchange e).onLink = true := he
      rw [List.filter_cons_of_pos hkept, List.flatMap_cons]
    | false =>
      have hskipped : ¬ (d.exchange e).onLink = true := by simp [exchange, Exchange.onLink, he]
      have hnone : (d.exchange e).calls = [] := (d.after_of_not_onLink he).2
      rw [List.filter_cons_of_neg hskipped, hnone, List.nil_append]

/-! ## The host does not reach the sound devices -/

/-- The sound devices are the same. -/
structure SameSound (d d' : Device χ) : Prop where
  usart : d'.usart = d.usart
  fm : d'.fm = d.fm

omit [FmChip χ] in
theorem control_usart (d : Device χ) (side : Side) (word : UInt8) :
    (d.control side word).1.usart = d.usart := by
  unfold control
  cases ControlWord.decode side word with
  | mode value supported => cases supported <;> rfl
  | set flag on => rfl
  | unmapped field => rfl

theorem after_of_not_onCard (d : Device χ) {e : DeviceEvent} (he : e.onCard = false) :
    d.SameSound (d.after e) := by
  cases e with
  | hostRead offset =>
    refine ⟨?_, d.hostRead_fm offset⟩
    simp only [after, perform, hostRead, answerHost]
    cases HostRead.ofOffset offset <;> rfl
  | hostWrite offset value =>
    refine ⟨?_, d.hostWrite_fm offset value⟩
    simp only [after, perform, hostWrite, acceptHost]
    cases HostWrite.ofOffset offset with
    | piuControl => exact d.control_usart .host value
    | putHostToCard | timer address | timerControl | unmapped => rfl
  | timerExpired timer => exact ⟨rfl, rfl⟩
  | cardRead port | cardWrite port value | midi chunk => cases he

theorem SameSound.after {d d' : Device χ} (h : d.SameSound d') {e : DeviceEvent}
    (he : e.onCard = true) : (d.after e).SameSound (d'.after e) := by
  obtain ⟨husart, hfm⟩ := h
  cases e with
  | cardRead port =>
    simp only [Device.after, perform, cardRead, answerCard]
    cases CardRead.ofPort port with
    | midi odd =>
      refine ⟨?_, hfm⟩
      rw [husart]
      cases odd <;> rfl
    | fmStatus | peekCardToHost | takeHostToCard | piuStatus | unmapped => exact ⟨husart, hfm⟩
  | cardWrite port value =>
    simp only [Device.after, perform, cardWrite, acceptCard]
    cases CardWrite.ofPort port with
    | fmAddress => exact ⟨husart, by rw [hfm]⟩
    | fmData => exact ⟨husart, by rw [hfm]⟩
    | midi odd => exact ⟨by rw [husart], hfm⟩
    | piuControl =>
      constructor
      · rw [control_usart, control_usart, husart]
      · rw [control_fm, control_fm, hfm]
    | putCardToHost | unmapped => exact ⟨husart, hfm⟩
  | midi chunk => exact ⟨by simp only [Device.after, perform, enqueue, husart], hfm⟩
  | hostRead offset | hostWrite offset value | timerExpired timer => cases he

end Device

/-! ## The bit that shows the host's mask -/

namespace Midi.Usart

theorem or_masked (value : UInt8) (condition : Prop) [Decidable condition] :
    (value ||| if condition then 0x80 else 0) &&& 0x7F = value &&& 0x7F := by
  have hbits : ∀ value : UInt8, (value ||| 0x80) &&& 0x7F = value &&& 0x7F :=
    forall_byte (by decide +kernel)
  by_cases h : condition
  · rw [if_pos h, hbits]
  · rw [if_neg h, UInt8.or_zero]

theorem status_masked (u : Usart) (tcr tcr' : UInt8) :
    u.status tcr &&& 0x7F = u.status tcr' &&& 0x7F := by
  rw [status, status, or_masked, or_masked]

theorem status_top (u : Usart) (tcr : UInt8) :
    u.status tcr &&& 0x80 = 0x80 ↔ tcr &&& 0x10 = 0 := by
  unfold status
  by_cases h : tcr &&& maskBit = 0
  · refine iff_of_true ?_ h
    rw [if_pos h]
    split <;> split <;> decide
  · refine iff_of_false ?_ h
    rw [if_neg h]
    split <;> split <;> decide

end Midi.Usart

namespace Device

variable {χ : Type} [FmChip χ]

theorem SameSound.heard {d d' : Device χ} (h : d.SameSound d') (e : DeviceEvent) :
    (d'.exchange e).heard = (d.exchange e).heard := by
  obtain ⟨husart, hfm⟩ := h
  cases e with
  | cardRead port =>
    simp only [Exchange.heard, exchange, perform, cardRead, answerCard]
    cases hport : CardRead.ofPort port with
    | fmStatus => simp only [hfm]
    | midi odd =>
      cases odd with
      | false => simp only [husart, Usart.read, Bool.false_eq_true, if_false]
      | true =>
        have hstatus := d.usart.status_masked d.interrupt.tcr d'.interrupt.tcr
        simp only [husart, Usart.read, if_true, DeviceAnswer.unmasked, hstatus]
    | peekCardToHost | takeHostToCard | piuStatus | unmapped => rfl
  | midi chunk =>
    simp only [Exchange.heard, exchange, perform, enqueue, husart]
  | cardWrite port value | hostRead offset | hostWrite offset value | timerExpired timer => rfl

theorem heard_of_not_onCard (d : Device χ) {e : DeviceEvent} (he : e.onCard = false) :
    (d.exchange e).heard = none := by
  cases e with
  | hostRead offset | hostWrite offset value | timerExpired timer => rfl
  | cardRead port | cardWrite port value | midi chunk => cases he

/-- Without the host and its timers the sound devices end up the same, and the same is heard. -/
theorem SameSound.run {d d' : Device χ} (h : d.SameSound d') (events : List DeviceEvent) :
    (d.afterAll events).SameSound (d'.afterAll (events.filter DeviceEvent.onCard)) ∧
      (d'.transcript (events.filter DeviceEvent.onCard)).filterMap Exchange.heard =
        (d.transcript events).filterMap Exchange.heard := by
  induction events generalizing d d' with
  | nil => exact ⟨h, rfl⟩
  | cons e events ih =>
    cases he : e.onCard with
    | true =>
      obtain ⟨hafter, hheard⟩ := ih (h.after he)
      rw [List.filter_cons_of_pos he]
      refine ⟨hafter, ?_⟩
      rw [transcript, transcript, List.filterMap_cons, List.filterMap_cons, h.heard e, hheard]
    | false =>
      have hskip : ¬ e.onCard = true := by simp [he]
      have hsame := d.after_of_not_onCard he
      have hleft : (d.after e).SameSound d' :=
        ⟨h.usart.trans hsame.usart.symm, h.fm.trans hsame.fm.symm⟩
      obtain ⟨hafter, hheard⟩ := ih hleft
      rw [List.filter_cons_of_neg hskip]
      refine ⟨hafter, ?_⟩
      rw [hheard, transcript, List.filterMap_cons_none (d.heard_of_not_onCard he)]

/-! ## Isolation -/

/-- What passes the link by leaves no trace on it: without it each exchange on the link is the same
and so are all requests to the host. -/
structure LinkIsolated (d : Device χ) (events : List DeviceEvent) : Prop where
  exchanges : (d.transcript events).filter Exchange.onLink =
    d.transcript (events.filter DeviceEvent.onLink)
  calls : (d.transcript events).flatMap (·.calls) =
    (d.transcript (events.filter DeviceEvent.onLink)).flatMap (·.calls)

/-- The host leaves no trace in the sound devices: without it they end up the same and the same is
heard of them. -/
structure SoundIsolated (d : Device χ) (events : List DeviceEvent) : Prop where
  heard : (d.transcript events).filterMap Exchange.heard =
    (d.transcript (events.filter DeviceEvent.onCard)).filterMap Exchange.heard
  usart : (d.afterAll events).usart = (d.afterAll (events.filter DeviceEvent.onCard)).usart
  fm : (d.afterAll events).fm = (d.afterAll (events.filter DeviceEvent.onCard)).fm

/-- The host masks the MIDI port's interrupt and shows its mask in the port's status. -/
structure MasksMidi (d : Device χ) : Prop where
  status : ∀ port, CardRead.ofPort port = .midi true → ∃ value,
    (d.perform (.cardRead port)).1 = .byte value ∧
      (value &&& 0x80 = 0x80 ↔ d.interrupt.tcr &&& 0x10 = 0)
  interrupt : d.usart.interrupt d.interrupt.tcr = true ↔
    d.usart.command &&& 0x01 ≠ 0 ∧ d.interrupt.tcr &&& 0x10 = 0

theorem linkIsolated (d : Device χ) (events : List DeviceEvent) : d.LinkIsolated events := by
  have hexchanges := d.transcript_withSound d.usart d.fm events
  constructor
  case exchanges => exact hexchanges.symm
  case calls =>
    rw [calls_transcript, ← hexchanges]
    rfl

theorem soundIsolated (d : Device χ) (events : List DeviceEvent) : d.SoundIsolated events := by
  obtain ⟨hafter, hheard⟩ := SameSound.run (d := d) ⟨rfl, rfl⟩ events
  exact ⟨hheard.symm, hafter.usart.symm, hafter.fm.symm⟩

theorem masksMidi (d : Device χ) : d.MasksMidi := by
  constructor
  case status =>
    intro port hport
    refine ⟨d.usart.status d.interrupt.tcr, ?_, d.usart.status_top _⟩
    simp only [perform, cardRead, answerCard, hport, Usart.read, if_true]
  case interrupt => exact d.usart.interrupt_iff _

end Device

/-- What reaches the sound devices does not show on the link, and the host does not show in the
sound devices nor in the calls to the chip, but for its mask of the MIDI port's interrupt. -/
theorem host_and_sound_are_isolated {χ : Type} [FmChip χ] (events : List DeviceEvent) :
    (∀ d : Device χ, d.LinkIsolated events ∧ d.SoundIsolated events ∧ d.MasksMidi) ∧
      ∀ d : Device (Recorded χ), (d.afterAll events).fm.chip.calls =
        (d.afterAll (events.filter DeviceEvent.onCard)).fm.chip.calls := by
  refine ⟨fun d => ⟨d.linkIsolated events, d.soundIsolated events, d.masksMidi⟩, ?_⟩
  intro d
  rw [(d.soundIsolated events).fm]

end FeatureCard
