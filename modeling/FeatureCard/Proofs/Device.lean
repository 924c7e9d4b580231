import FeatureCard.Device

/-!
# What an event does to the devices

An event either leaves the link and the interrupt line alone and says nothing of the line, or it
changes one of them and then brings the line to its level. `perform_cases` says so for all events
at once; `perform_piu` says what becomes of the link.
-/

namespace FeatureCard

open Fm (FmChip)
open PortMap

/-! ## Requests that concern the line -/

def HostCall.isLine {τ : Type} : HostCall τ → Bool
  | .raise _ | .lower _ => true
  | .schedule _ _ | .cancel _ => false

/-- The request that brings line `irq` to a level. -/
def HostCall.line {τ : Type} (irq : UInt8) (up : Bool) : HostCall τ :=
  if up then .raise irq else .lower irq

def Effect.lineCalls (effects : List Effect) : List (HostCall Period) :=
  (Effect.calls effects).filter HostCall.isLine

namespace Effect

@[simp] theorem calls_nil : calls [] = [] := rfl

@[simp] theorem calls_call (request : HostCall Period) (effects : List Effect) :
    calls (.call request :: effects) = request :: calls effects := rfl

@[simp] theorem calls_note (notice : Notice) (effects : List Effect) :
    calls (.note notice :: effects) = calls effects := rfl

@[simp] theorem calls_append (first second : List Effect) :
    calls (first ++ second) = calls first ++ calls second := List.filterMap_append

@[simp] theorem calls_notes (notices : List Notice) : calls (notices.map .note) = [] := by
  induction notices with
  | nil => rfl
  | cons notice notices ih => rw [List.map_cons, calls_note, ih]

@[simp] theorem lineCalls_append (first second : List Effect) :
    lineCalls (first ++ second) = lineCalls first ++ lineCalls second := by
  rw [lineCalls, calls_append, List.filter_append]
  rfl

end Effect

/-! ## What the parts of the card ask of the host -/

theorem Midi.Usart.calls_write (u : Midi.Usart) (odd : Bool) (value : UInt8) :
    Effect.calls (u.write odd value).2 = [] := by
  unfold write
  split
  · rfl
  · split <;> rfl

theorem Midi.Usart.calls_enqueue (u : Midi.Usart) (chunk : List UInt8) :
    Effect.calls (u.enqueue chunk).2.2 = [] := by
  unfold enqueue
  dsimp only
  split <;> rfl

theorem TimerBlock.lineCalls_writeControl (t : TimerBlock) (value : UInt8) :
    Effect.lineCalls (t.writeControl value).2 = [] := by
  have h : Effect.calls
      (if isRateGenerator value then [] else [.note (.timerModeUnsupported value)]) = [] := by
    split <;> rfl
  unfold writeControl
  dsimp only
  split <;> simp [Effect.lineCalls, h, HostCall.isLine]

theorem TimerBlock.lineCalls_writeData (t : TimerBlock) (i : Fin 3) (value : UInt8) :
    Effect.lineCalls (t.writeData i value).2 = [] := by
  unfold writeData
  dsimp only
  split
  · split <;> rfl
  · rfl

theorem TimerBlock.lineCalls_write (t : TimerBlock) (address value : UInt8) :
    Effect.lineCalls (t.write address value).2 = [] := by
  cases h : counter? (address &&& 3) with
  | none =>
    have := t.lineCalls_writeControl value
    simpa [write, h, Effect.lineCalls] using this
  | some i =>
    have := t.lineCalls_writeData i value
    simpa [write, h, Effect.lineCalls] using this

def DeviceEvent.byProcessor : DeviceEvent → Bool
  | .cardRead _ | .cardWrite _ _ => true
  | .hostRead _ | .hostWrite _ _ | .timerExpired _ | .midi _ => false

namespace Device

variable {χ : Type}

/-! ## The line is brought to its level -/

/-- The line stands as its sources and its gate ask. -/
def Level (d : Device χ) : Prop :=
  d.interrupt.delivered = d.interrupt.level d.piu.hostInterrupt

theorem settle_level (d : Device χ) : d.settle.1.Level := rfl

theorem settle_lineCalls (d : Device χ) :
    Effect.lineCalls d.settle.2 =
      if d.settle.1.interrupt.delivered = d.interrupt.delivered then []
      else [.line d.interrupt.irq d.settle.1.interrupt.delivered] := by
  by_cases h : d.interrupt.level d.piu.hostInterrupt = d.interrupt.delivered
  · simp [settle, HostInterrupt.update, h, Effect.lineCalls]
  · cases hl : d.interrupt.level d.piu.hostInterrupt <;>
      simp_all [settle, HostInterrupt.update, Effect.lineCalls, HostCall.isLine, HostCall.line]

theorem control_cases (d : Device χ) (side : Side) (value : UInt8) :
    (d.control side value).1 = d ∧ Effect.lineCalls (d.control side value).2 = [] ∨
      ∃ flag on, d.control side value = { d with piu := d.piu.setFlag flag on }.settle := by
  cases h : ControlWord.decode side value with
  | mode value supported => left; cases supported <;> simp [control, h, Effect.lineCalls]
  | unmapped field => left; simp [control, h, Effect.lineCalls]
  | set flag on => right; exact ⟨flag, on, by simp only [control, h]⟩

/-! ## Runs of events -/

variable [FmChip χ]

def after (d : Device χ) (e : DeviceEvent) : Device χ := (d.perform e).2.1

def effectsOf (d : Device χ) (e : DeviceEvent) : List Effect := (d.perform e).2.2

def afterAll (d : Device χ) (events : List DeviceEvent) : Device χ := events.foldl after d

@[simp] theorem afterAll_nil (d : Device χ) : d.afterAll [] = d := rfl

/-! ## Which events concern the line -/

/-- The event leaves the link and the line alone. -/
structure Quiet (d : Device χ) (e : DeviceEvent) : Prop where
  piu : (d.after e).piu = d.piu
  interrupt : (d.after e).interrupt = d.interrupt
  lineCalls : Effect.lineCalls (d.effectsOf e) = []

/-- The event ends with bringing the line to its level. What it `changed` before that is neither
the number of the line nor the level the host knows. -/
structure Settles (d : Device χ) (e : DeviceEvent) (changed : Device χ) : Prop where
  irq : changed.interrupt.irq = d.interrupt.irq
  delivered : changed.interrupt.delivered = d.interrupt.delivered
  after : d.after e = changed.settle.1
  lineCalls : Effect.lineCalls (d.effectsOf e) = Effect.lineCalls changed.settle.2

theorem cardRead_cases (d : Device χ) (port : UInt8) :
    d.Quiet (.cardRead port) ∨ ∃ changed, d.Settles (.cardRead port) changed := by
  cases h : CardRead.ofPort port with
  | takeHostToCard =>
    right
    refine ⟨{ d with piu := { d.piu with hostToCard := d.piu.hostToCard.take.2 } }, rfl, rfl, ?_, ?_⟩
    · simp only [after, perform, cardRead, answerCard, h]
    · simp [effectsOf, perform, cardRead, answerCard, h, Effect.lineCalls]
  | fmStatus | midi odd | peekCardToHost | piuStatus | unmapped =>
    left
    constructor <;> simp [after, effectsOf, perform, cardRead, answerCard, h, Effect.lineCalls]

theorem cardWrite_cases (d : Device χ) (port value : UInt8) :
    d.Quiet (.cardWrite port value) ∨ ∃ changed, d.Settles (.cardWrite port value) changed := by
  cases h : CardWrite.ofPort port with
  | putCardToHost =>
    right
    refine ⟨{ d with piu := { d.piu with cardToHost := d.piu.cardToHost.put value } },
      rfl, rfl, ?_, ?_⟩
    · simp only [after, perform, cardWrite, acceptCard, h]
    · simp [effectsOf, perform, cardWrite, acceptCard, h, Effect.lineCalls]
  | piuControl =>
    rcases d.control_cases .card value with ⟨hd, he⟩ | ⟨flag, on, hs⟩
    · left
      constructor <;>
        simp_all [after, effectsOf, perform, cardWrite, acceptCard, Effect.lineCalls]
    · right
      refine ⟨{ d with piu := d.piu.setFlag flag on }, rfl, rfl, ?_, ?_⟩
      · simp only [after, perform, cardWrite, acceptCard, h, hs]
      · simp [effectsOf, perform, cardWrite, acceptCard, h, hs, Effect.lineCalls]
  | midi odd =>
    left
    constructor <;>
      simp [after, effectsOf, perform, cardWrite, acceptCard, h, Effect.lineCalls,
        Midi.Usart.calls_write]
  | fmAddress | fmData | unmapped =>
    left
    constructor <;> simp [after, effectsOf, perform, cardWrite, acceptCard, h, Effect.lineCalls]

theorem hostRead_cases (d : Device χ) (offset : UInt8) :
    d.Quiet (.hostRead offset) ∨ ∃ changed, d.Settles (.hostRead offset) changed := by
  cases h : HostRead.ofOffset offset with
  | takeCardToHost =>
    right
    refine ⟨{ d with piu := { d.piu with cardToHost := d.piu.cardToHost.take.2 } },
      rfl, rfl, ?_, ?_⟩
    · simp only [after, perform, hostRead, answerHost, h]
    · simp [effectsOf, perform, hostRead, answerHost, h, Effect.lineCalls]
  | peekHostToCard | piuStatus | timer address | timerStatus | unmapped =>
    left
    constructor <;> simp [after, effectsOf, perform, hostRead, answerHost, h, Effect.lineCalls]

theorem hostWrite_cases (d : Device χ) (offset value : UInt8) :
    d.Quiet (.hostWrite offset value) ∨ ∃ changed, d.Settles (.hostWrite offset value) changed := by
  cases h : HostWrite.ofOffset offset with
  | putHostToCard =>
    right
    refine ⟨{ d with piu := { d.piu with hostToCard := d.piu.hostToCard.put value } },
      rfl, rfl, ?_, ?_⟩
    · simp only [after, perform, hostWrite, acceptHost, h]
    · simp [effectsOf, perform, hostWrite, acceptHost, h, Effect.lineCalls]
  | piuControl =>
    rcases d.control_cases .host value with ⟨hd, he⟩ | ⟨flag, on, hs⟩
    · left
      constructor <;>
        simp_all [after, effectsOf, perform, hostWrite, acceptHost, Effect.lineCalls]
    · right
      refine ⟨{ d with piu := d.piu.setFlag flag on }, rfl, rfl, ?_, ?_⟩
      · simp only [after, perform, hostWrite, acceptHost, h, hs]
      · simp [effectsOf, perform, hostWrite, acceptHost, h, hs, Effect.lineCalls]
  | timerControl =>
    right
    refine ⟨{ d with interrupt := d.interrupt.writeControl value }, rfl, rfl, ?_, ?_⟩
    · simp only [after, perform, hostWrite, acceptHost, h]
    · simp [effectsOf, perform, hostWrite, acceptHost, h, Effect.lineCalls]
  | timer address =>
    have ht := d.timers.lineCalls_write address value
    left
    constructor <;> simp_all [after, effectsOf, perform, hostWrite, acceptHost, Effect.lineCalls]
  | unmapped =>
    left
    constructor <;> simp [after, effectsOf, perform, hostWrite, acceptHost, h, Effect.lineCalls]

theorem timerExpired_settles (d : Device χ) (timer : Timer) :
    d.Settles (.timerExpired timer) { d with interrupt := (d.interrupt.fire timer).2 } := by
  constructor
  case irq | delivered => unfold HostInterrupt.fire; dsimp only; split <;> rfl
  case after => rfl
  case lineCalls =>
    have htimers : ({ d with interrupt := (d.interrupt.fire timer).2 } : Device χ).settle.1.timers =
      d.timers := rfl
    simp only [effectsOf, perform, timerExpired, Effect.lineCalls_append, htimers]
    cases d.timers.period timer with
    | none | some period => split <;> simp [Effect.lineCalls, HostCall.isLine]

theorem perform_cases (d : Device χ) (e : DeviceEvent) :
    d.Quiet e ∨ ∃ changed, d.Settles e changed := by
  cases e with
  | cardRead port => exact d.cardRead_cases port
  | cardWrite port value => exact d.cardWrite_cases port value
  | hostRead offset => exact d.hostRead_cases offset
  | hostWrite offset value => exact d.hostWrite_cases offset value
  | timerExpired timer => exact .inr ⟨_, d.timerExpired_settles timer⟩
  | midi chunk =>
    left
    have h := d.usart.calls_enqueue chunk
    constructor <;> simp [after, effectsOf, perform, enqueue, Effect.lineCalls, h]

end Device

end FeatureCard
