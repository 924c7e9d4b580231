import FeatureCard.Proofs.Block
import FeatureCard.Proofs.Device

/-!
# The history of a card

A card lives through events: accesses of the host to its ports, firings of timers, bytes on the MIDI
line, and blocks to render. Its history is made of the moments after each of them and, within a
block, after each access of the processor to its bus. A fault ends the history, but what led up to
the fault belongs to it. What no event of the devices breaks holds throughout.
-/

namespace FeatureCard

open Fm (FmChip FmPort Frame)

inductive CardEvent where
  | read (port : UInt16)
  | write (port : UInt16) (value : UInt8)
  | timerExpired (timer : Timer)
  | midi (chunk : List UInt8)
  | render (frames : Nat)
  deriving DecidableEq, Repr

inductive CardAnswer where
  | nothing
  | byte (value : UInt8)
  | accepted (count : Nat)
  | sound (output : Array Frame)
  deriving DecidableEq, Repr

/-- The devices and everything that was told to the outside so far, oldest first. -/
structure Moment (χ : Type) where
  device : Device χ
  told : List Effect

namespace Card

variable {κ χ : Type} [Processor κ] [FmChip χ]

def perform (c : Card κ χ) :
    CardEvent → Except Breakdown (CardAnswer × Card κ χ × List Effect)
  | .read port => do
    let (value, rest) ← (c.read port).mapError .atOnce
    return (.byte value, rest)
  | .write port value => do
    let rest ← (c.write port value).mapError .atOnce
    return (.nothing, rest)
  | .timerExpired timer => return (.nothing, c.timerExpired timer)
  | .midi chunk =>
    let (count, rest) := c.enqueue chunk
    return (.accepted count, rest)
  | .render frames => do
    let (output, rest) ← c.render frames
    return (.sound output, rest)

omit [Processor κ] in
theorem read_cases {c c' : Card κ χ} {port : UInt16} {value : UInt8} {effects : List Effect}
    (h : c.read port = .ok (value, c', effects)) :
    (∃ e, e.byProcessor = false ∧ c' = { c with device := c.device.after e } ∧
        effects = c.device.effectsOf e) ∨
      c' = c ∧ ∃ notice, effects = [.note notice] := by
  unfold read at h
  split at h
  · cases ho : c.offsetOf port with
    | error f => simp [ho, bind, Except.bind] at h
    | ok offset =>
      obtain ⟨-, rfl, rfl⟩ := by simpa [ho, bind, Except.bind, pure, Except.pure] using h
      exact .inl ⟨.hostRead offset, rfl, rfl, rfl⟩
  · obtain ⟨-, rfl, rfl⟩ := by simpa [pure, Except.pure] using h
    exact .inr ⟨rfl, _, rfl⟩

omit [Processor κ] in
theorem write_cases {c c' : Card κ χ} {port : UInt16} {value : UInt8} {effects : List Effect}
    (h : c.write port value = .ok (c', effects)) :
    (∃ e, e.byProcessor = false ∧ c' = { c with device := c.device.after e } ∧
        effects = c.device.effectsOf e) ∨
      c' = c ∧ ∃ notice, effects = [.note notice] := by
  unfold write at h
  split at h
  · cases ho : c.offsetOf port with
    | error f => simp [ho, bind, Except.bind] at h
    | ok offset =>
      obtain ⟨rfl, rfl⟩ := by simpa [ho, bind, Except.bind, pure, Except.pure] using h
      exact .inl ⟨.hostWrite offset value, rfl, rfl, rfl⟩
  · obtain ⟨rfl, rfl⟩ := by simpa [pure, Except.pure] using h
    exact .inr ⟨rfl, _, rfl⟩

theorem perform_cases {c c' : Card κ χ} {e : CardEvent} {answer : CardAnswer}
    {effects : List Effect} (h : c.perform e = .ok (answer, c', effects)) :
    (∃ e, e.byProcessor = false ∧ c' = { c with device := c.device.after e } ∧
        effects = c.device.effectsOf e) ∨
      (c' = c ∧ ∃ notice, effects = [.note notice]) ∨
      ∃ frames output, e = .render frames ∧ c.render frames = .ok (output, c', effects) := by
  cases e with
  | read port =>
    cases hr : c.read port with
    | error f => simp [perform, hr, bind, Except.bind] at h
    | ok result =>
      obtain ⟨value, c₁, effects₁⟩ := result
      obtain ⟨-, rfl, rfl⟩ := by
        simpa [perform, hr, bind, Except.bind, pure, Except.pure] using h
      exact (read_cases hr).imp_right .inl
  | write port value =>
    cases hw : c.write port value with
    | error f => simp [perform, hw, bind, Except.bind] at h
    | ok result =>
      obtain ⟨c₁, effects₁⟩ := result
      obtain ⟨-, rfl, rfl⟩ := by
        simpa [perform, hw, bind, Except.bind, pure, Except.pure] using h
      exact (write_cases hw).imp_right .inl
  | timerExpired timer =>
    obtain ⟨-, rfl, rfl⟩ := by simpa [perform, pure, Except.pure, timerExpired] using h
    exact .inl ⟨.timerExpired timer, rfl, rfl, rfl⟩
  | midi chunk =>
    obtain ⟨-, rfl, rfl⟩ := by simpa [perform, pure, Except.pure, enqueue] using h
    exact .inl ⟨.midi chunk, rfl, rfl, rfl⟩
  | render frames =>
    cases hr : c.render frames with
    | error b => simp [perform, hr, bind, Except.bind] at h
    | ok result =>
      obtain ⟨output, c₁, effects₁⟩ := result
      obtain ⟨-, rfl, rfl⟩ := by
        simpa [perform, hr, bind, Except.bind, pure, Except.pure] using h
      exact .inr (.inr ⟨frames, _, rfl, hr⟩)

/-- The moments after the processor's accesses within an event, `told` being what was told before
it. -/
def within (c : Card κ χ) (told : List Effect) : CardEvent → List (Moment χ)
  | .render frames =>
    ((c.steps frames).flatMap Run.accesses).map fun x =>
      { device := x.2.device, told := told ++ x.2.effects.toList }
  | _ => []

def history (c : Card κ χ) (told : List Effect) : List CardEvent → List (Moment χ)
  | [] => []
  | e :: events =>
    c.within told e ++
      match c.perform e with
      | .error _ => []
      | .ok (_, c', effects) =>
        { device := c'.device, told := told ++ effects } :: c'.history (told ++ effects) events

end Card

/-! ## What holds throughout -/

/-- Neither an event of the devices, nor the work of the FM port, nor a notice breaks `P`. -/
structure Device.Kept {χ : Type} [FmChip χ] (P : Device χ → List Effect → Prop) : Prop where
  event : ∀ d told e, P d told → P (d.after e) (told ++ d.effectsOf e)
  fm : ∀ (d : Device χ) told fm, P d told → P { d with fm } told
  note : ∀ d told notice, P d told → P d (told ++ [.note notice])

namespace Device.Kept

variable {κ χ : Type} [FmChip χ] {P : Device χ → List Effect → Prop}

theorem bus (k : Device.Kept P) (told : List Effect) :
    BusProgram.Kept fun b : CardBus χ => P b.device (told ++ b.effects.toList) where
  write _ _ _ h := h
  input b port h := by
    have := k.event _ _ (.cardRead port) h
    change P (b.device.after (.cardRead port))
      (told ++ (b.effects ++ b.device.effectsOf (.cardRead port)).toList)
    rwa [Array.toList_appendList, ← List.append_assoc]
  output b port value h := by
    have := k.event _ _ (.cardWrite port value) h
    change P (b.device.after (.cardWrite port value))
      (told ++ (b.effects ++ b.device.effectsOf (.cardWrite port value)).toList)
    rwa [Array.toList_appendList, ← List.append_assoc]

theorem opening (k : Device.Kept P) {c : Card κ χ} {memory : Memory} {frames : Nat}
    {told : List Effect} {budget : Int} {start : Run κ χ} (h : P c.device told)
    (ho : c.opening memory frames = .ok (budget, start)) :
    P start.bus.device (told ++ start.bus.effects.toList) := by
  obtain ⟨-, -, rfl⟩ := Card.opening_eq_ok ho
  have hbegun := k.fm _ _ (c.starting memory frames).bus.device.fm h
  rw [← List.append_nil told] at hbegun
  exact hbegun

variable [Processor κ]

theorem next (k : Device.Kept P) {told : List Effect} {r r' : Run κ χ}
    (h : P r.bus.device (told ++ r.bus.effects.toList)) (hn : r.next = .ok r') :
    P r'.bus.device (told ++ r'.bus.effects.toList) := by
  obtain ⟨reached, cursor, fm, -, -, rfl⟩ := Run.settle_eq_ok hn
  exact k.fm _ _ _ (r.acted_kept (k.bus told) h)

theorem within (k : Device.Kept P) {c : Card κ χ} {told : List Effect} (h : P c.device told)
    (e : CardEvent) : ∀ m ∈ c.within told e, P m.device m.told := by
  intro m hm
  cases e with
  | render frames =>
    obtain ⟨x, hx, rfl⟩ := List.mem_map.1 hm
    obtain ⟨r, hr, hx⟩ := List.mem_flatMap.1 hx
    obtain ⟨memory, budget, start, ho, hsteps⟩ := Card.steps_of_mem hr
    rw [hsteps] at hr
    have hstart := k.opening h ho
    have hbegin := Run.steps_keep (fun _ _ h hn => k.next h hn) budget start hstart r hr
    exact r.accesses_kept (k.bus told) hbegin x hx
  | read | write | timerExpired | midi => exact absurd hm List.not_mem_nil

theorem render (k : Device.Kept P) {c c' : Card κ χ} {told effects : List Effect} {frames : Nat}
    {output : Array Frame} (h : P c.device told)
    (hr : c.render frames = .ok (output, c', effects)) : P c'.device (told ++ effects) := by
  rcases Card.render_eq_ok hr with
    ⟨-, ⟨stats, rfl⟩, rfl⟩ | ⟨memory, budget, start, r, -, ho, hs, hc⟩
  · rwa [List.append_nil]
  · have hend := Run.spend_keep (fun _ _ h hn => k.next h hn) budget start (k.opening h ho) r hs
    obtain ⟨-, rfl, rfl⟩ := by simpa [Card.closing] using hc
    exact k.fm _ _ _ hend

theorem perform (k : Device.Kept P) {c c' : Card κ χ} {told effects : List Effect}
    {answer : CardAnswer} {e : CardEvent} (h : P c.device told)
    (hp : c.perform e = .ok (answer, c', effects)) : P c'.device (told ++ effects) := by
  rcases Card.perform_cases hp with
    ⟨e, -, rfl, rfl⟩ | ⟨rfl, notice, rfl⟩ | ⟨frames, output, -, hr⟩
  · exact k.event _ _ e h
  · exact k.note _ _ notice h
  · exact k.render h hr

theorem history (k : Device.Kept P) {c : Card κ χ} {told : List Effect} (h : P c.device told)
    (events : List CardEvent) : ∀ m ∈ c.history told events, P m.device m.told := by
  induction events generalizing c told with
  | nil => intro m hm; exact absurd hm List.not_mem_nil
  | cons e events ih =>
    intro m hm
    rcases List.mem_append.1 hm with hm | hm
    · exact k.within h e m hm
    · cases hp : c.perform e with
      | error b => rw [hp] at hm; exact absurd hm List.not_mem_nil
      | ok result =>
        obtain ⟨answer, c', effects⟩ := result
        rw [hp] at hm
        have hc' := k.perform h hp
        rcases List.mem_cons.1 hm with rfl | hm
        · exact hc'
        · exact ih hc' m hm

end Device.Kept

end FeatureCard
