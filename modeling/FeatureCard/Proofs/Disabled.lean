import FeatureCard.Proofs.Budget

/-!
# A card without firmware

Such a card is the whole card less its processor: to the host it is a card with firmware that is
never rendered. Blocks that are rendered on it are silent, and nothing else comes of them, whenever
they are rendered and however long they are.
-/

namespace FeatureCard

open Fm (FmChip Frame)

/-- The samples of some frames as they are played: left and right in turn. -/
def Fm.samples (output : Array Frame) : List Int16 :=
  output.toList.flatMap fun frame => [frame.left, frame.right]

theorem Fm.samples_silence (frames : Nat) :
    samples (Array.replicate frames .silence) = List.replicate (2 * frames) 0 := by
  unfold samples
  rw [Array.toList_replicate]
  induction frames with
  | zero => rfl
  | succ frames ih =>
    rw [List.replicate_succ, List.flatMap_cons, ih, Nat.mul_succ]
    rfl

/-- The length of the block, if one is to be rendered. -/
def CardEvent.block? : CardEvent → Option Nat
  | .render frames => some frames
  | .read _ | .write _ _ | .timerExpired _ | .midi _ => none

def CardEvent.isQuiet (e : CardEvent) : Bool := e.block?.isNone

theorem CardEvent.ne_render_of_isQuiet {e : CardEvent} (h : e.isQuiet = true) (frames : Nat) :
    e ≠ .render frames := by
  rintro rfl
  cases h

/-- An event, and what the host is told in it. -/
structure CardExchange where
  event : CardEvent
  answer : CardAnswer
  effects : List Effect

/-- If the event is a block, it is silent and tells the outside nothing. -/
def CardExchange.Silent (x : CardExchange) : Prop :=
  ∀ frames, x.event = .render frames →
    ∃ output, x.answer = .sound output ∧ Fm.samples output = List.replicate (2 * frames) 0 ∧
      x.effects = []

namespace Card

variable {κ χ : Type}

/-! ## What neither the memory nor the statistics touch -/

/-- The card with another memory and other statistics. -/
def refit (c : Card κ χ) (memory : Option Memory) (stats : RenderStats) : Card κ χ :=
  { c with memory, stats }

theorem read_refit (c : Card κ χ) (memory : Option Memory) (stats : RenderStats) (port : UInt16) :
    (c.refit memory stats).read port =
      (c.read port).map fun (value, c', effects) => (value, c'.refit memory stats, effects) := by
  have hdecodes : (c.refit memory stats).config.decodes port = c.config.decodes port := rfl
  have hoffset : (c.refit memory stats).offsetOf port = c.offsetOf port := rfl
  unfold read
  rw [hdecodes, hoffset]
  cases c.config.decodes port with
  | false => rfl
  | true => cases c.offsetOf port <;> rfl

theorem write_refit (c : Card κ χ) (memory : Option Memory) (stats : RenderStats) (port : UInt16)
    (value : UInt8) :
    (c.refit memory stats).write port value =
      (c.write port value).map fun (c', effects) => (c'.refit memory stats, effects) := by
  have hdecodes : (c.refit memory stats).config.decodes port = c.config.decodes port := rfl
  have hoffset : (c.refit memory stats).offsetOf port = c.offsetOf port := rfl
  unfold write
  rw [hdecodes, hoffset]
  cases c.config.decodes port with
  | false => rfl
  | true => cases c.offsetOf port <;> rfl

variable [Processor κ] [FmChip χ]

/-- What the host is told in events, and the card after them, unless a fault ended them. -/
def converse (c : Card κ χ) : List CardEvent → Except Breakdown (List CardExchange × Card κ χ)
  | [] => .ok ([], c)
  | e :: events => do
    let (answer, c', effects) ← c.perform e
    let (later, last) ← c'.converse events
    return ({ event := e, answer, effects } :: later, last)

theorem converse_cons {c c' last : Card κ χ} {e : CardEvent} {events : List CardEvent}
    {answer : CardAnswer} {effects : List Effect} {later : List CardExchange}
    (hp : c.perform e = .ok (answer, c', effects)) (hc : c'.converse events = .ok (later, last)) :
    c.converse (e :: events) = .ok ({ event := e, answer, effects } :: later, last) := by
  rw [converse, hp]
  simp only [bind, Except.bind, hc]
  rfl

theorem perform_refit (c : Card κ χ) {e : CardEvent} (he : e.isQuiet = true)
    (memory : Option Memory) (stats : RenderStats) :
    (c.refit memory stats).perform e =
      (c.perform e).map fun (answer, c', effects) => (answer, c'.refit memory stats, effects) := by
  cases e with
  | read port =>
    rw [perform, perform, read_refit]
    cases c.read port <;> rfl
  | write port value =>
    rw [perform, perform, write_refit]
    cases c.write port value <;> rfl
  | timerExpired timer => rfl
  | midi chunk => rfl
  | render frames => cases he

theorem converse_refit (c : Card κ χ) {events : List CardEvent}
    (hquiet : ∀ e ∈ events, e.isQuiet = true) (memory : Option Memory) (stats : RenderStats) :
    (c.refit memory stats).converse events =
      (c.converse events).map fun (exchanges, c') => (exchanges, c'.refit memory stats) := by
  induction events generalizing c with
  | nil => rfl
  | cons e events ih =>
    rw [converse, converse, c.perform_refit (hquiet e List.mem_cons_self)]
    cases c.perform e with
    | error b => rfl
    | ok result =>
      obtain ⟨answer, c', effects⟩ := result
      have hlater := ih c' fun d hd => hquiet d (List.mem_cons_of_mem e hd)
      simp only [Except.map, bind, Except.bind, hlater]
      cases c'.converse events <;> rfl

/-! ## Blocks without firmware -/

/-- What rendering does to a card now: silence, and statistics that count the frames alone. A block
whose samples cannot be counted in a word is not rendered. -/
structure RendersSilence (c : Card κ χ) : Prop where
  silence : ∀ frames, 2 * frames < word64 → ∃ output,
    c.render frames = .ok (output, { c with stats := { frames } }, []) ∧
      Fm.samples output = List.replicate (2 * frames) 0
  overlong : ∀ frames, word64 ≤ 2 * frames → c.render frames = .error (.atOnce .product)

theorem rendersSilence {c : Card κ χ} (hm : c.memory = none) : c.RendersSilence where
  silence frames hframes := ⟨_, render_of_none hm hframes, Fm.samples_silence frames⟩
  overlong frames hframes := by
    have hsize : ¬ frames * 2 < word64 := by omega
    unfold render
    rw [hm, mulBelow, if_neg hsize]
    rfl

/-- A conversation with a card without firmware: blocks are silent, and all else is as it is without
them. -/
structure Undisturbed (c : Card κ χ) (events : List CardEvent) (exchanges : List CardExchange)
    (last : Card κ χ) : Prop where
  converse : c.converse events = .ok (exchanges, last)
  memory : last.memory = none
  silent : ∀ x ∈ exchanges, x.Silent
  blocks : c.blocks events = (events.filterMap CardEvent.block?).map fun frames => { frames }
  quiet : ∀ stats, (c.refit none stats).converse (events.filter CardEvent.isQuiet) =
    .ok (exchanges.filter (·.event.isQuiet), last.refit none stats)

namespace Undisturbed

variable {c c' last : Card κ χ} {events : List CardEvent} {exchanges : List CardExchange}

theorem nil (hm : c.memory = none) : c.Undisturbed [] [] c :=
  ⟨rfl, hm, fun _ hx => absurd hx List.not_mem_nil, rfl, fun _ => rfl⟩

theorem event {e : CardEvent} (he : e.isQuiet = true) {answer : CardAnswer}
    {effects : List Effect} (hp : c.perform e = .ok (answer, c', effects))
    (h : c'.Undisturbed events exchanges last) :
    c.Undisturbed (e :: events) ({ event := e, answer, effects } :: exchanges) last where
  converse := converse_cons hp h.converse
  memory := h.memory
  silent x hx := by
    rcases List.mem_cons.1 hx with rfl | hx
    · intro frames hrender
      subst hrender
      cases he
    · exact h.silent x hx
  blocks := by
    rw [Card.blocks, hp]
    cases e with
    | render frames => cases he
    | read port | write port value | timerExpired timer | midi chunk => exact h.blocks
  quiet stats := by
    have hkept : (c.refit none stats).perform e = .ok (answer, c'.refit none stats, effects) := by
      rw [c.perform_refit he, hp]
      rfl
    rw [List.filter_cons_of_pos he,
      List.filter_cons_of_pos (a := ({ event := e, answer, effects } : CardExchange)) he]
    exact converse_cons hkept (h.quiet stats)

theorem render {frames : Nat} (hm : c.memory = none) (hframes : 2 * frames < word64)
    (h : Card.Undisturbed { c with stats := { frames } } events exchanges last) :
    ∃ answer, c.Undisturbed (.render frames :: events)
      ({ event := .render frames, answer, effects := [] } :: exchanges) last := by
  have hp : c.perform (.render frames) =
      .ok (.sound (Array.replicate frames .silence), { c with stats := { frames } }, []) := by
    rw [perform, render_of_none hm hframes]
    rfl
  refine ⟨.sound (Array.replicate frames .silence), converse_cons hp h.converse, h.memory, ?_, ?_,
    h.quiet⟩
  · intro x hx
    rcases List.mem_cons.1 hx with rfl | hx
    · rintro _ ⟨⟩
      exact ⟨_, rfl, Fm.samples_silence frames, rfl⟩
    · exact h.silent x hx
  · rw [Card.blocks, hp]
    exact congrArg (_ :: ·) h.blocks

end Undisturbed

theorem undisturbed {c : Card κ χ}
    (hroom : c.config.basePort.toNat + Config.portCount ≤ 0x10000) (hm : c.memory = none)
    (events : List CardEvent) (hsizes : ∀ frames, .render frames ∈ events → 2 * frames < word64) :
    ∃ exchanges last, c.Undisturbed events exchanges last := by
  induction events generalizing c with
  | nil => exact ⟨[], c, .nil hm⟩
  | cons e events ih =>
    have hlater := fun frames hr => hsizes frames (List.mem_cons_of_mem e hr)
    by_cases he : e.isQuiet = true
    · obtain ⟨answer, c', effects, hp⟩ := performs hroom (CardEvent.ne_render_of_isQuiet he)
      have hmemory : c'.memory = none := by
        have henabled := (Alike.perform hp).enabled
        rw [enabled, enabled, hm] at henabled
        exact Option.not_isSome_iff_eq_none.1 fun hsome => by simp [hsome] at henabled
      obtain ⟨exchanges, last, hrest⟩ := ih ((Alike.perform hp).config ▸ hroom) hmemory hlater
      exact ⟨_, last, hrest.event he hp⟩
    · cases e with
      | read port | write port value | timerExpired timer | midi chunk => exact absurd rfl he
      | render frames =>
        have hframes := hsizes frames List.mem_cons_self
        obtain ⟨exchanges, last, hrest⟩ := ih (c := { c with stats := { frames } }) hroom hm hlater
        obtain ⟨answer, hall⟩ := hrest.render hm hframes
        exact ⟨_, last, hall⟩

end Card

/-- To the host a card without firmware is a card with firmware that is never rendered, and nothing
but silence comes of the blocks that are rendered on it. This is so with any chip, also with one that
keeps a record of its calls. -/
theorem only_the_processor_is_missing {κ χ : Type} [Processor κ] [FmChip χ] (config : Config)
    (hvalid : config.validate = .ok ()) (firmware : ByteArray) (cpu : κ) (chip : χ)
    (events : List CardEvent)
    (hsizes : ∀ frames, .render frames ∈ events → 2 * frames < word64) :
    ∃ exchanges last,
      (Card.assemble config none cpu chip).converse events = .ok (exchanges, last) ∧
      (∀ x ∈ exchanges, x.Silent) ∧
      (Card.assemble config none cpu chip).blocks events =
        (events.filterMap CardEvent.block?).map (fun frames => { frames }) ∧
      last.RendersSilence ∧
      (Card.assemble config none cpu chip).converse (events.filter CardEvent.isQuiet) =
        .ok (exchanges.filter (·.event.isQuiet), last.refit none {}) ∧
      (Card.assemble config (some firmware) cpu chip).converse (events.filter CardEvent.isQuiet) =
        .ok (exchanges.filter (·.event.isQuiet),
          last.refit (some (.ofFirmware firmware)) {}) := by
  obtain ⟨exchanges, last, h⟩ :=
    Card.undisturbed (c := Card.assemble config none cpu chip) (Config.room_of_validate hvalid) rfl
      events hsizes
  have hquiet : (Card.assemble config none cpu chip).converse (events.filter CardEvent.isQuiet) =
      .ok (exchanges.filter (·.event.isQuiet), last.refit none {}) := h.quiet {}
  have hfiltered : ∀ e ∈ events.filter CardEvent.isQuiet, e.isQuiet = true :=
    fun e he => (List.mem_filter.1 he).2
  have henabled := Card.converse_refit (Card.assemble config none cpu chip) hfiltered
    (some (.ofFirmware firmware)) {}
  rw [hquiet] at henabled
  exact ⟨exchanges, last, h.converse, h.silent, h.blocks, Card.rendersSilence h.memory, hquiet,
    henabled⟩

/-- Blocks that grow and shrink between accesses to both ends of the window of ports and outside of
it, MIDI and a timer, with a chip that would sound. -/
theorem only_the_processor_is_missing_between_blocks :
    let config : Config := { sampleRate := 8000 }
    let cpu : ScriptedCpu := { costs := #[100] }
    let chip : Fm.LevelChip := { level := 40 }
    let port := config.basePort
    let events : List CardEvent :=
      [.render 3, .write (port + 15) 0x80, .render 700, .read port, .read (port - 1),
        .midi [0xF8, 0x90], .render 0, .timerExpired .a, .render 5, .write (port + 16) 1, .read port]
    config.validate = .ok () ∧
    (∀ frames, .render frames ∈ events → 2 * frames < word64) ∧
    ∃ exchanges last,
      (Card.assemble config none cpu chip).converse events = .ok (exchanges, last) ∧
      (∀ x ∈ exchanges, x.Silent) ∧
      (Card.assemble config none cpu chip).blocks events =
        [{ frames := 3 }, { frames := 700 }, { frames := 0 }, { frames := 5 }] ∧
      (Card.assemble config (some .empty) cpu chip).converse (events.filter CardEvent.isQuiet) =
        .ok (exchanges.filter (·.event.isQuiet), last.refit (some (.ofFirmware .empty)) {}) := by
  intro config cpu chip port events
  have hsizes : ∀ frames, .render frames ∈ events → 2 * frames < word64 := by
    intro frames hrender
    have hblocks : frames = 3 ∨ frames = 700 ∨ frames = 0 ∨ frames = 5 := by
      simpa [events] using hrender
    rcases hblocks with rfl | rfl | rfl | rfl <;> decide
  obtain ⟨exchanges, last, hconverse, hsilent, hblocks, -, -, henabled⟩ :=
    only_the_processor_is_missing config rfl .empty cpu chip events hsizes
  exact ⟨rfl, hsizes, exchanges, last, hconverse, hsilent, hblocks, henabled⟩

end FeatureCard
