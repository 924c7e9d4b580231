import FeatureCard.Proofs.Carrying
import FeatureCard.Proofs.Watching

/-!
# The processor's attention line

The line is sampled once a step, right after it, and kept. The next step of the card's life finds it
as it was sampled then, be it in the same block or in a later one. So what the host does between two
blocks reaches the processor one step late.
-/

namespace FeatureCard

open Fm (FmChip)

/-! ## Sampling -/

namespace Run

variable {κ χ : Type} [Processor κ] [FmChip χ]

/-- What the chip answers when it hears of the step's time. -/
def chipEvent (r : Run κ χ) : Bool :=
  (FmChip.count r.acted.bus.device.fm.chip (r.clock.elapsed r.cost).1).1

/-- The step that began as `r` and ended as `r'` leaves a reason to call the processor. -/
def Calls (r r' : Run κ χ) : Prop :=
  r.chipEvent = true ∨
    (r'.bus.device.piu.hostToCard.ready = true ∧ r'.bus.device.piu.hostToCard.rxGate = true) ∨
    (r'.bus.device.piu.cardToHost.ready = false ∧ r'.bus.device.piu.cardToHost.txGate = true) ∨
    (r'.bus.device.usart.command &&& 0x01 ≠ 0 ∧ r'.bus.device.interrupt.tcr &&& 0x10 = 0)

theorem next_attention {r r' : Run κ χ} (h : r.next = .ok r') :
    r'.attention = true ↔ r.Calls r' := by
  have hclock := r.acted_clock.1
  obtain ⟨reached, cursor, fm, -, hfm, rfl⟩ := settle_eq_ok h
  obtain ⟨position, rfl⟩ := reach_eq_ok hfm
  unfold Calls chipEvent
  simp only [settled, counted, Fm.FmPort.count, hclock, Device.attentionLine,
    FeatureCard.attention, Mailbox.rxInterrupt, Mailbox.txInterrupt, Bool.or_eq_true_iff,
    Bool.and_eq_true_iff, Bool.not_eq_true', Midi.Usart.interrupt_iff, or_assoc]

end Run

namespace Card

variable {κ χ : Type} [FmChip χ]

theorem passes_attention : Card.Passes (κ := κ) (χ := χ) (fun c => (c.attention, c.clock))
    fun r => (r.attention, r.clock) where
  event _ _ _ := rfl
  silence _ _ := rfl
  opening _ _ _ := rfl
  closing _ _ := rfl

variable [Processor κ]

theorem first_attention {c c' : Card κ χ} (henabled : c'.enabled = c.enabled)
    (hsame : (c'.attention, c'.clock) = (c.attention, c.clock)) (frames : Nat) :
    (c'.steps frames)[0]?.map (·.attention) = (c.steps frames)[0]?.map (·.attention) := by
  obtain ⟨hattention, hclock⟩ := Prod.mk.inj hsame
  unfold enabled at henabled
  unfold steps opening
  rw [hclock]
  cases hm : c.memory with
  | none =>
    have hm' : c'.memory = none := by simpa [hm] using henabled
    rw [hm']
  | some memory =>
    obtain ⟨memory', hm'⟩ : ∃ memory', c'.memory = some memory' := by
      apply Option.isSome_iff_exists.1
      rw [henabled, hm]
      rfl
    rw [hm']
    cases mulBelow word64 frames 2 with
    | error f => rfl
    | ok size =>
      cases c.clock.budget frames with
      | error f => rfl
      | ok budget =>
        simp only [bind, Except.bind, pure, Except.pure]
        by_cases hpos : 0 < budget
        · rw [Run.steps_head hpos, Run.steps_head hpos]
          exact congrArg some hattention
        · rw [Run.steps_of_not_pos hpos, Run.steps_of_not_pos hpos]

/-! ## The line in a life -/

/-- The life of a card and of its processor's attention line. -/
structure Attends (c : Card κ χ) (events : List CardEvent) : Prop where
  /-- A step begins with the line up just if the step before it left a reason. -/
  line : ∀ k r, (c.life events)[k]? = some r →
    (r.attention = true ↔
      ∃ j s s', k = j + 1 ∧ (c.life events)[j]? = some s ∧ s.next = .ok s' ∧ s.Calls s')
  /-- With the line up an interrupt is offered once, and an instruction follows if it is declined. -/
  offered : ∀ r ∈ c.life events, r.attention = true →
    r.cpuCalls = .interrupt r.answer :: if r.answer = 0 then [.step r.result] else []
  unoffered : ∀ r ∈ c.life events, r.attention = false → r.cpuCalls = [.step r.result]
  /-- There are no other calls to the processor in a whole life. -/
  calls : (c.watched.live events).map (fun c' => (c'.unwatched, c'.cpu.calls)) =
    (c.live events).map fun c' => (c', (c.life events).flatMap Run.cpuCalls)
  /-- The statistics of a block count its steps and its calls. -/
  counted : ∀ c', c.live events = .ok c' → ∀ frames output c'' effects,
    c'.render frames = .ok (output, c'', effects) →
      c''.stats.attentionSteps = (c'.steps frames).countP (·.attention) ∧
      c''.stats.interruptsTaken =
        ((c'.steps frames).flatMap Run.cpuCalls).countP CpuCall.accepted
  /-- What happens between two blocks makes no difference to the first step of the later one. -/
  between : ∀ c', c.live events = .ok c' → ∀ quiet c'',
    (∀ e ∈ quiet, ∀ frames, e ≠ .render frames) → c'.live quiet = .ok c'' →
      ∀ frames, (c''.steps frames)[0]?.map (·.attention) = (c'.steps frames)[0]?.map (·.attention)

theorem life_line {c : Card κ χ} (hdown : c.attention = false) (events : List CardEvent) {k : Nat}
    {r : Run κ χ} (hr : (c.life events)[k]? = some r) :
    r.attention = true ↔
      ∃ j s s', k = j + 1 ∧ (c.life events)[j]? = some s ∧ s.next = .ok s' ∧ s.Calls s' := by
  have hlinked := passes_attention.life c events
  cases k with
  | zero =>
    have hfirst := (Prod.mk.inj (hlinked.first hr)).1
    rw [hdown] at hfirst
    refine iff_of_false (by simp [hfirst]) ?_
    rintro ⟨j, s, s', hj, -⟩
    cases hj
  | succ j =>
    have hlt := (List.getElem?_eq_some_iff.1 hr).1
    have hs := List.getElem?_eq_getElem (Nat.lt_of_succ_lt hlt)
    obtain ⟨s', hn, hsame⟩ := hlinked.succ hs hr
    rw [(Prod.mk.inj hsame).1, Run.next_attention hn]
    constructor
    · intro hcalls
      exact ⟨j, _, s', rfl, hs, hn, hcalls⟩
    · rintro ⟨i, t, t', hi, ht, hnt, hcalls⟩
      obtain rfl := Nat.succ.inj hi
      rw [hs] at ht
      obtain rfl := Option.some.inj ht
      rw [hn] at hnt
      obtain rfl := Except.ok.inj hnt
      exact hcalls

theorem countP_accepted (steps : List (Run κ χ)) :
    (steps.flatMap Run.cpuCalls).countP CpuCall.accepted =
      steps.countP fun r => r.attention && r.answer != 0 := by
  rw [List.countP_flatMap]
  induction steps with
  | nil => rfl
  | cons r steps ih =>
    rw [List.map_cons, List.sum_cons, ih, List.countP_cons, Nat.add_comm]
    congr 1
    simp only [Function.comp_apply, r.cpuCalls_eq]
    cases r.attention with
    | false => rfl
    | true =>
      by_cases hanswer : r.answer = 0
      · simp [hanswer, CpuCall.accepted]
      · simp [hanswer, CpuCall.accepted]

theorem render_counted {c c' : Card κ χ} (henabled : c.enabled = true) {frames : Nat}
    {output : Array Fm.Frame} {effects : List Effect}
    (h : c.render frames = .ok (output, c', effects)) :
    c'.stats.attentionSteps = (c.steps frames).countP (·.attention) ∧
      c'.stats.interruptsTaken =
        ((c.steps frames).flatMap Run.cpuCalls).countP CpuCall.accepted := by
  rcases render_eq_ok h with ⟨hm, -⟩ | ⟨memory, budget, start, last, hm, ho, hs, hc⟩
  · simp [enabled, hm] at henabled
  · rw [steps_of_opening hm ho, countP_accepted]
    obtain ⟨-, -, rfl⟩ := opening_eq_ok ho
    cases hc
    change last.stats.attentionSteps = _ ∧ last.stats.interruptsTaken = _
    rw [Run.block_stats rfl hs]
    exact ⟨rfl, rfl⟩

end Card

/-- The attention line of an enabled card is sampled once a step and obeyed by the next one. -/
theorem attention_is_sampled {κ χ : Type} [Processor κ] [FmChip χ] (config : Config)
    (firmware : ByteArray) (cpu : κ) (chip : χ) (events : List CardEvent) :
    (Card.assemble config (some firmware) cpu chip).Attends events := by
  constructor
  case line =>
    intro k r hr
    exact Card.life_line rfl events hr
  case offered =>
    intro r _ hup
    rw [r.cpuCalls_eq, if_pos hup]
  case unoffered =>
    intro r _ hdown
    rw [r.cpuCalls_eq, hdown]
    rfl
  case calls => exact Card.live_unwatched (Card.watched _) events
  case counted =>
    intro c' hlive frames output c'' effects hrender
    exact Card.render_counted (Card.Alike.live hlive).enabled hrender
  case between =>
    intro c' _ quiet c'' hquiet hlive frames
    apply Card.first_attention
    · exact (Card.Alike.live hlive).enabled
    · exact Card.passes_attention.live hquiet hlive

end FeatureCard
