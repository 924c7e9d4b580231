import FeatureCard.Proofs.Budget

/-!
# Watching a processor

A card does not notice that its processor keeps a record of the calls it receives. So how a step
calls the processor can be told by watching it, whatever the processor. The record of a whole life
is made of the records of its steps.
-/

namespace FeatureCard

open Fm (FmChip)

/-- A call to the processor, with its answer. -/
inductive CpuCall where
  | interrupt (answer : UInt32)
  | step (cost : UInt32)
  deriving DecidableEq, Repr

/-- An interrupt was offered and accepted. -/
def CpuCall.accepted : CpuCall → Bool
  | .interrupt answer => answer != 0
  | .step _ => false

/-- Any processor with a record of the calls it received, oldest first. -/
structure Watched (κ : Type) where
  cpu : κ
  calls : List CpuCall := []

namespace Watched

variable {κ σ : Type} [Processor κ]

def record (w : Watched κ) (call : CpuCall) (cpu : κ) : Watched κ where
  cpu := cpu
  calls := w.calls ++ [call]

instance : Processor (Watched κ) where
  step w := do
    let (cost, cpu) ← Processor.step w.cpu
    return (cost, w.record (.step cost) cpu)
  interrupt w := do
    let (answer, cpu) ← Processor.interrupt w.cpu
    return (answer, w.record (.interrupt answer) cpu)

theorem step_run [Bus σ] (w : Watched κ) (s : σ) :
    (Processor.step w).run s =
      let ((cost, cpu), s) := (Processor.step w.cpu).run s
      ((cost, w.record (.step cost) cpu), s) := by
  apply BusProgram.run_bind

theorem interrupt_run [Bus σ] (w : Watched κ) (s : σ) :
    (Processor.interrupt w).run s =
      let ((answer, cpu), s) := (Processor.interrupt w.cpu).run s
      ((answer, w.record (.interrupt answer) cpu), s) := by
  apply BusProgram.run_bind

end Watched

/-! ## A step -/

namespace Run

variable {κ χ : Type}

def withCpu {ι : Type} (r : Run κ χ) (cpu : ι) : Run ι χ where
  bus := r.bus
  cpu := cpu
  clock := r.clock
  attention := r.attention
  stats := r.stats
  cursor := r.cursor

/-- The same state with a processor that begins a record. -/
def watched (r : Run κ χ) : Run (Watched κ) χ := r.withCpu { cpu := r.cpu }

def unwatched (r : Run (Watched κ) χ) : Run κ χ := r.withCpu r.cpu.cpu

variable [Processor κ] [FmChip χ]

/-- The calls to the processor in the step that begins here. -/
def cpuCalls (r : Run κ χ) : List CpuCall := r.watched.acted.cpu.calls

theorem offer_unwatched (r : Run (Watched κ) χ) :
    r.offer.1 = r.unwatched.offer.1 ∧ r.offer.2.unwatched = r.unwatched.offer.2 ∧
      r.offer.2.cpu.calls =
        r.cpu.calls ++ if r.attention then [.interrupt r.unwatched.answer] else [] := by
  have hrun := r.cpu.interrupt_run r.bus
  have ha : r.unwatched.attention = r.attention := rfl
  unfold offer answer
  rw [ha]
  cases r.attention with
  | false => exact ⟨rfl, rfl, (List.append_nil _).symm⟩
  | true =>
    simp only [if_true, hrun]
    exact ⟨rfl, rfl, rfl⟩

theorem execute_unwatched (r : Run (Watched κ) χ) :
    r.execute.1 = r.unwatched.execute.1 ∧ r.execute.2.unwatched = r.unwatched.execute.2 ∧
      r.execute.2.cpu.calls = r.cpu.calls ++ [.step r.unwatched.execute.1] := by
  have hrun := r.cpu.step_run r.bus
  unfold execute
  simp only [hrun]
  exact ⟨rfl, rfl, rfl⟩

theorem act_unwatched (r : Run (Watched κ) χ) :
    r.cost = r.unwatched.cost ∧ r.acted.unwatched = r.unwatched.acted ∧
      r.acted.cpu.calls = r.offer.2.cpu.calls ++
        if r.unwatched.offer.1 = 0 then [.step r.unwatched.result] else [] := by
  obtain ⟨hanswer, hoffered, -⟩ := r.offer_unwatched
  obtain ⟨hcost, hexecuted, hcalls⟩ := r.offer.2.execute_unwatched
  rw [hoffered] at hcost hexecuted hcalls
  rw [r.unwatched.execute_cost] at hcost hcalls
  unfold cost acted act
  by_cases hc : r.unwatched.offer.1 = 0
  · simp only [hanswer, hc, ne_eq, not_true_eq_false, if_false, if_true]
    rw [hcost, r.unwatched.execute_cost]
    exact ⟨rfl, hexecuted, hcalls⟩
  · simp only [hanswer, hc, ne_eq, not_false_eq_true, if_true, if_false]
    exact ⟨trivial, hoffered, (List.append_nil _).symm⟩

theorem calls_eq (r : Run (Watched κ) χ) :
    r.acted.cpu.calls = r.cpu.calls ++
      if r.attention then
        .interrupt r.unwatched.answer ::
          if r.unwatched.answer = 0 then [.step r.unwatched.result] else []
      else [.step r.unwatched.result] := by
  have ha : r.unwatched.attention = r.attention := rfl
  obtain ⟨-, -, hoffer⟩ := r.offer_unwatched
  obtain ⟨-, -, hacted⟩ := r.act_unwatched
  rw [hacted, hoffer, r.unwatched.offer_cost, ha]
  cases r.attention with
  | false => simp
  | true => simp

theorem cpuCalls_eq (r : Run κ χ) :
    r.cpuCalls =
      if r.attention then .interrupt r.answer :: if r.answer = 0 then [.step r.result] else []
      else [.step r.result] :=
  r.watched.calls_eq

theorem record_acted (r : Run (Watched κ) χ) :
    r.acted.cpu.calls = r.cpu.calls ++ r.unwatched.cpuCalls := by
  rw [r.calls_eq, r.unwatched.cpuCalls_eq]
  rfl

/-! ## A block -/

omit [Processor κ] in
theorem settle_withCpu {ι : Type} (r : Run κ χ) (cpu : ι) (cost : UInt32) :
    (r.withCpu cpu).settle cost = (r.settle cost).map (·.withCpu cpu) := by
  rw [settle_eq, settle_eq]
  have hcursor : (r.withCpu cpu).cursor = r.cursor := rfl
  have hfm : (r.withCpu cpu).bus.device.fm = r.bus.device.fm := rfl
  rw [hcursor, hfm]
  cases r.cursor.advance cost with
  | error fault => rfl
  | ok moved =>
    simp only [bind, Except.bind]
    cases reach r.bus.device.fm moved.1 <;> rfl

theorem next_unwatched (r : Run (Watched κ) χ) :
    r.unwatched.next = r.next.map unwatched := by
  obtain ⟨hcost, hacted, -⟩ := r.act_unwatched
  rw [next, ← hcost, ← hacted, unwatched, settle_withCpu, next]
  cases hs : r.acted.settle r.cost with
  | error fault => rfl
  | ok r' =>
    obtain ⟨reached, cursor, fm, -, -, rfl⟩ := settle_eq_ok hs
    rfl

theorem record_next {r r' : Run (Watched κ) χ} (h : r.next = .ok r') :
    r'.cpu.calls = r.cpu.calls ++ r.unwatched.cpuCalls := by
  obtain ⟨reached, cursor, fm, -, -, rfl⟩ := settle_eq_ok h
  exact r.record_acted

theorem spend_unwatched (budget : Int) (r : Run (Watched κ) χ) :
    r.unwatched.spend budget = (r.spend budget).map unwatched := by
  induction budget, r using block_induct with
  | spent budget r hpos =>
    rw [spend_of_not_pos hpos, spend_of_not_pos hpos]
    rfl
  | broken budget r fault hpos hn =>
    have hn' : r.unwatched.next = .error fault := by rw [next_unwatched, hn]; rfl
    rw [spend_of_error hpos hn', spend_of_error hpos hn, ← r.act_unwatched.2.1]
    rfl
  | settled budget r r' hpos hn ih =>
    have hn' : r.unwatched.next = .ok r'.unwatched := by rw [next_unwatched, hn]; rfl
    rw [spend_of_next hpos hn', spend_of_next hpos hn, ← ih, r.act_unwatched.1]

theorem record_spend {budget : Int} {r last : Run (Watched κ) χ} (h : r.spend budget = .ok last) :
    last.cpu.calls = r.cpu.calls ++ (r.unwatched.steps budget).flatMap cpuCalls := by
  induction budget, r using block_induct with
  | spent budget r hpos =>
    rw [spend_of_not_pos hpos] at h
    cases h
    rw [steps_of_not_pos hpos, List.flatMap_nil, List.append_nil]
  | broken budget r fault hpos hn =>
    rw [spend_of_error hpos hn] at h
    cases h
  | settled budget r r' hpos hn ih =>
    have hn' : r.unwatched.next = .ok r'.unwatched := by rw [next_unwatched, hn]; rfl
    rw [spend_of_next hpos hn] at h
    rw [ih h, record_next hn, steps_of_next hpos hn', List.flatMap_cons, List.append_assoc,
      r.act_unwatched.1]

end Run

/-! ## A life -/

namespace Card

variable {κ χ : Type}

def withCpu {ι : Type} (c : Card κ χ) (cpu : ι) : Card ι χ where
  config := c.config
  memory := c.memory
  device := c.device
  cpu := cpu
  clock := c.clock
  attention := c.attention
  stats := c.stats

/-- The same card with a processor that begins a record. -/
def watched (c : Card κ χ) : Card (Watched κ) χ := c.withCpu { cpu := c.cpu }

def unwatched (c : Card (Watched κ) χ) : Card κ χ := c.withCpu c.cpu.cpu

theorem opening_unwatched (c : Card (Watched κ) χ) (memory : Memory) (frames : Nat) :
    c.unwatched.opening memory frames =
      (c.opening memory frames).map fun opened => (opened.1, opened.2.unwatched) := by
  have hclock : c.unwatched.clock = c.clock := rfl
  unfold opening
  rw [hclock]
  generalize mulBelow word64 frames 2 = size
  generalize c.clock.budget frames = granted
  cases size with
  | error fault => rfl
  | ok size => cases granted <;> rfl

variable [Processor κ] [FmChip χ]

theorem render_unwatched (c : Card (Watched κ) χ) (frames : Nat) :
    c.unwatched.render frames =
      (c.render frames).map fun answer => (answer.1, answer.2.1.unwatched, answer.2.2) := by
  have hsame : c.unwatched.memory = c.memory := rfl
  cases hm : c.memory with
  | none =>
    unfold render
    rw [hsame, hm]
    cases (mulBelow word64 frames 2).mapError Breakdown.atOnce <;> rfl
  | some memory =>
    rw [render_of_memory (hsame.trans hm), render_of_memory hm, opening_unwatched]
    cases c.opening memory frames with
    | error fault => rfl
    | ok opened =>
      change (opened.2.unwatched.spend opened.1 >>= fun r => pure (c.unwatched.closing r)) = _
      rw [Run.spend_unwatched]
      change _ = ((opened.2.spend opened.1 >>= fun r => pure (c.closing r)).map _)
      cases opened.2.spend opened.1 <;> rfl

theorem perform_unwatched (c : Card (Watched κ) χ) (e : CardEvent) :
    c.unwatched.perform e =
      (c.perform e).map fun result => (result.1, result.2.1.unwatched, result.2.2) := by
  cases e with
  | read port =>
    simp only [perform, read]
    change (do let rest ← Except.mapError _ (if c.config.decodes port = true then _ else _); _) = _
    split
    · change (do let rest ← Except.mapError _ (c.offsetOf port >>= _); _) = _
      cases c.offsetOf port <;> rfl
    · rfl
  | write port value =>
    simp only [perform, write]
    change (do let rest ← Except.mapError _ (if c.config.decodes port = true then _ else _); _) = _
    split
    · change (do let rest ← Except.mapError _ (c.offsetOf port >>= _); _) = _
      cases c.offsetOf port <;> rfl
    · rfl
  | timerExpired timer => rfl
  | midi chunk => rfl
  | render frames =>
    rw [perform, render_unwatched, perform]
    cases c.render frames <;> rfl

theorem record_render {c c' : Card (Watched κ) χ} {frames : Nat} {output : Array Fm.Frame}
    {effects : List Effect} (h : c.render frames = .ok (output, c', effects)) :
    c'.cpu.calls = c.cpu.calls ++ (c.unwatched.steps frames).flatMap Run.cpuCalls := by
  have hsame : c.unwatched.memory = c.memory := rfl
  rcases render_eq_ok h with ⟨hm, ⟨stats, rfl⟩, -⟩ | ⟨memory, budget, start, last, hm, ho, hs, hc⟩
  · unfold steps
    rw [hsame, hm]
    exact (List.append_nil _).symm
  · have hopened : c.unwatched.opening memory frames = .ok (budget, start.unwatched) := by
      rw [opening_unwatched, ho]
      rfl
    have hrecord := Run.record_spend hs
    obtain ⟨-, -, rfl⟩ := opening_eq_ok ho
    rw [steps_of_opening (hsame.trans hm) hopened]
    cases hc
    exact hrecord

theorem record_perform {c c' : Card (Watched κ) χ} {e : CardEvent} {answer : CardAnswer}
    {effects : List Effect} (h : c.perform e = .ok (answer, c', effects)) :
    c'.cpu.calls = c.cpu.calls ++ (c.unwatched.stepsOf e).flatMap Run.cpuCalls := by
  cases e with
  | render frames =>
    obtain ⟨output, hrender⟩ := render_of_perform h
    exact record_render hrender
  | read port | write port value | timerExpired timer | midi chunk =>
    have hcpu : c'.cpu = c.cpu := by
      rcases perform_cases h with ⟨d, hd, rfl, -⟩ | ⟨rfl, -⟩ | ⟨frames, output, he, -⟩
      · rfl
      · rfl
      · cases he
    rw [hcpu]
    exact (List.append_nil _).symm

/-- A life is the same with a watched processor, and the record of it is that of its steps. -/
theorem live_unwatched (c : Card (Watched κ) χ) (events : List CardEvent) :
    (c.live events).map (fun c' => (c'.unwatched, c'.cpu.calls)) =
      (c.unwatched.live events).map fun c' =>
        (c', c.cpu.calls ++ (c.unwatched.life events).flatMap Run.cpuCalls) := by
  induction events generalizing c with
  | nil =>
    simp only [live, life, List.flatMap_nil, List.append_nil]
    rfl
  | cons e events ih =>
    have hperform := c.perform_unwatched e
    rw [life, List.flatMap_append]
    simp only [live, hperform]
    cases hp : c.perform e with
    | error b => rfl
    | ok result =>
      obtain ⟨answer, c', effects⟩ := result
      simp only [bind, Except.bind, Except.map]
      have hlater := ih c'
      rw [record_perform hp, List.append_assoc] at hlater
      exact hlater

end Card

end FeatureCard
