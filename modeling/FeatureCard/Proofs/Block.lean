import FeatureCard.Card.Render
import FeatureCard.Proofs.Bus

/-!
# The steps of a block

A block is a run of steps. `steps` lists the states in which they begin, `accesses` what the
processor does on the bus in one of them. A block that is opened, spent and closed is what
rendering gives.
-/

namespace FeatureCard

open Fm (FmChip Frame)

@[simp] theorem mapError_ok {α ε ε' : Type} (f : ε → ε') (a : α) :
    (Except.ok a : Except ε α).mapError f = .ok a := rfl

@[simp] theorem mapError_error {α ε ε' : Type} (f : ε → ε') (e : ε) :
    (Except.error e : Except ε α).mapError f = .error (f e) := rfl

namespace Run

variable {κ χ : Type} [FmChip χ]

/-! ## Settling a step -/

/-- The FM port after a step that completed `reached` frames, before its timers count. -/
def reach (p : Fm.FmPort χ) (reached : Nat) : Checked (Fm.FmPort χ) :=
  if 0 < reached then p.advance reached else .ok p

omit [FmChip χ] in
theorem reach_eq_ok {p fm : Fm.FmPort χ} {reached : Nat} (h : reach p reached = .ok fm) :
    ∃ position, fm = { p with position } := by
  unfold reach Fm.FmPort.advance at h
  split at h
  · cases ha : addBelow word64 p.position reached with
    | error f => simp [ha, bind, Except.bind] at h
    | ok position =>
      simp only [ha, bind, Except.bind] at h
      exact ⟨_, (Except.ok.inj h).symm⟩
  · exact ⟨p.position, (Except.ok.inj h).symm⟩

def counted (r : Run κ χ) (fm : Fm.FmPort χ) (cost : UInt32) : Bool × Fm.FmPort χ :=
  fm.count (r.clock.elapsed cost).1

/-- The state after a step, `fm` being the FM port before its timers count. -/
def settled (r : Run κ χ) (cost : UInt32) (cursor : FrameCursor) (fm : Fm.FmPort χ) : Run κ χ :=
  { r with
    bus := { r.bus with device := { r.bus.device with fm := (r.counted fm cost).2 } }
    clock := (r.clock.elapsed cost).2
    stats :=
      { r.stats with
        instructions := r.stats.instructions + 1
        cycles := r.stats.cycles + cost.toNat }
    cursor
    attention := r.bus.device.attentionLine (r.counted fm cost).1 }

theorem settle_eq (r : Run κ χ) (cost : UInt32) :
    r.settle cost = (do
      let (reached, cursor) ← r.cursor.advance cost
      let fm ← reach r.bus.device.fm reached
      return r.settled cost cursor fm) := by
  unfold settle reach
  cases r.cursor.advance cost with
  | error f => rfl
  | ok a =>
    by_cases h : 0 < a.1
    · simp only [bind, Except.bind, h, if_true]
      cases r.bus.device.fm.advance a.1 <;> rfl
    · simp only [bind, Except.bind, h, if_false]
      rfl

theorem settle_eq_ok {r r' : Run κ χ} {cost : UInt32} (h : r.settle cost = .ok r') :
    ∃ reached cursor fm, r.cursor.advance cost = .ok (reached, cursor) ∧
      reach r.bus.device.fm reached = .ok fm ∧ r' = r.settled cost cursor fm := by
  rw [settle_eq] at h
  cases ha : r.cursor.advance cost with
  | error f => rw [ha] at h; exact absurd h (by simp [bind, Except.bind])
  | ok a =>
    cases hf : reach r.bus.device.fm a.1 with
    | error f => simp [ha, hf, bind, Except.bind] at h
    | ok fm =>
      simp only [ha, hf, bind, Except.bind] at h
      exact ⟨a.1, a.2, fm, rfl, hf, (Except.ok.inj h).symm⟩

/-! ## Spending the budget -/

variable [Processor κ]

theorem offer_clock (r : Run κ χ) :
    r.offer.2.clock = r.clock ∧ r.offer.2.cursor = r.cursor := by
  unfold offer
  split <;> exact ⟨rfl, rfl⟩

def cost (r : Run κ χ) : UInt32 := r.act.1

def acted (r : Run κ χ) : Run κ χ := r.act.2

def next (r : Run κ χ) : Checked (Run κ χ) := r.acted.settle r.cost

theorem acted_clock (r : Run κ χ) :
    r.acted.clock = r.clock ∧ r.acted.cursor = r.cursor := by
  have ho := r.offer_clock
  unfold acted act
  by_cases hc : r.offer.1 = 0
  · simp only [hc, ne_eq, not_true_eq_false, if_false]
    exact ho
  · simpa only [hc, ne_eq, not_false_eq_true, if_true] using ho

theorem next_clock {r r' : Run κ χ} (h : r.next = .ok r') :
    r'.clock = (r.clock.elapsed r.cost).2 := by
  obtain ⟨reached, cursor, fm, -, -, rfl⟩ := settle_eq_ok h
  rw [← r.acted_clock.1]
  rfl

theorem cost_pos (r : Run κ χ) : 0 < r.cost.toNat := r.act_cost_pos

theorem spend_of_not_pos {budget : Int} (h : ¬ 0 < budget) (r : Run κ χ) :
    r.spend budget = .ok r := by
  rw [spend, if_neg h]
  rfl

theorem spend_of_pos {budget : Int} (h : 0 < budget) (r : Run κ χ) :
    r.spend budget =
      (r.next.mapError r.acted.breakdown >>= fun r' => r'.spend (budget - r.cost.toNat)) := by
  rw [spend, if_pos h]
  rfl

theorem spend_of_next {budget : Int} (h : 0 < budget) {r r' : Run κ χ} (hn : r.next = .ok r') :
    r.spend budget = r'.spend (budget - r.cost.toNat) := by
  rw [spend_of_pos h, hn]
  rfl

theorem spend_of_error {budget : Int} (h : 0 < budget) {r : Run κ χ} {f : Fault}
    (hn : r.next = .error f) : r.spend budget = .error (r.acted.breakdown f) := by
  rw [spend_of_pos h, hn]
  rfl

/-! ## The steps -/

/-- The states in which the steps of a block begin. -/
def steps (budget : Int) (r : Run κ χ) : List (Run κ χ) :=
  if 0 < budget then
    r :: match r.next with
      | .ok r' => steps (budget - r.cost.toNat) r'
      | .error _ => []
  else []
termination_by budget.toNat
decreasing_by
  have := r.cost_pos
  omega

theorem steps_of_not_pos {budget : Int} (h : ¬ 0 < budget) (r : Run κ χ) :
    r.steps budget = [] := by
  rw [steps, if_neg h]

theorem steps_of_next {budget : Int} (h : 0 < budget) {r r' : Run κ χ} (hn : r.next = .ok r') :
    r.steps budget = r :: r'.steps (budget - r.cost.toNat) := by
  rw [steps, if_pos h, hn]

theorem steps_of_error {budget : Int} (h : 0 < budget) {r : Run κ χ} {f : Fault}
    (hn : r.next = .error f) : r.steps budget = [r] := by
  rw [steps, if_pos h, hn]

theorem steps_head {budget : Int} (h : 0 < budget) (r : Run κ χ) :
    (r.steps budget)[0]? = some r := by
  rw [steps, if_pos h]
  rfl

/-- A block is spent, or a step breaks it down, or a step is settled and the block goes on. -/
theorem block_induct {motive : Int → Run κ χ → Prop}
    (spent : ∀ budget r, ¬ 0 < budget → motive budget r)
    (broken : ∀ budget r f, 0 < budget → r.next = .error f → motive budget r)
    (settled : ∀ budget r r', 0 < budget → r.next = .ok r' →
      motive (budget - r.cost.toNat) r' → motive budget r)
    (budget : Int) (r : Run κ χ) : motive budget r := by
  induction budget, r using steps.induct with
  | case1 budget r hpos ih =>
    cases hn : r.next with
    | error f => exact broken budget r f hpos hn
    | ok r' => exact settled budget r r' hpos hn (ih r')
  | case2 budget r hpos => exact spent budget r hpos

theorem steps_keep {P : Run κ χ → Prop} (keep : ∀ r r', P r → r.next = .ok r' → P r')
    (budget : Int) (r : Run κ χ) (h : P r) : ∀ s ∈ r.steps budget, P s := by
  induction budget, r using block_induct with
  | spent budget r hpos =>
    intro s hs
    rw [steps_of_not_pos hpos] at hs
    exact absurd hs List.not_mem_nil
  | broken budget r f hpos hn =>
    intro s hs
    rw [steps_of_error hpos hn, List.mem_singleton] at hs
    exact hs ▸ h
  | settled budget r r' hpos hn ih =>
    intro s hs
    rw [steps_of_next hpos hn] at hs
    rcases List.mem_cons.1 hs with rfl | hs
    · exact h
    · exact ih (keep r r' h hn) s hs

theorem spend_keep {P : Run κ χ → Prop} (keep : ∀ r r', P r → r.next = .ok r' → P r')
    (budget : Int) (r : Run κ χ) (h : P r) : ∀ s, r.spend budget = .ok s → P s := by
  intro s hs
  induction budget, r using block_induct with
  | spent budget r hpos =>
    rw [spend_of_not_pos hpos] at hs
    exact Except.ok.inj hs ▸ h
  | broken budget r f hpos hn =>
    rw [spend_of_error hpos hn] at hs
    cases hs
  | settled budget r r' hpos hn ih =>
    rw [spend_of_next hpos hn] at hs
    exact ih (keep r r' h hn) hs

theorem next_of_spend (budget : Int) (r : Run κ χ) {last : Run κ χ}
    (h : r.spend budget = .ok last) : ∀ s ∈ r.steps budget, ∃ s', s.next = .ok s' := by
  intro s hs
  induction budget, r using block_induct with
  | spent budget r hpos =>
    rw [steps_of_not_pos hpos] at hs
    exact absurd hs List.not_mem_nil
  | broken budget r f hpos hn =>
    rw [spend_of_error hpos hn] at h
    cases h
  | settled budget r r' hpos hn ih =>
    rw [spend_of_next hpos hn] at h
    rw [steps_of_next hpos hn] at hs
    rcases List.mem_cons.1 hs with rfl | hs
    · exact ⟨r', hn⟩
    · exact ih h hs

/-! ## Accesses within a step -/

def offerAccesses (r : Run κ χ) : List (BusAccess × CardBus χ) :=
  if r.attention then (Processor.interrupt r.cpu).trace r.bus else []

def executeAccesses (r : Run κ χ) : List (BusAccess × CardBus χ) :=
  if r.offer.1 = 0 then (Processor.step r.offer.2.cpu).trace r.offer.2.bus else []

/-- The accesses of the step that begins here, each with the state of the bus after it. -/
def accesses (r : Run κ χ) : List (BusAccess × CardBus χ) :=
  r.offerAccesses ++ r.executeAccesses

variable {P : CardBus χ → Prop}

theorem offer_kept (k : BusProgram.Kept P) (r : Run κ χ) (h : P r.bus) : P r.offer.2.bus := by
  unfold offer
  split
  · exact k.run _ _ h
  · exact h

theorem acted_kept (k : BusProgram.Kept P) (r : Run κ χ) (h : P r.bus) : P r.acted.bus := by
  have ho := r.offer_kept k h
  unfold acted act
  by_cases hc : r.offer.1 = 0
  · simp only [hc, ne_eq, not_true_eq_false, if_false]
    exact k.run _ _ ho
  · simpa only [hc, ne_eq, not_false_eq_true, if_true] using ho

theorem accesses_kept (k : BusProgram.Kept P) (r : Run κ χ) (h : P r.bus) :
    ∀ x ∈ r.accesses, P x.2 := by
  intro x hx
  rcases List.mem_append.1 hx with hx | hx
  · unfold offerAccesses at hx
    split at hx
    · exact k.trace _ _ h x hx
    · exact absurd hx List.not_mem_nil
  · unfold executeAccesses at hx
    split at hx
    · exact k.trace _ _ (r.offer_kept k h) x hx
    · exact absurd hx List.not_mem_nil

end Run

/-! ## Opening and closing a block -/

namespace Card

variable {κ χ : Type}

/-- The state in which a block begins: nothing of it is rendered. -/
def starting (c : Card κ χ) (memory : Memory) (frames : Nat) : Run κ χ where
  bus :=
    { memory
      device := { c.device with fm := { c.device.fm with frames, position := 0, output := #[] } }
      effects := #[] }
  cpu := c.cpu
  clock := c.clock
  attention := c.attention
  stats := { frames }
  cursor := c.clock.cursor

def opening (c : Card κ χ) (memory : Memory) (frames : Nat) : Checked (Int × Run κ χ) := do
  let _ ← mulBelow word64 frames 2
  let budget ← c.clock.budget frames
  return (budget, c.starting memory frames)

theorem opening_eq_ok {c : Card κ χ} {memory : Memory} {frames : Nat} {budget : Int}
    {start : Run κ χ} (h : c.opening memory frames = .ok (budget, start)) :
    2 * frames < word64 ∧ c.clock.budget frames = .ok budget ∧
      start = c.starting memory frames := by
  unfold opening mulBelow at h
  generalize c.clock.budget frames = granted at h ⊢
  split at h
  · cases granted with
    | error f => simp [bind, Except.bind] at h
    | ok b =>
      obtain ⟨rfl, rfl⟩ := by simpa [bind, Except.bind, pure, Except.pure] using h
      refine ⟨?_, rfl, rfl⟩
      omega
  · simp [bind, Except.bind] at h

variable [FmChip χ]

def closing (c : Card κ χ) (r : Run κ χ) : Array Frame × Card κ χ × List Effect :=
  let fm := r.bus.device.fm.finish
  (fm.output,
    { c with
      memory := some r.bus.memory
      device := { r.bus.device with fm }
      cpu := r.cpu
      clock := r.clock
      attention := r.attention
      stats := r.stats },
    r.bus.effects.toList)

variable [Processor κ]

theorem render_of_memory {c : Card κ χ} {memory : Memory} (h : c.memory = some memory)
    (frames : Nat) :
    c.render frames = (do
      let (budget, start) ← (c.opening memory frames).mapError .atOnce
      let r ← start.spend budget
      return c.closing r) := by
  unfold render opening Fm.FmPort.begin
  rw [h]
  generalize mulBelow word64 frames 2 = size
  generalize c.clock.budget frames = granted
  cases size with
  | error f => rfl
  | ok size => cases granted <;> rfl

theorem render_of_spend {c : Card κ χ} {memory : Memory} {frames : Nat} {budget : Int}
    {start last : Run κ χ} (hm : c.memory = some memory)
    (ho : c.opening memory frames = .ok (budget, start)) (hs : start.spend budget = .ok last) :
    c.render frames = .ok (c.closing last) := by
  rw [render_of_memory hm, ho]
  change (start.spend budget >>= fun r => pure (c.closing r)) = _
  rw [hs]
  rfl

theorem render_of_breakdown {c : Card κ χ} {memory : Memory} {frames : Nat} {budget : Int}
    {start : Run κ χ} {b : Breakdown} (hm : c.memory = some memory)
    (ho : c.opening memory frames = .ok (budget, start)) (hs : start.spend budget = .error b) :
    c.render frames = .error b := by
  rw [render_of_memory hm, ho]
  change (start.spend budget >>= fun r => pure (c.closing r)) = _
  rw [hs]
  rfl

theorem render_eq_ok {c c' : Card κ χ} {frames : Nat} {output : Array Frame}
    {effects : List Effect} (h : c.render frames = .ok (output, c', effects)) :
    (c.memory = none ∧ (∃ stats, c' = { c with stats }) ∧ effects = []) ∨
      ∃ memory budget start r, c.memory = some memory ∧
        c.opening memory frames = .ok (budget, start) ∧ start.spend budget = .ok r ∧
        c.closing r = (output, c', effects) := by
  cases hm : c.memory with
  | none =>
    left
    unfold render at h
    rw [hm] at h
    cases hf : mulBelow word64 frames 2 with
    | error f => simp [hf, bind, Except.bind] at h
    | ok n =>
      obtain ⟨-, rfl, rfl⟩ := by
        simpa [hf, bind, Except.bind, pure, Except.pure] using h
      exact ⟨rfl, ⟨_, rfl⟩, rfl⟩
  | some memory =>
    right
    rw [render_of_memory hm] at h
    cases ho : c.opening memory frames with
    | error f => simp [ho, bind, Except.bind] at h
    | ok opened =>
      obtain ⟨budget, start⟩ := opened
      cases hs : start.spend budget with
      | error b => simp [ho, hs, bind, Except.bind] at h
      | ok r =>
        simp only [ho, hs, mapError_ok, bind, Except.bind] at h
        exact ⟨memory, budget, start, r, rfl, ho, hs, Except.ok.inj h⟩

def steps (c : Card κ χ) (frames : Nat) : List (Run κ χ) :=
  match c.memory with
  | none => []
  | some memory =>
    match c.opening memory frames with
    | .error _ => []
    | .ok (budget, start) => start.steps budget

theorem steps_of_mem {c : Card κ χ} {frames : Nat} {r : Run κ χ} (h : r ∈ c.steps frames) :
    ∃ memory budget start, c.opening memory frames = .ok (budget, start) ∧
      c.steps frames = start.steps budget := by
  unfold steps at h ⊢
  cases hm : c.memory with
  | none => rw [hm] at h; exact absurd h List.not_mem_nil
  | some memory =>
    simp only [hm] at h ⊢
    cases ho : c.opening memory frames with
    | error f => rw [ho] at h; exact absurd h List.not_mem_nil
    | ok opened => exact ⟨memory, opened.1, opened.2, ho, rfl⟩

end Card

end FeatureCard
