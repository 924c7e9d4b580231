import FeatureCard.Proofs.Settling

/-!
# What a life carries from step to step

A property that may speak of the T-states spent so far holds in every step of a life, if it holds
when the card begins, passes into a block and out of it, and is kept by each step and by all that
happens between blocks. The steps themselves follow each other as if there were no blocks.
-/

namespace FeatureCard

open Fm (FmChip)

namespace Run

variable {κ χ : Type} [Processor κ] [FmChip χ]

theorem spentBefore_append (first second : List (Run κ χ)) (k : Nat) :
    spentBefore (first ++ second) (first.length + k) =
      spentBefore first first.length + spentBefore second k := by
  rw [spentBefore, List.take_length_add_append, List.map_append, List.sum_append, spentBefore,
    List.take_length, spentBefore]

theorem spentBefore_append_of_le {first : List (Run κ χ)} {k : Nat} (h : k ≤ first.length)
    (second : List (Run κ χ)) : spentBefore (first ++ second) k = spentBefore first k := by
  rw [spentBefore, List.take_append_of_le_length h, spentBefore]

end Run

namespace Card

variable {κ χ : Type} [Processor κ] [FmChip χ]

open Run (spentBefore)

/-- `between` holds of a card and `within` of a step, each with the T-states spent before. -/
structure Carries (between : Nat → Card κ χ → Prop) (within : Nat → Run κ χ → Prop) : Prop where
  event : ∀ spent c e, e.byProcessor = false → between spent c →
    between spent { c with device := c.device.after e }
  silence : ∀ spent c stats, between spent c → between spent { c with stats }
  opening : ∀ spent c memory frames, between spent c → within spent (c.starting memory frames)
  next : ∀ spent r r', within spent r → r.next = .ok r' → within (spent + r.cost.toNat) r'
  closing : ∀ spent (c : Card κ χ) r, within spent r → between spent (c.closing r).2.1

namespace Carries

variable {between : Nat → Card κ χ → Prop} {within : Nat → Run κ χ → Prop}

theorem steps (h : Carries between within) (budget : Int) (r : Run κ χ) {spent : Nat}
    (hr : within spent r) {k : Nat} {s : Run κ χ} (hs : (r.steps budget)[k]? = some s) :
    within (spent + spentBefore (r.steps budget) k) s := by
  induction budget, r using Run.block_induct generalizing spent k with
  | spent budget r hpos =>
    rw [Run.steps_of_not_pos hpos] at hs
    cases hs
  | broken budget r f hpos hn =>
    rw [Run.steps_of_error hpos hn] at hs ⊢
    cases k with
    | zero => cases hs; exact hr
    | succ k => cases hs
  | settled budget r r' hpos hn ih =>
    rw [Run.steps_of_next hpos hn] at hs ⊢
    cases k with
    | zero => cases hs; exact hr
    | succ k =>
      rw [Run.spentBefore_succ, ← Nat.add_assoc]
      exact ih (h.next spent r r' hr hn) hs

theorem spend (h : Carries between within) (budget : Int) (r : Run κ χ) {spent : Nat}
    (hr : within spent r) {last : Run κ χ} (hlast : r.spend budget = .ok last) :
    within (spent + spentBefore (r.steps budget) (r.steps budget).length) last := by
  induction budget, r using Run.block_induct generalizing spent with
  | spent budget r hpos =>
    rw [Run.spend_of_not_pos hpos] at hlast
    cases hlast
    rw [Run.steps_of_not_pos hpos]
    exact hr
  | broken budget r f hpos hn =>
    rw [Run.spend_of_error hpos hn] at hlast
    cases hlast
  | settled budget r r' hpos hn ih =>
    rw [Run.spend_of_next hpos hn] at hlast
    rw [Run.steps_of_next hpos hn, List.length_cons, Run.spentBefore_succ, ← Nat.add_assoc]
    exact ih (h.next spent r r' hr hn) hlast

theorem stepsOf (h : Carries between within) {spent : Nat} {c : Card κ χ} (hc : between spent c)
    {e : CardEvent} {k : Nat} {r : Run κ χ} (hr : (c.stepsOf e)[k]? = some r) :
    within (spent + spentBefore (c.stepsOf e) k) r := by
  cases e with
  | render frames =>
    obtain ⟨memory, budget, start, ho, hsteps⟩ := steps_of_mem (List.mem_of_getElem? hr)
    obtain ⟨-, -, rfl⟩ := opening_eq_ok ho
    simp only [Card.stepsOf, hsteps] at hr ⊢
    exact h.steps budget _ (h.opening spent c memory frames hc) hr
  | read port | write port value | timerExpired timer | midi chunk => cases hr

theorem quiet (h : Carries between within) {spent : Nat} {c c' : Card κ χ} (hc : between spent c)
    {e : CardEvent} (hquiet : ∀ frames, e ≠ .render frames) {answer : CardAnswer}
    {effects : List Effect} (hp : c.perform e = .ok (answer, c', effects)) : between spent c' := by
  rcases perform_cases hp with ⟨d, hd, rfl, -⟩ | ⟨rfl, -⟩ | ⟨frames, output, he, -⟩
  · exact h.event spent c d hd hc
  · exact hc
  · exact absurd he (hquiet frames)

theorem perform (h : Carries between within) {spent : Nat} {c c' : Card κ χ}
    (hc : between spent c) {e : CardEvent} {answer : CardAnswer} {effects : List Effect}
    (hp : c.perform e = .ok (answer, c', effects)) :
    between (spent + spentBefore (c.stepsOf e) (c.stepsOf e).length) c' := by
  cases e with
  | render frames =>
    obtain ⟨output, hr⟩ := render_of_perform hp
    rcases render_eq_ok hr with
      ⟨hm, ⟨stats, rfl⟩, -⟩ | ⟨memory, budget, start, last, hm, ho, hs, hcl⟩
    · have hnone : c.stepsOf (.render frames) = [] := by simp only [Card.stepsOf, Card.steps, hm]
      rw [hnone]
      exact h.silence spent c stats hc
    · simp only [Card.stepsOf, steps_of_opening hm ho]
      obtain ⟨-, -, rfl⟩ := opening_eq_ok ho
      have hlast := h.spend budget _ (h.opening spent c memory frames hc) hs
      have hclosed := h.closing _ c last hlast
      rwa [hcl] at hclosed
  | read port | write port value | timerExpired timer | midi chunk =>
    exact h.quiet hc (fun frames he => by cases he) hp

theorem life (h : Carries between within) {spent : Nat} {c : Card κ χ} (hc : between spent c)
    (events : List CardEvent) {k : Nat} {r : Run κ χ} (hr : (c.life events)[k]? = some r) :
    within (spent + spentBefore (c.life events) k) r := by
  induction events generalizing c spent k with
  | nil => cases hr
  | cons e events ih =>
    rw [Card.life] at hr ⊢
    by_cases hk : k < (c.stepsOf e).length
    · rw [List.getElem?_append_left hk] at hr
      rw [Run.spentBefore_append_of_le (Nat.le_of_lt hk)]
      exact h.stepsOf hc hr
    · obtain ⟨j, rfl⟩ := Nat.exists_eq_add_of_le (Nat.le_of_not_lt hk)
      rw [List.getElem?_append_right (Nat.le_add_right _ _), Nat.add_sub_cancel_left] at hr
      rw [Run.spentBefore_append, ← Nat.add_assoc]
      cases hp : c.perform e with
      | error b => rw [hp] at hr; cases hr
      | ok result =>
        rw [hp] at hr
        exact ih (h.perform hc hp) hr

end Carries

end Card

/-! ## From step to step -/

section Passing

variable {κ χ β : Type} [Processor κ] [FmChip χ]

/-- Each step begins with what the one before it left, as `within` tells it, and the first one with
`x`. After a step that breaks down there is none. -/
def Linked (within : Run κ χ → β) (x : β) : List (Run κ χ) → Prop
  | [] => True
  | r :: rest =>
    within r = x ∧
      match r.next with
      | .ok r' => Linked within (within r') rest
      | .error _ => rest = []

namespace Linked

variable {within : Run κ χ → β} {x : β} {steps : List (Run κ χ)}

theorem first (h : Linked within x steps) {r : Run κ χ} (hr : steps[0]? = some r) :
    within r = x := by
  cases steps with
  | nil => cases hr
  | cons s rest =>
    cases hr
    exact h.1

theorem succ (h : Linked within x steps) {k : Nat} {r s : Run κ χ} (hs : steps[k]? = some s)
    (hr : steps[k + 1]? = some r) : ∃ s', s.next = .ok s' ∧ within r = within s' := by
  induction steps generalizing x k with
  | nil => cases hs
  | cons t rest ih =>
    obtain ⟨-, hrest⟩ := h
    cases hn : t.next with
    | error f =>
      simp only [hn] at hrest
      subst hrest
      cases hr
    | ok t' =>
      simp only [hn] at hrest
      cases k with
      | zero =>
        cases hs
        exact ⟨t', hn, hrest.first hr⟩
      | succ k => exact ih hrest hs hr

end Linked

/-- `between` tells of a card what `within` tells of a step: it passes into a block and out of it,
and is left alone by all that happens between blocks. -/
structure Card.Passes (between : Card κ χ → β) (within : Run κ χ → β) : Prop where
  event : ∀ c e, e.byProcessor = false →
    between { c with device := c.device.after e } = between c
  silence : ∀ c stats, between { c with stats } = between c
  opening : ∀ c memory frames, within (c.starting memory frames) = between c
  closing : ∀ (c : Card κ χ) r, between (c.closing r).2.1 = within r

namespace Card.Passes

variable {between : Card κ χ → β} {within : Run κ χ → β}

theorem perform (h : Passes between within) {c c' : Card κ χ} {e : CardEvent}
    {answer : CardAnswer} {effects : List Effect}
    (hquiet : ∀ frames, e = .render frames → c.memory = none)
    (hp : c.perform e = .ok (answer, c', effects)) : between c' = between c := by
  rcases perform_cases hp with ⟨d, hd, rfl, -⟩ | ⟨rfl, -⟩ | ⟨frames, output, rfl, hrender⟩
  · exact h.event c d hd
  · rfl
  · rcases render_eq_ok hrender with ⟨-, ⟨stats, rfl⟩, -⟩ | ⟨memory, budget, start, r, hm, -⟩
    · exact h.silence c stats
    · rw [hquiet frames rfl] at hm
      cases hm

theorem live (h : Passes between within) {c c' : Card κ χ} {events : List CardEvent}
    (hquiet : ∀ e ∈ events, ∀ frames, e ≠ .render frames) (hl : c.live events = .ok c') :
    between c' = between c := by
  induction events generalizing c with
  | nil => exact Except.ok.inj hl ▸ rfl
  | cons e events ih =>
    obtain ⟨answer, c₁, effects, hp, hlater⟩ := live_cons.1 hl
    have hfirst := h.perform (fun frames he => absurd he (hquiet e List.mem_cons_self frames)) hp
    rw [ih (fun d hd => hquiet d (List.mem_cons_of_mem e hd)) hlater, hfirst]

theorem linked_steps (budget : Int) (r : Run κ χ) {rest : List (Run κ χ)}
    (hspent : ∀ last, r.spend budget = .ok last → Linked within (within last) rest)
    (hbroken : ∀ b, r.spend budget = .error b → rest = []) :
    Linked within (within r) (r.steps budget ++ rest) := by
  induction budget, r using Run.block_induct with
  | spent budget r hpos =>
    rw [Run.steps_of_not_pos hpos]
    exact hspent r (Run.spend_of_not_pos hpos r)
  | broken budget r f hpos hn =>
    rw [Run.steps_of_error hpos hn, hbroken _ (Run.spend_of_error hpos hn)]
    refine ⟨rfl, ?_⟩
    simp only [hn]
    rfl
  | settled budget r r' hpos hn ih =>
    rw [Run.spend_of_next hpos hn] at hspent hbroken
    rw [Run.steps_of_next hpos hn]
    refine ⟨rfl, ?_⟩
    simp only [hn]
    exact ih hspent hbroken

theorem linked_quiet (h : Passes between within) {c : Card κ χ} {e : CardEvent}
    {events : List CardEvent} (hquiet : ∀ frames, e = .render frames → c.memory = none)
    (hlater : ∀ c' : Card κ χ, Linked within (between c') (c'.life events)) :
    Linked within (between c) (c.life (e :: events)) := by
  have hnone : c.stepsOf e = [] := by
    cases e with
    | render frames => simp only [Card.stepsOf, Card.steps, hquiet frames rfl]
    | read port | write port value | timerExpired timer | midi chunk => rfl
  unfold life
  rw [hnone, List.nil_append]
  cases hp : c.perform e with
  | error b => trivial
  | ok result =>
    obtain ⟨answer, c', effects⟩ := result
    rw [← h.perform hquiet hp]
    exact hlater c'

theorem linked_render (h : Passes between within) {c : Card κ χ} {memory : Memory}
    (hm : c.memory = some memory) (frames : Nat) {events : List CardEvent}
    (hlater : ∀ c' : Card κ χ, Linked within (between c') (c'.life events)) :
    Linked within (between c) (c.life (.render frames :: events)) := by
  simp only [life, stepsOf, Card.perform]
  cases ho : c.opening memory frames with
  | error f =>
    have hnone : c.steps frames = [] := by simp only [steps, hm, ho]
    rw [render_of_memory hm, ho, hnone]
    trivial
  | ok opened =>
    obtain ⟨budget, start⟩ := opened
    obtain ⟨-, -, rfl⟩ := opening_eq_ok ho
    rw [steps_of_opening hm ho, ← h.opening c memory frames]
    refine linked_steps budget _ (fun last hlast => ?_) (fun b hb => ?_)
    · rw [render_of_spend hm ho hlast, ← h.closing c]
      exact hlater _
    · rw [render_of_breakdown hm ho hb]
      rfl

/-- The steps of a life are linked as if there were no blocks. -/
theorem life (h : Passes between within) (c : Card κ χ) (events : List CardEvent) :
    Linked within (between c) (c.life events) := by
  induction events generalizing c with
  | nil => trivial
  | cons e events ih =>
    cases e with
    | read port | write port value | timerExpired timer | midi chunk =>
      exact h.linked_quiet (fun frames he => by cases he) fun c' => ih c'
    | render frames =>
      cases hm : c.memory with
      | none => exact h.linked_quiet (fun _ _ => hm) fun c' => ih c'
      | some memory => exact h.linked_render hm frames fun c' => ih c'

end Card.Passes

end Passing

end FeatureCard
