import FeatureCard.Proofs.Life
import FeatureCard.ScriptedCpu

/-!
# What a scripted processor costs

The steps of a scripted processor cost what its lists say, whatever it does on its bus.
-/

namespace FeatureCard

open Fm (FmChip)

namespace ScriptedCpu

variable {σ : Type} [Bus σ]

def SameLists (c c' : ScriptedCpu) : Prop := c'.costs = c.costs ∧ c'.answers = c.answers

theorem SameLists.trans {c c' c'' : ScriptedCpu} (h : c.SameLists c') (h' : c'.SameLists c'') :
    c.SameLists c'' :=
  ⟨h'.1.trans h.1, h'.2.trans h.2⟩

theorem act_sameLists (c : ScriptedCpu) (action : ScriptAction) (s : σ) :
    c.SameLists ((c.act action).run s).1 := by
  cases action <;> exact ⟨rfl, rfl⟩

theorem perform_sameLists (c : ScriptedCpu) (actions : List ScriptAction) (s : σ) :
    c.SameLists ((c.perform actions).run s).1 := by
  induction actions generalizing c s with
  | nil => exact ⟨rfl, rfl⟩
  | cons action rest ih =>
    have hact := c.act_sameLists action s
    have hrest := ih ((c.act action).run s).1 ((c.act action).run s).2
    rw [perform, BusProgram.run_bind]
    exact hact.trans hrest

theorem turn_single (cost : UInt32) (n : Nat) : turn #[cost] n = cost := by
  simp [turn, Nat.mod_one]

theorem step_run (c : ScriptedCpu) (s : σ) :
    ((Processor.step c).run s).1.1 = turn c.costs c.steps ∧
      c.SameLists ((Processor.step c).run s).1.2 := by
  have hstep : Processor.step c = (c.perform c.due >>= fun after =>
      .done (turn c.costs c.steps,
        { after with
          steps := after.steps + 1
          total := after.total + (turn c.costs c.steps).toNat })) := rfl
  rw [hstep, BusProgram.run_bind]
  exact ⟨rfl, c.perform_sameLists c.due s⟩

theorem interrupt_run (c : ScriptedCpu) (s : σ) :
    ((Processor.interrupt c).run s).1.1 = turn c.answers c.offered ∧
      c.SameLists ((Processor.interrupt c).run s).1.2 :=
  ⟨rfl, rfl, rfl⟩

end ScriptedCpu

namespace Run

variable {χ : Type} [FmChip χ]

theorem offer_scripted (r : Run ScriptedCpu χ) :
    (r.offer.1 = 0 ∨ ∃ n, r.offer.1 = ScriptedCpu.turn r.cpu.answers n) ∧
      r.cpu.SameLists r.offer.2.cpu := by
  unfold offer
  split
  · have h := r.cpu.interrupt_run r.bus
    exact ⟨.inr ⟨_, h.1⟩, h.2⟩
  · exact ⟨.inl rfl, rfl, rfl⟩

theorem act_scripted (r : Run ScriptedCpu χ) :
    ((∃ n, r.cost = ScriptedCpu.turn r.cpu.answers n) ∨
      ∃ n, r.cost = effectiveCost (ScriptedCpu.turn r.cpu.costs n)) ∧
    r.cpu.SameLists r.acted.cpu := by
  obtain ⟨hoffer, hlists⟩ := r.offer_scripted
  unfold cost acted act
  by_cases hc : r.offer.1 = 0
  · have h := r.offer.2.cpu.step_run r.offer.2.bus
    simp only [hc, ne_eq, not_true_eq_false, if_false]
    refine ⟨.inr ⟨r.offer.2.cpu.steps, ?_⟩, hlists.trans h.2⟩
    rw [← hlists.1, ← h.1]
    rfl
  · simp only [hc, ne_eq, not_false_eq_true, if_true]
    exact ⟨.inl (hoffer.resolve_left hc), hlists⟩

theorem next_scripted {r r' : Run ScriptedCpu χ} (h : r.next = .ok r') :
    r.cpu.SameLists r'.cpu := by
  have hact := r.act_scripted.2
  obtain ⟨reached, cursor, fm, -, -, rfl⟩ := settle_eq_ok h
  exact hact

end Run

namespace Card

variable {χ : Type} [FmChip χ]

theorem steps_cost {c : Card ScriptedCpu χ} {P : UInt32 → Prop} (hstall : P stallCycles)
    (hcosts : ∀ n, P (ScriptedCpu.turn c.cpu.costs n))
    (hanswers : ∀ n, P (ScriptedCpu.turn c.cpu.answers n)) (frames : Nat) :
    ∀ r ∈ c.steps frames, P r.cost := by
  intro r hr
  obtain ⟨memory, budget, start, ho, hsteps⟩ := steps_of_mem hr
  rw [hsteps] at hr
  have hstart : c.cpu.SameLists start.cpu := by
    obtain ⟨-, -, rfl⟩ := opening_eq_ok ho
    exact ⟨rfl, rfl⟩
  have hlists := Run.steps_keep (P := fun r => c.cpu.SameLists r.cpu)
    (fun _ _ h hn => h.trans (Run.next_scripted hn)) budget start hstart r hr
  rcases r.act_scripted.1 with ⟨n, hn⟩ | ⟨n, hn⟩
  · rw [hn, hlists.2]
    exact hanswers n
  · rw [hn, hlists.1, effectiveCost]
    split
    · exact hstall
    · exact hcosts n

theorem cost_scripted {c : Card ScriptedCpu χ} {bound : Nat} (hstall : 4 < bound)
    (hcosts : ∀ n, (ScriptedCpu.turn c.cpu.costs n).toNat < bound)
    (hanswers : ∀ n, (ScriptedCpu.turn c.cpu.answers n).toNat < bound) (frames : Nat) :
    ∀ r ∈ c.steps frames, r.cost.toNat < bound :=
  steps_cost (P := fun cost => cost.toNat < bound) hstall hcosts hanswers frames

theorem perform_scripted {c c' : Card ScriptedCpu χ} {e : CardEvent} {answer : CardAnswer}
    {effects : List Effect} (h : c.perform e = .ok (answer, c', effects)) :
    c.cpu.SameLists c'.cpu := by
  rcases perform_cases h with ⟨e, -, rfl, -⟩ | ⟨rfl, -⟩ | ⟨frames, output, -, hr⟩
  · exact ⟨rfl, rfl⟩
  · exact ⟨rfl, rfl⟩
  · rcases render_eq_ok hr with ⟨-, ⟨stats, rfl⟩, -⟩ | ⟨memory, budget, start, last, -, ho, hs, hc⟩
    · exact ⟨rfl, rfl⟩
    · have hstart : c.cpu.SameLists start.cpu := by
        obtain ⟨-, -, rfl⟩ := opening_eq_ok ho
        exact ⟨rfl, rfl⟩
      have hlast := Run.spend_keep (P := fun r => c.cpu.SameLists r.cpu)
        (fun _ _ h hn => h.trans (Run.next_scripted hn)) budget start hstart last hs
      cases hc
      exact hlast

theorem life_cost {c : Card ScriptedCpu χ} {P : UInt32 → Prop} (hstall : P stallCycles)
    (hcosts : ∀ n, P (ScriptedCpu.turn c.cpu.costs n))
    (hanswers : ∀ n, P (ScriptedCpu.turn c.cpu.answers n)) (events : List CardEvent) :
    ∀ r ∈ c.life events, P r.cost := by
  induction events generalizing c with
  | nil => intro r hr; exact absurd hr List.not_mem_nil
  | cons e events ih =>
    intro r hr
    rcases List.mem_append.1 hr with hr | hr
    · cases e with
      | render frames => exact steps_cost hstall hcosts hanswers frames r hr
      | read port | write port value | timerExpired timer | midi chunk =>
        exact absurd hr List.not_mem_nil
    · cases hp : c.perform e with
      | error b => rw [hp] at hr; exact absurd hr List.not_mem_nil
      | ok result =>
        rw [hp] at hr
        obtain ⟨hsame, hsame'⟩ := perform_scripted hp
        exact ih (by rwa [hsame]) (by rwa [hsame']) r hr

theorem life_cost_single {c : Card ScriptedCpu χ} {cost : UInt32} (hcosts : c.cpu.costs = #[cost])
    (hanswers : c.cpu.answers = #[0]) {P : UInt32 → Prop} (hstall : P stallCycles) (hcost : P cost)
    (hdeclined : P 0) (events : List CardEvent) : ∀ r ∈ c.life events, P r.cost := by
  refine life_cost hstall (fun n => ?_) (fun n => ?_) events
  · rwa [hcosts, ScriptedCpu.turn_single]
  · rwa [hanswers, ScriptedCpu.turn_single]

end Card

end FeatureCard
