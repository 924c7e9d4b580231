import FeatureCard.Proofs.Scheduling
import Mathlib.Data.Rat.Floor
import Mathlib.Tactic.Linarith
import Mathlib.Tactic.Ring

/-!
# Firing timers slice by slice

A host with a clock is driven in slices: its time moves on, and then timers fire until none is due.
A timer that fires is started again from the moment at which it was due. So, with moments counted
exactly, it makes no difference into how many slices the time is cut.
-/

namespace FeatureCard

/-- The span in milliseconds, without rounding. -/
def Period.exactMillis (p : Period) : Rat := 1000 / p.hertz * p.ticks

namespace Hosts

open Fm (FmChip)

namespace Offline

variable {τ χ : Type}

theorem deadline_setDeadline (h : Offline τ) (timer other : Timer) (at? : Option τ) :
    (h.setDeadline timer at?).deadline other = if other = timer then at? else h.deadline other := by
  cases timer <;> cases other <;> rfl

variable [Instant τ] {span : Period → τ}

/-! ## What a host keeps of the card's requests -/

theorem deadline_hear (h : Offline τ) (effects : List Effect) (timer : Timer) :
    (h.hear span effects).deadline timer =
      (Effect.callsFor timer effects).foldl
        (HostCall.leaves (fun p => Instant.add h.now (span p)) timer) (h.deadline timer) := by
  unfold hear Effect.callsFor
  rw [← HostCall.foldl_leaves]
  induction Effect.calls effects generalizing h with
  | nil => rfl
  | cons call calls ih =>
    have hnow : (h.receive (call.map span)).now = h.now := by
      cases call with
      | raise irq | lower irq => rfl
      | schedule t period | cancel t => cases t <;> rfl
    have hdeadline : (h.receive (call.map span)).deadline timer =
        call.leaves (fun p => Instant.add h.now (span p)) timer (h.deadline timer) := by
      cases call with
      | raise irq | lower irq => rfl
      | schedule t period | cancel t => cases t <;> cases timer <;> rfl
    rw [List.foldl_cons, ih, hnow, hdeadline, List.foldl_cons]

namespace Fired

/-! ## One firing -/

/-- The timer that is due fires at its deadline, and time returns to now. -/
def fire (f : Fired τ χ) (span : Period → τ) (due : Timer × τ) : Fired τ χ :=
  let (device, effects) := f.device.timerExpired due.1
  { firings := f.firings.push due
    device
    host := ({ f.host.setDeadline due.1 none with now := due.2 }.hear span effects).advanceTo
      f.host.now
    effects := f.effects ++ effects }

theorem next_eq (f : Fired τ χ) : f.next span = f.host.earliest.map (f.fire span) := by
  unfold next nextDue
  cases f.host.earliest <;> rfl

theorem fire_now (f : Fired τ χ) (due : Timer × τ) : (f.fire span due).host.now = f.host.now := rfl

theorem fire_timers (f : Fired τ χ) (due : Timer × τ) :
    (f.fire span due).device.timers = f.device.timers := rfl

theorem fire_deadline [FmChip χ] (f : Fired τ χ) (due : Timer × τ) (timer : Timer) :
    (f.fire span due).host.deadline timer =
      if timer = due.1 then
        (f.device.timers.period timer).map fun p => Instant.add due.2 (span p)
      else f.host.deadline timer := by
  have hcalls := (f.device.turns (.timerExpired due.1) timer).calls
  rw [TimerBlock.react_expired] at hcalls
  change (hear _ span (f.device.effectsOf (.timerExpired due.1))).deadline timer = _
  rw [deadline_hear, hcalls]
  change List.foldl _ ((f.host.setDeadline due.1 none).deadline timer) _ = _
  rw [deadline_setDeadline]
  by_cases hsame : timer = due.1
  · subst hsame
    cases f.device.timers.period due.1 <;> simp [HostCall.leaves]
  · rw [if_neg hsame, if_neg hsame, if_neg (Ne.symm hsame)]
    rfl

/-! ## Firing until no timer is due -/

/-- Timers fire, one after the other, until none is due. -/
inductive Ends (span : Period → τ) : Fired τ χ → List (Timer × τ) → Fired τ χ → Prop
  | done {f} : f.host.earliest = none → Ends span f [] f
  | fire {f due firings g} : f.host.earliest = some due → Ends span (f.fire span due) firings g →
      Ends span f (due :: firings) g

theorem Ends.unique {f g h : Fired τ χ} {first second : List (Timer × τ)}
    (hf : Ends span f first g) (hs : Ends span f second h) : g = h := by
  induction hf generalizing second with
  | done hnone =>
    cases hs with
    | done => rfl
    | fire hdue => rw [hnone] at hdue; cases hdue
  | fire hdue _ ih =>
    cases hs with
    | done hnone => rw [hnone] at hdue; cases hdue
    | fire hdue' hrest =>
      rw [hdue] at hdue'
      cases hdue'
      exact ih hrest

/-- As many rounds as there are firings are enough. -/
theorem Ends.run {f g : Fired τ χ} {firings : List (Timer × τ)} (h : Ends span f firings g)
    {rounds : Nat} (hrounds : firings.length ≤ rounds) : Fired.run span rounds f = g := by
  induction h generalizing rounds with
  | done hnone =>
    cases rounds with
    | zero => rfl
    | succ rounds => simp only [Fired.run, next_eq, hnone, Option.map_none]
  | fire hdue _ ih =>
    cases rounds with
    | zero => cases hrounds
    | succ rounds =>
      simp only [Fired.run, next_eq, hdue, Option.map_some]
      exact ih (Nat.le_of_succ_le_succ hrounds)

theorem Ends.firings {f g : Fired τ χ} {firings : List (Timer × τ)} (h : Ends span f firings g) :
    g.firings = f.firings ++ firings := by
  induction h with
  | done => simp
  | fire _ _ ih => simp [ih, Fired.fire]

theorem Ends.now {f g : Fired τ χ} {firings : List (Timer × τ)} (h : Ends span f firings g) :
    g.host.now = f.host.now := by
  induction h with
  | done => rfl
  | fire _ _ ih => exact ih

theorem Ends.earliest {f g : Fired τ χ} {firings : List (Timer × τ)} (h : Ends span f firings g) :
    g.host.earliest = none := by
  induction h with
  | done hnone => exact hnone
  | fire _ _ ih => exact ih

/-! ## What was fired before -/

/-- The firings and effects of `f` come after those of `earlier`. -/
def since (earlier f : Fired τ χ) : Fired τ χ :=
  { f with
    firings := earlier.firings ++ f.firings
    effects := earlier.effects ++ f.effects }

theorem fire_since (earlier f : Fired τ χ) (due : Timer × τ) :
    (earlier.since f).fire span due = earlier.since (f.fire span due) := by
  have hassoc (effects : List Effect) :
      earlier.effects ++ f.effects ++ effects = earlier.effects ++ (f.effects ++ effects) := by
    apply Array.ext'
    simp
  simp [since, fire, hassoc]

theorem Ends.since {f g : Fired τ χ} {firings : List (Timer × τ)} (h : Ends span f firings g)
    (earlier : Fired τ χ) : Ends span (earlier.since f) firings (earlier.since g) := by
  induction h with
  | done hnone => exact .done hnone
  | fire hdue _ ih => exact .fire hdue (by rwa [fire_since])

/-! ## Slices -/

def advanceTo (f : Fired τ χ) (target : τ) : Fired τ χ :=
  { f with host := f.host.advanceTo target }

/-- One slice: time moves on to `target`, and timers fire until none is due. -/
def slice (f : Fired τ χ) (span : Period → τ) (target : τ) : Fired τ χ :=
  f.since ((f.host.advanceTo target).fireDue span f.device)

theorem fire_advanceTo (f : Fired τ χ) (target : τ) (due : Timer × τ) :
    (f.advanceTo target).fire span due = (f.fire span due).advanceTo target := by
  cases due with
  | mk timer d => cases timer <;> rfl

end Fired
end Offline

/-! ## Exact moments -/

/-- Moments as exact numbers. -/
instance : Instant Rat where
  zero := 0
  add := (· + ·)
  reached deadline now := decide (deadline ≤ now)
  notAfter a b := decide (a ≤ b)
  spans first last span := ⌊(last - first) / span⌋.toNat

/-- The first firing comes before the second: earlier, or at the same moment timer A before B. -/
def Precedes (x y : Timer × Rat) : Prop := x.2 < y.2 ∨ x.2 = y.2 ∧ x.1 = .a ∧ y.1 = .b

theorem Precedes.le {x y : Timer × Rat} (h : Precedes x y) : x.2 ≤ y.2 := by
  rcases h with hlt | ⟨heq, -⟩
  · exact hlt.le
  · exact heq.le

theorem Precedes.asymm {x y : Timer × Rat} (h : Precedes x y) : ¬ Precedes y x := by
  rintro (hlt | ⟨heq, ha, hb⟩)
  · exact absurd hlt h.le.not_gt
  · rcases h with hlt | ⟨-, ha', -⟩
    · exact absurd hlt heq.le.not_gt
    · rw [ha'] at hb
      cases hb

theorem Precedes.trans_le {x y : Timer × Rat} (h : Precedes x y) {later : Rat} (hle : y.2 ≤ later) :
    Precedes x (y.1, later) := by
  rcases hle.lt_or_eq with hlt | rfl
  · exact .inl (h.le.trans_lt hlt)
  · exact h

namespace Offline

theorem dueAt_eq_some (h : Offline Rat) (timer : Timer) (d : Rat) :
    h.dueAt timer = some d ↔ h.deadline timer = some d ∧ d ≤ h.now := by
  simp [dueAt, Option.filter_eq_some_iff, Instant.reached]

theorem dueAt_eq_none (h : Offline Rat) (timer : Timer) :
    h.dueAt timer = none ↔ ∀ d, h.deadline timer = some d → h.now < d := by
  simp [dueAt, Option.filter_eq_none_iff, Instant.reached]

theorem earliest_eq_none (h : Offline Rat) :
    h.earliest = none ↔ ∀ timer d, h.deadline timer = some d → h.now < d := by
  have hnone : h.earliest = none ↔ h.dueAt .a = none ∧ h.dueAt .b = none := by
    unfold earliest
    cases h.dueAt .a <;> cases h.dueAt .b <;> simp
    split <;> simp
  rw [hnone, dueAt_eq_none, dueAt_eq_none]
  constructor
  · rintro ⟨ha, hb⟩ timer
    cases timer with
    | a => exact ha
    | b => exact hb
  · intro hall
    exact ⟨hall .a, hall .b⟩

theorem due_of_earliest {h : Offline Rat} {due : Timer × Rat} (he : h.earliest = some due) :
    h.deadline due.1 = some due.2 ∧ due.2 ≤ h.now :=
  (dueAt_eq_some h due.1 due.2).1 (dueAt_of_earliest he)

theorem precedes_of_earliest {h : Offline Rat} {due : Timer × Rat} (he : h.earliest = some due)
    {other : Timer} {d : Rat} (hother : other ≠ due.1) (hd : h.deadline other = some d) :
    Precedes due (other, d) := by
  obtain ⟨timer, e⟩ := due
  have hdue := dueAt_of_earliest he
  rcases lt_or_ge h.now d with hlate | hnow
  · exact .inl ((due_of_earliest he).2.trans_lt hlate)
  · have hdue' := (dueAt_eq_some h other d).2 ⟨hd, hnow⟩
    unfold earliest at he
    cases timer with
    | a =>
      cases other with
      | a => exact absurd rfl hother
      | b =>
        have hle : e ≤ d := by
          by_contra hnot
          simp [hdue, hdue', Instant.notAfter, hnot] at he
        rcases hle.lt_or_eq with hlt | heq
        · exact .inl hlt
        · exact .inr ⟨heq, rfl, rfl⟩
    | b =>
      cases other with
      | a =>
        have hnot : ¬ d ≤ e := by
          intro hle
          simp [hdue, hdue', Instant.notAfter, hle] at he
        exact .inl (not_le.1 hnot)
      | b => exact absurd rfl hother

theorem earliest_eq_some (h : Offline Rat) (due : Timer × Rat) :
    h.earliest = some due ↔
      (h.deadline due.1 = some due.2 ∧ due.2 ≤ h.now) ∧
        ∀ other d, other ≠ due.1 → h.deadline other = some d → Precedes due (other, d) := by
  constructor
  · intro he
    exact ⟨due_of_earliest he, fun other d hother hd => precedes_of_earliest he hother hd⟩
  · rintro ⟨⟨hdeadline, hnow⟩, hfirst⟩
    cases he : h.earliest with
    | none =>
      have hlate := (earliest_eq_none h).1 he due.1 due.2 hdeadline
      exact absurd hnow hlate.not_ge
    | some due' =>
      obtain ⟨hdeadline', -⟩ := due_of_earliest he
      by_cases hsame : due'.1 = due.1
      · rw [hsame, hdeadline] at hdeadline'
        rw [Prod.ext hsame (Option.some.inj hdeadline').symm]
      · have hbefore := precedes_of_earliest he (Ne.symm hsame) hdeadline
        exact absurd (hfirst due'.1 due'.2 hsame hdeadline') hbefore.asymm

theorem earliest_of_le {h : Offline Rat} {due : Timer × Rat} {target : Rat}
    (he : h.earliest = some due) (hle : h.now ≤ target) :
    (h.advanceTo target).earliest = some due := by
  obtain ⟨⟨hdeadline, hnow⟩, hfirst⟩ := (earliest_eq_some h due).1 he
  exact (earliest_eq_some _ due).2 ⟨⟨hdeadline, hnow.trans hle⟩, hfirst⟩

namespace Fired

variable {χ : Type} {span : Period → Rat}

/-! ## One slice or two -/

theorem Ends.append {f g h : Fired Rat χ} {first second : List (Timer × Rat)} {target : Rat}
    (hf : Ends span f first g) (hle : f.host.now ≤ target)
    (hg : Ends span (g.advanceTo target) second h) :
    Ends span (f.advanceTo target) (first ++ second) h := by
  induction hf with
  | done => exact hg
  | fire hdue _ ih =>
    refine .fire (earliest_of_le hdue hle) ?_
    rw [fire_advanceTo]
    exact ih hle hg

/-! ## Every slice ends -/

/-- Each pending deadline is that of a timer with a period. -/
def Periodic (span : Period → Rat) (f : Fired Rat χ) : Prop :=
  ∀ timer d, f.host.deadline timer = some d →
    ∃ p, f.device.timers.period timer = some p ∧ 0 < span p

/-- `rounds` periods after its deadline each timer is beyond now. -/
def Within (span : Period → Rat) (rounds : Timer → Nat) (f : Fired Rat χ) : Prop :=
  ∀ timer d, f.host.deadline timer = some d →
    ∃ p, f.device.timers.period timer = some p ∧ 0 < span p ∧
      f.host.now < d + rounds timer * span p

theorem Periodic.within {f : Fired Rat χ} (h : f.Periodic span) :
    f.Within span (f.host.firingsOf span f.device) := by
  intro timer d hd
  obtain ⟨p, hp, hpos⟩ := h timer d hd
  refine ⟨p, hp, hpos, ?_⟩
  have hfloor : (f.host.now - d) / span p < ⌊(f.host.now - d) / span p⌋.toNat + 1 := by
    have hcast : (⌊(f.host.now - d) / span p⌋ : Rat) ≤ ⌊(f.host.now - d) / span p⌋.toNat := by
      exact_mod_cast Int.self_le_toNat _
    have hlt := Int.lt_floor_add_one ((f.host.now - d) / span p)
    linarith
  rw [div_lt_iff₀ hpos] at hfloor
  simp only [firingsOf, hd, hp, Instant.spans, Nat.cast_add, Nat.cast_one]
  linarith

variable [FmChip χ]

theorem fire_deadline_same {f : Fired Rat χ} {due : Timer × Rat} {p : Period}
    (hp : f.device.timers.period due.1 = some p) :
    (f.fire span due).host.deadline due.1 = some (due.2 + span p) := by
  rw [fire_deadline, if_pos rfl, hp]
  rfl

theorem fire_deadline_other {f : Fired Rat χ} {due : Timer × Rat} {timer : Timer}
    (hne : timer ≠ due.1) : (f.fire span due).host.deadline timer = f.host.deadline timer := by
  rw [fire_deadline, if_neg hne]

theorem Periodic.fire {f : Fired Rat χ} (h : f.Periodic span) {due : Timer × Rat}
    (he : f.host.earliest = some due) : (f.fire span due).Periodic span := by
  intro timer d hd
  rw [fire_timers]
  by_cases hsame : timer = due.1
  · exact h timer due.2 (hsame ▸ (due_of_earliest he).1)
  · rw [fire_deadline_other hsame] at hd
    exact h timer d hd

theorem Ends.periodic {f g : Fired Rat χ} {firings : List (Timer × Rat)}
    (h : Ends span f firings g) (hf : f.Periodic span) : g.Periodic span := by
  induction h with
  | done => exact hf
  | fire hdue _ ih => exact ih (hf.fire hdue)

theorem Within.fire {f : Fired Rat χ} {rounds : Timer → Nat} (h : f.Within span rounds)
    {due : Timer × Rat} (he : f.host.earliest = some due) :
    ∃ left, rounds due.1 = left + 1 ∧
      (f.fire span due).Within span (Function.update rounds due.1 left) := by
  obtain ⟨hdeadline, hnow⟩ := due_of_earliest he
  obtain ⟨p, hp, hpos, hlt⟩ := h due.1 due.2 hdeadline
  obtain ⟨left, hleft⟩ : ∃ left, rounds due.1 = left + 1 := by
    apply Nat.exists_eq_succ_of_ne_zero
    intro hzero
    rw [hzero, Nat.cast_zero, zero_mul, add_zero] at hlt
    exact absurd hnow hlt.not_ge
  refine ⟨left, hleft, ?_⟩
  intro timer d hd
  rw [fire_timers, fire_now]
  by_cases hsame : timer = due.1
  · subst hsame
    rw [fire_deadline_same hp] at hd
    refine ⟨p, hp, hpos, ?_⟩
    rw [Function.update_self, ← Option.some.inj hd]
    rw [hleft, Nat.cast_succ] at hlt
    linarith
  · rw [fire_deadline_other hsame] at hd
    rw [Function.update_of_ne hsame]
    exact h timer d hd

theorem Within.exists_ends {f : Fired Rat χ} {rounds : Timer → Nat} (h : f.Within span rounds) :
    ∃ firings g, Ends span f firings g ∧ firings.length ≤ rounds .a + rounds .b := by
  induction hn : rounds .a + rounds .b generalizing f rounds with
  | zero =>
    cases he : f.host.earliest with
    | none => exact ⟨[], f, .done he, Nat.le_refl _⟩
    | some due =>
      obtain ⟨left, hleft, -⟩ := h.fire he
      obtain ⟨timer, d⟩ := due
      cases timer <;> dsimp only at hleft <;> omega
  | succ n ih =>
    cases he : f.host.earliest with
    | none => exact ⟨[], f, .done he, Nat.zero_le _⟩
    | some due =>
      obtain ⟨left, hleft, hrest⟩ := h.fire he
      have hn' :
          Function.update rounds due.1 left .a + Function.update rounds due.1 left .b = n := by
        obtain ⟨timer, d⟩ := due
        cases timer <;> simp at hleft ⊢ <;> omega
      obtain ⟨firings, g, hends, hlength⟩ := ih hrest hn'
      exact ⟨due :: firings, g, .fire he hends, Nat.succ_le_succ hlength⟩

theorem Periodic.slice_ends {f : Fired Rat χ} (h : f.Periodic span) (target : Rat) :
    ∃ firings, Ends span (f.advanceTo target) firings (f.slice span target) := by
  let start : Fired Rat χ := { device := f.device, host := f.host.advanceTo target }
  have hstart : start.Periodic span := h
  obtain ⟨firings, g, hends, hlength⟩ := hstart.within.exists_ends
  have hslice : f.slice span target = f.since g := by
    rw [slice, fireDue, firingLimit, hends.run hlength]
  have hfrom : f.since start = f.advanceTo target := by simp [since, start, Fired.advanceTo]
  exact ⟨firings, hslice ▸ hfrom ▸ hends.since f⟩

theorem Periodic.slice {f : Fired Rat χ} (h : f.Periodic span) (target : Rat) :
    (f.slice span target).Periodic span := by
  obtain ⟨firings, hends⟩ := h.slice_ends target
  exact hends.periodic h

theorem slice_slice {f : Fired Rat χ} (h : f.Periodic span) {first second : Rat}
    (hle : first ≤ second) : (f.slice span first).slice span second = f.slice span second := by
  obtain ⟨earlier, hfirst⟩ := h.slice_ends first
  obtain ⟨later, hsecond⟩ := (h.slice first).slice_ends second
  obtain ⟨all, hall⟩ := h.slice_ends second
  exact (hfirst.append hle hsecond).unique hall

/-- Slice by slice, to all these targets in order. -/
def slices (f : Fired Rat χ) (span : Period → Rat) (targets : List Rat) : Fired Rat χ :=
  targets.foldl (fun f target => f.slice span target) f

omit [FmChip χ] in
theorem slices_snoc (f : Fired Rat χ) (targets : List Rat) (last : Rat) :
    f.slices span (targets ++ [last]) = (f.slices span targets).slice span last := by
  simp only [slices, List.foldl_append, List.foldl_cons, List.foldl_nil]

theorem Periodic.slices {f : Fired Rat χ} (h : f.Periodic span) (targets : List Rat) :
    (f.slices span targets).Periodic span := by
  induction targets generalizing f with
  | nil => exact h
  | cons target targets ih => exact ih (h.slice target)

theorem Periodic.slices_concat {f : Fired Rat χ} (h : f.Periodic span) {targets : List Rat}
    {last : Rat} (hle : ∀ target ∈ targets, target ≤ last) :
    f.slices span (targets ++ [last]) = f.slice span last := by
  induction targets generalizing f with
  | nil => rfl
  | cons target targets ih =>
    obtain ⟨hfirst, hrest⟩ := List.forall_mem_cons.1 hle
    have hskip := ih (h.slice target) hrest
    rw [slice_slice h hfirst] at hskip
    exact hskip

/-! ## When timers fire -/

/-- The moments at which `timer` fired. -/
def momentsOf (timer : Timer) (firings : List (Timer × Rat)) : List Rat :=
  (firings.filter fun x => x.1 == timer).map Prod.snd

theorem Ends.momentsOf_none {f g : Fired Rat χ} {firings : List (Timer × Rat)}
    (h : Ends span f firings g) {timer : Timer} (hnone : f.host.deadline timer = none) :
    momentsOf timer firings = [] := by
  induction h with
  | done => rfl
  | fire hdue _ ih =>
    rename_i due _ _ _
    have hne : timer ≠ due.1 := by
      rintro rfl
      rw [(due_of_earliest hdue).1] at hnone
      cases hnone
    have hrest := ih (by rw [fire_deadline_other hne, hnone])
    rwa [momentsOf, List.filter_cons_of_neg (by simpa using Ne.symm hne)]

theorem Ends.momentsOf_eq {f g : Fired Rat χ} {firings : List (Timer × Rat)}
    (h : Ends span f firings g) {timer : Timer} {d : Rat} {p : Period}
    (hd : f.host.deadline timer = some d) (hp : f.device.timers.period timer = some p)
    (hpos : 0 < span p) :
    ∃ n, momentsOf timer firings = (List.range n).map (fun k : Nat => d + k * span p) ∧
      ∀ k : Nat, k < n ↔ d + k * span p ≤ f.host.now := by
  induction h generalizing d with
  | done hnone =>
    have hlate := (earliest_eq_none _).1 hnone timer d hd
    refine ⟨0, rfl, fun k => iff_of_false (Nat.not_lt_zero k) ?_⟩
    have hk : 0 ≤ k * span p := by positivity
    linarith
  | fire hdue _ ih =>
    rename_i f due firings g _
    by_cases hsame : timer = due.1
    · subst hsame
      obtain ⟨hdeadline, hnow⟩ := due_of_earliest hdue
      obtain rfl : d = due.2 := by
        rw [hd] at hdeadline
        exact Option.some.inj hdeadline
      obtain ⟨n, hmoments, hlast⟩ := ih (fire_deadline_same hp) hp
      refine ⟨n + 1, ?_, ?_⟩
      · rw [momentsOf, List.filter_cons_of_pos (by simp), List.map_cons, ← momentsOf, hmoments,
          List.range_succ_eq_map, List.map_cons, List.map_map]
        congr 1
        · simp
        · apply List.map_congr_left
          intro k _
          simp only [Function.comp_apply, Nat.cast_succ]
          ring
      · intro k
        cases k with
        | zero => simpa using hnow
        | succ k =>
          rw [Nat.succ_lt_succ_iff, hlast, fire_now, Nat.cast_succ]
          ring_nf
    · have hother : (f.fire span due).host.deadline timer = _ := fire_deadline_other hsame
      obtain ⟨n, hmoments, hlast⟩ := ih (hother.trans hd) hp
      refine ⟨n, ?_, hlast⟩
      rwa [momentsOf, List.filter_cons_of_neg (by simpa using Ne.symm hsame)]

theorem Ends.deadline_le {f g : Fired Rat χ} {firings : List (Timer × Rat)}
    (h : Ends span f firings g) (hf : f.Periodic span) {x : Timer × Rat} (hx : x ∈ firings) :
    ∃ d, f.host.deadline x.1 = some d ∧ d ≤ x.2 := by
  induction h with
  | done => cases hx
  | @fire f due firings g hdue _ ih =>
    obtain ⟨hdeadline, -⟩ := due_of_earliest hdue
    obtain ⟨p, hp, hpos⟩ := hf due.1 due.2 hdeadline
    rcases List.mem_cons.1 hx with rfl | hx
    · exact ⟨x.2, hdeadline, le_refl _⟩
    · obtain ⟨d, hd, hle⟩ := ih (hf.fire hdue) hx
      by_cases hsame : x.1 = due.1
      · rw [hsame, fire_deadline_same hp] at hd
        have hd := Option.some.inj hd
        exact ⟨due.2, hsame ▸ hdeadline, by linarith⟩
      · rw [fire_deadline_other hsame] at hd
        exact ⟨d, hd, hle⟩

theorem Ends.ordered {f g : Fired Rat χ} {firings : List (Timer × Rat)}
    (h : Ends span f firings g) (hf : f.Periodic span) : firings.Pairwise Precedes := by
  induction h with
  | done => exact .nil
  | @fire f due firings g hdue hrest ih =>
    refine .cons ?_ (ih (hf.fire hdue))
    intro x hx
    obtain ⟨d, hd, hle⟩ := hrest.deadline_le (hf.fire hdue) hx
    by_cases hsame : x.1 = due.1
    · obtain ⟨p, hp, hpos⟩ := hf due.1 due.2 (due_of_earliest hdue).1
      rw [hsame, fire_deadline_same hp] at hd
      have hd := Option.some.inj hd
      exact .inl (by linarith)
    · rw [fire_deadline_other hsame] at hd
      exact (precedes_of_earliest hdue hsame hd).trans_le hle

/-- What has happened from `start` on when all that is due by `target` has fired. -/
structure FiredBy (span : Period → Rat) (start : Fired Rat χ) (target : Rat) (f : Fired Rat χ) :
    Prop where
  /-- A timer fires at its deadline and after each of its periods, up to the target. -/
  fires : ∀ timer d p, start.host.deadline timer = some d →
    start.device.timers.period timer = some p →
    ∃ n, momentsOf timer f.firings.toList = (List.range n).map (fun k : Nat => d + k * span p) ∧
      ∀ k : Nat, k < n ↔ d + k * span p ≤ target
  silent : ∀ timer, start.host.deadline timer = none → momentsOf timer f.firings.toList = []
  ordered : f.firings.toList.Pairwise Precedes
  now : f.host.now = target
  pending : ∀ timer d, f.host.deadline timer = some d → target < d

theorem Periodic.firedBy {start : Fired Rat χ} (h : start.Periodic span)
    (hfirst : start.firings = #[]) (target : Rat) :
    start.FiredBy span target (start.slice span target) := by
  obtain ⟨firings, hends⟩ := h.slice_ends target
  have hfirings : (start.slice span target).firings.toList = firings := by
    have happend := hends.firings
    change _ = start.firings ++ firings at happend
    rw [happend, hfirst]
    simp
  constructor
  case fires =>
    intro timer d p hd hp
    obtain ⟨p', hp', hpos⟩ := h timer d hd
    obtain rfl : p = p' := Option.some.inj (hp.symm.trans hp')
    rw [hfirings]
    exact hends.momentsOf_eq hd hp hpos
  case silent =>
    intro timer hnone
    rw [hfirings]
    exact hends.momentsOf_none hnone
  case ordered =>
    rw [hfirings]
    exact hends.ordered h
  case now => exact hends.now
  case pending =>
    intro timer d hd
    have hlate := (earliest_eq_none _).1 hends.earliest timer d hd
    rwa [hends.now] at hlate

end Fired

end Offline

open Offline (Fired)

/-- Driving a host in slices fires what driving it in one does: the same timers at the same moments,
with the same calls on the way and the same card and host at the end. Each slice ends because no
timer is due any more. -/
theorem slices_make_no_difference {χ : Type} [FmChip χ] (span : Period → Rat) (device : Device χ)
    (host : Offline Rat)
    (hperiods : ∀ timer d, host.deadline timer = some d →
      ∃ p, device.timers.period timer = some p ∧ 0 < span p)
    (targets : List Rat) (last : Rat) (hsorted : (targets ++ [last]).Pairwise (· ≤ ·)) :
    let start : Fired Rat χ := { device, host }
    (∀ before target later, targets ++ [last] = before ++ target :: later →
      (start.slices span (before ++ [target])).next span = none) ∧
    start.slices span (targets ++ [last]) = start.slice span last ∧
    start.FiredBy span last (start.slice span last) := by
  intro start
  have hstart : start.Periodic span := hperiods
  have hle : ∀ target ∈ targets, target ≤ last := by
    intro target htarget
    exact (List.pairwise_append.1 hsorted).2.2 target htarget last (List.mem_singleton_self last)
  refine ⟨?_, hstart.slices_concat hle, hstart.firedBy rfl last⟩
  intro before target later _
  obtain ⟨firings, hends⟩ := (hstart.slices before).slice_ends target
  rw [Fired.slices_snoc, Fired.next_eq, hends.earliest]
  rfl

/-- Timer A fires after every 2 milliseconds and timer B after every 3. At 6 both do. -/
theorem slices_make_no_difference_staggered :
    let device := (Device.powerOn 3 ({} : Fm.LevelChip)).afterAll
      [.hostWrite 7 0x34, .hostWrite 4 0xE8, .hostWrite 4 0x03, .hostWrite 7 0x74,
        .hostWrite 5 0x64, .hostWrite 5 0x00, .hostWrite 7 0xB4, .hostWrite 6 0x3C,
        .hostWrite 6 0x00]
    let host : Offline Rat := { now := 0, deadlineA := some 2, deadlineB := some 3 }
    let start : Fired Rat Fm.LevelChip := { device, host }
    let whole := start.slice Period.exactMillis 6
    ((∀ timer d, host.deadline timer = some d →
        ∃ p, device.timers.period timer = some p ∧ 0 < p.exactMillis) ∧
      ([1, 4] ++ [6]).Pairwise ((· ≤ ·) : Rat → Rat → Prop)) ∧
    start.slices Period.exactMillis ([1, 4] ++ [6]) = whole ∧
    Fired.momentsOf .a whole.firings.toList = [2, 4, 6] ∧
    Fired.momentsOf .b whole.firings.toList = [3, 6] ∧
    whole.firings.toList.Pairwise Precedes := by
  intro device host start whole
  have hA : device.timers.period .a = some ⟨timerAHertz, 1000⟩ := by decide +kernel
  have hB : device.timers.period .b = some ⟨timerBHertz, 6000⟩ := by decide +kernel
  have hmillisA : Period.exactMillis ⟨timerAHertz, 1000⟩ = 2 := by
    norm_num [Period.exactMillis, timerAHertz]
  have hmillisB : Period.exactMillis ⟨timerBHertz, 6000⟩ = 3 := by
    norm_num [Period.exactMillis, timerBHertz]
  have hperiods : ∀ timer d, host.deadline timer = some d →
      ∃ p, device.timers.period timer = some p ∧ 0 < p.exactMillis := by
    intro timer d _
    cases timer with
    | a => exact ⟨_, hA, by rw [hmillisA]; norm_num⟩
    | b => exact ⟨_, hB, by rw [hmillisB]; norm_num⟩
  have hsorted : ([1, 4] ++ [6]).Pairwise ((· ≤ ·) : Rat → Rat → Prop) := by
    norm_num
  obtain ⟨-, hsame, hfired⟩ :=
    slices_make_no_difference Period.exactMillis device host hperiods [1, 4] 6 hsorted
  refine ⟨⟨hperiods, hsorted⟩, hsame, ?_, ?_, hfired.ordered⟩
  · obtain ⟨n, hmoments, hlast⟩ := hfired.fires .a 2 _ rfl hA
    rw [hmillisA] at hmoments hlast
    have hin := hlast 2
    have hout := hlast 3
    norm_num at hin hout
    obtain rfl : n = 3 := by omega
    rw [hmoments]
    norm_num [List.range_succ]
  · obtain ⟨n, hmoments, hlast⟩ := hfired.fires .b 3 _ rfl hB
    rw [hmillisB] at hmoments hlast
    have hin := hlast 1
    have hout := hlast 2
    norm_num at hin hout
    obtain rfl : n = 2 := by omega
    rw [hmoments]
    norm_num [List.range_succ]

end Hosts

end FeatureCard
