import FeatureCard.Proofs.Hosts
import FeatureCard.Proofs.TimerBlock

/-!
# The card and its host agree on the timers

A host that keeps timers has at most one event pending for each of them, and on its own it can only
take such an event. It reports a firing as soon as it took the event. Then an event is pending for
just the timers that have all their counts, and with the period that the card has now.
-/

namespace FeatureCard

open Fm (FmChip FmPort)

/-- What a request leaves pending for `timer`, where `before` was pending. -/
def HostCall.leaves {τ ν : Type} (mark : τ → ν) (timer : Timer) (before : Option ν) :
    HostCall τ → Option ν
  | .raise _ | .lower _ => before
  | .schedule t span => if t = timer then some (mark span) else before
  | .cancel t => if t = timer then none else before

theorem HostCall.foldl_leaves {τ ν : Type} (mark : τ → ν) (timer : Timer)
    (calls : List (HostCall τ)) (before : Option ν) :
    calls.foldl (HostCall.leaves mark timer) before =
      (calls.filter (HostCall.isFor timer)).foldl (HostCall.leaves mark timer) before := by
  have hskip (before : Option ν) (call : HostCall τ) (hc : call.isFor timer = false) :
      call.leaves mark timer before = before := by
    cases call with
    | raise irq | lower irq => rfl
    | schedule t p | cancel t => exact if_neg (by simpa [HostCall.isFor] using hc)
  induction calls generalizing before with
  | nil => rfl
  | cons call calls ih =>
    rw [List.foldl_cons, ih]
    cases hc : call.isFor timer with
    | true => rw [List.filter_cons_of_pos hc, List.foldl_cons]
    | false => rw [List.filter_cons_of_neg (by simp [hc]), hskip _ _ hc]

/-- A host that keeps timers. `mark` is what it keeps of the period of a pending event. -/
structure TimerHost (η α ν : Type) where
  start : η
  receive : η → HostCall Period → η
  /-- A move of its own, and the timer whose event it took. -/
  move : η → α → Option Timer × η
  pending : η → Timer → Option ν
  mark : Period → ν
  pending_start : ∀ timer, pending start timer = none
  pending_receive : ∀ host call timer,
    pending (receive host call) timer = call.leaves mark timer (pending host timer)
  taken : ∀ host a timer, (move host a).1 = some timer →
    (pending host timer).isSome = true ∧ pending (move host a).2 timer = none
  left : ∀ host a timer, (move host a).1 ≠ some timer →
    pending (move host a).2 timer = pending host timer

/-- A card with its host. -/
structure Plugged (η χ : Type) where
  device : Device χ
  host : η

/-- What can happen: an access to the card, work of its FM port, or a move of the host. -/
inductive Turn (α χ : Type) where
  | access (e : DeviceEvent) (h : e.isAccess = true)
  | fm (port : FmPort χ)
  | move (a : α)

def Turn.access? {α χ : Type} : Turn α χ → Option DeviceEvent
  | .access e _ => some e
  | .fm _ | .move _ => none

/-- The turn is the byte that `timer` lacks. -/
def Plugged.Completes {η α χ : Type} (p : Plugged η χ) (timer : Timer) (t : Turn α χ) : Prop :=
  ∃ i value, t.access?.bind DeviceEvent.counterByte? = some (i, value) ∧
    p.device.timers.Lacks timer i

namespace TimerHost

variable {η α ν χ : Type} [FmChip χ] (h : TimerHost η α ν)

def hear (host : η) (effects : List Effect) : η := (Effect.calls effects).foldl h.receive host

def perform (p : Plugged η χ) (e : DeviceEvent) : Plugged η χ where
  device := p.device.after e
  host := h.hear p.host (p.device.effectsOf e)

/-- One turn. The firing of a timer is reported together with taking its event. -/
def turn (p : Plugged η χ) : Turn α χ → Plugged η χ
  | .access e _ => h.perform p e
  | .fm port => { p with device := { p.device with fm := port } }
  | .move a =>
    match h.move p.host a with
    | (none, host) => { p with host }
    | (some timer, host) => h.perform { p with host } (.timerExpired timer)

/-- What the card asks of the host in a turn. -/
def asked (p : Plugged η χ) : Turn α χ → List (HostCall Period)
  | .access e _ => Effect.calls (p.device.effectsOf e)
  | .fm _ => []
  | .move a =>
    match (h.move p.host a).1 with
    | none => []
    | some timer => Effect.calls (p.device.effectsOf (.timerExpired timer))

def run (d : Device χ) (turns : List (Turn α χ)) : Plugged η χ :=
  turns.foldl h.turn { device := d, host := h.start }

/-! ## What is pending -/

omit [FmChip χ] in
theorem pending_hear (host : η) (effects : List Effect) (timer : Timer) :
    h.pending (h.hear host effects) timer =
      (Effect.callsFor timer effects).foldl (HostCall.leaves h.mark timer)
        (h.pending host timer) := by
  rw [hear, Effect.callsFor, ← HostCall.foldl_leaves]
  induction Effect.calls effects generalizing host with
  | nil => rfl
  | cons call calls ih => rw [List.foldl_cons, ih, h.pending_receive, List.foldl_cons]

end TimerHost

/-- What is pending for a timer is what the block says: nothing until it has all its counts, then
its period. -/
structure TimerBlock.Awaits {ν : Type} (t : TimerBlock) (mark : Period → ν) (timer : Timer)
    (pending : Option ν) : Prop where
  stopped : t.loaded timer = false → pending = none
  running : t.loaded timer = true → ∃ p, t.period timer = some p ∧ pending = some (mark p)

theorem TimerBlock.Awaits.outcome {ν : Type} {t t' : TimerBlock} {mark : Period → ν}
    {timer : Timer} {pending : Option ν} {calls : List (HostCall Period)}
    (hawaits : t.Awaits mark timer pending) (houtcome : Outcome t t' timer calls) :
    t'.Awaits mark timer (calls.foldl (HostCall.leaves mark timer) pending) := by
  cases houtcome with
  | kept loaded period calls =>
    subst calls
    constructor
    case stopped => exact fun hs => hawaits.stopped (loaded ▸ hs)
    case running =>
      intro hr
      rw [period]
      exact hawaits.running (loaded ▸ hr)
  | stopped loaded calls =>
    subst calls
    constructor
    case stopped => exact fun _ => if_pos rfl
    case running => exact fun hr => absurd hr (by simp [loaded])
  | started p loaded period calls =>
    subst calls
    constructor
    case stopped => exact fun hs => absurd hs (by simp [loaded])
    case running => exact fun _ => ⟨p, period, if_pos rfl⟩

namespace TimerHost

variable {η α ν χ : Type} [FmChip χ] (h : TimerHost η α ν)

def Agrees (p : Plugged η χ) : Prop :=
  ∀ timer, p.device.timers.Awaits h.mark timer (h.pending p.host timer)

theorem Agrees.access {h : TimerHost η α ν} {p : Plugged η χ} (hp : h.Agrees p) {e : DeviceEvent}
    (he : e.isAccess = true) : h.Agrees (h.perform p e) := by
  intro timer
  have hturns := p.device.turns e timer
  change (p.device.after e).timers.Awaits h.mark timer (h.pending (h.hear _ _) timer)
  rw [hturns.timers, h.pending_hear, hturns.calls]
  exact (hp timer).outcome (p.device.timers.react_outcome he timer)

theorem Agrees.fired {h : TimerHost η α ν} {p : Plugged η χ} (hp : h.Agrees p) {a : α}
    {fired : Timer} {host : η} (hmove : h.move p.host a = (some fired, host)) :
    h.Agrees (h.perform { p with host } (.timerExpired fired)) := by
  intro timer
  have hturns := p.device.turns (.timerExpired fired) timer
  change (p.device.after _).timers.Awaits h.mark timer (h.pending (h.hear host _) timer)
  rw [hturns.timers, h.pending_hear, hturns.calls, p.device.timers.react_expired]
  change p.device.timers.Awaits h.mark timer _
  by_cases hf : fired = timer
  · subst hf
    obtain ⟨htaken, hcleared⟩ := h.taken p.host a fired (by rw [hmove])
    rw [hmove] at hcleared
    have hloaded : p.device.timers.loaded fired = true := by
      refine Decidable.byContradiction fun hnot => ?_
      rw [(hp fired).stopped (Bool.not_eq_true _ |>.mp hnot)] at htaken
      cases htaken
    obtain ⟨period, hperiod, -⟩ := (hp fired).running hloaded
    simp only [if_true, hperiod, hcleared]
    constructor
    case stopped => exact fun hs => absurd hloaded (by simp [hs])
    case running => exact fun _ => ⟨period, hperiod, if_pos rfl⟩
  · have hleft := h.left p.host a timer (by simpa [hmove] using hf)
    rw [hmove] at hleft
    rw [if_neg hf, hleft]
    exact hp timer

theorem Agrees.turn {h : TimerHost η α ν} {p : Plugged η χ} (hp : h.Agrees p) (t : Turn α χ) :
    h.Agrees (h.turn p t) := by
  cases t with
  | access e he => exact hp.access he
  | fm port => exact hp
  | move a =>
    rw [TimerHost.turn]
    split
    · rename_i host hmove
      intro timer
      have hleft := h.left p.host a timer (by simp [hmove])
      rw [hmove] at hleft
      change p.device.timers.Awaits h.mark timer (h.pending host timer)
      rw [hleft]
      exact hp timer
    · rename_i fired host hmove
      exact hp.fired hmove

theorem Agrees.run (irq : UInt8) (chip : χ) (turns : List (Turn α χ)) :
    h.Agrees (h.run (Device.powerOn irq chip) turns) := by
  have hstart : h.Agrees { device := Device.powerOn irq chip, host := h.start } := by
    intro timer
    have hloaded : TimerBlock.powerOn.loaded timer = false := by cases timer <;> rfl
    constructor
    case stopped => exact fun _ => h.pending_start timer
    case running => exact fun hr => absurd (hloaded.symm.trans hr) (by simp)
  have hkeep (p : Plugged η χ) (hp : h.Agrees p) : h.Agrees (turns.foldl h.turn p) := by
    induction turns generalizing p with
    | nil => exact hp
    | cons t turns ih => exact ih _ (hp.turn t)
  exact hkeep _ hstart

/-! ## What is asked -/

theorem perform_timers (p : Plugged η χ) (e : DeviceEvent) :
    (h.perform p e).device.timers = (p.device.timers.react e).1 :=
  (p.device.turns e .a).timers

theorem period_of_asked (p : Plugged η χ) (t : Turn α χ) {timer : Timer} {period : Period}
    (ht : HostCall.schedule timer period ∈ h.asked p t) :
    (h.turn p t).device.timers.period timer = some period := by
  have hfor (d : Device χ) (e : DeviceEvent)
      (he : HostCall.schedule timer period ∈ Effect.calls (d.effectsOf e)) :
      HostCall.schedule timer period ∈ Effect.callsFor timer (d.timers.react e).2 := by
    rw [← (d.turns e timer).calls]
    exact List.mem_filter.2 ⟨he, by simp [HostCall.isFor]⟩
  cases t with
  | access e he =>
    have hasked := hfor p.device e ht
    rw [turn, h.perform_timers]
    cases p.device.timers.react_outcome he timer with
    | kept _ _ calls | stopped _ calls => simp [calls] at hasked
    | started p' _ stored calls =>
      obtain rfl : period = p' := by simpa [calls] using hasked
      exact stored
  | fm port => cases ht
  | move a =>
    rw [turn]
    rw [asked] at ht
    split
    · rename_i host hmove
      simp [hmove] at ht
    · rename_i fired host hmove
      simp only [hmove] at ht
      have hasked := hfor _ _ ht
      rw [p.device.timers.react_expired] at hasked
      rw [h.perform_timers]
      change p.device.timers.period timer = some period
      split at hasked
      · rename_i hsame
        subst hsame
        obtain ⟨p', hperiod, hp'⟩ : ∃ p', p.device.timers.period fired = some p' ∧ p' = period := by
          simpa using hasked
        rw [hperiod, hp']
      · cases hasked

/-! ## While a timer lacks a byte -/

theorem completes_of_turn {p : Plugged η χ} {t : Turn α χ} {timer : Timer}
    (hbefore : p.device.timers.loaded timer = false)
    (hafter : (h.turn p t).device.timers.loaded timer = true) : p.Completes timer t := by
  cases t with
  | access e he =>
    rw [turn, h.perform_timers] at hafter
    exact TimerBlock.lacks_of_react hbefore hafter
  | fm port => exact absurd hafter (by simpa [turn] using hbefore)
  | move a =>
    have hsame : (h.turn p (.move a)).device.timers = p.device.timers := by
      rw [turn]
      split
      · rfl
      · exact h.perform_timers _ _
    rw [hsame, hbefore] at hafter
    cases hafter

theorem unloaded_foldl {p : Plugged η χ} {timer : Timer}
    (hbefore : p.device.timers.loaded timer = false) (turns : List (Turn α χ))
    (hlacking : ∀ first t rest, turns = first ++ t :: rest →
      ¬ (first.foldl h.turn p).Completes timer t) :
    (turns.foldl h.turn p).device.timers.loaded timer = false := by
  induction turns generalizing p with
  | nil => exact hbefore
  | cons t turns ih =>
    have hnot : ¬ p.Completes timer t := hlacking [] t turns rfl
    have hafter : (h.turn p t).device.timers.loaded timer = false :=
      Bool.not_eq_true _ |>.mp fun hloaded => hnot (h.completes_of_turn hbefore hloaded)
    exact ih hafter fun first t' rest heq => hlacking (t :: first) t' rest (by rw [heq]; rfl)

theorem unloaded_of_stops {d : Device χ} {timer : Timer} {e : DeviceEvent} (he : e.isAccess = true)
    (hstops : e.Stops timer) (before later : List (Turn α χ))
    (hlacking : ∀ first t rest, later = first ++ t :: rest →
      ¬ (h.run d (before ++ .access e he :: first)).Completes timer t) :
    (h.run d (before ++ .access e he :: later)).device.timers.loaded timer = false := by
  have hrun (first : List (Turn α χ)) : h.run d (before ++ .access e he :: first) =
      first.foldl h.turn (h.perform (h.run d before) e) := by
    rw [run, List.foldl_append, List.foldl_cons]
    rfl
  simp only [hrun] at hlacking ⊢
  refine h.unloaded_foldl ?_ later hlacking
  rw [h.perform_timers]
  exact TimerBlock.react_stops _ hstops

/-! ## Agreement -/

/-- After all turns, and at each of them, the host and the card say the same of the timers. -/
structure InAgreement (d : Device χ) (turns : List (Turn α χ)) : Prop where
  pending : ∀ timer, (h.pending (h.run d turns).host timer).isSome = true ↔
    ∀ i, TimerBlock.timerOf i = timer →
      Counter.complete ≤ ((h.run d turns).device.timers.counter i).loadState
  mark : ∀ timer v, h.pending (h.run d turns).host timer = some v →
    ∃ p, (h.run d turns).device.timers.period timer = some p ∧ v = h.mark p
  asked : ∀ before t later, turns = before ++ t :: later → ∀ timer p,
    .schedule timer p ∈ h.asked (h.run d before) t →
      (h.run d (before ++ [t])).device.timers.period timer = some p
  /-- From a control word on, until the byte that the timer lacks, no event of it is pending and
  the host can take none. -/
  silent : ∀ before e he later timer, turns = before ++ .access e he :: later → e.Stops timer →
    (∀ first t rest, later = first ++ t :: rest →
      ¬ (h.run d (before ++ .access e he :: first)).Completes timer t) →
    h.pending (h.run d turns).host timer = none ∧
      ∀ a, (h.move (h.run d turns).host a).1 ≠ some timer

theorem inAgreement (irq : UInt8) (chip : χ) (turns : List (Turn α χ)) :
    h.InAgreement (.powerOn irq chip) turns := by
  have hagrees := Agrees.run h irq chip turns
  constructor
  case pending =>
    intro timer
    rw [← TimerBlock.loaded_iff]
    cases hloaded : (h.run (.powerOn irq chip) turns).device.timers.loaded timer with
    | false => simp [(hagrees timer).stopped hloaded]
    | true =>
      obtain ⟨p, -, hp⟩ := (hagrees timer).running hloaded
      simp [hp]
  case mark =>
    intro timer v hv
    cases hloaded : (h.run (.powerOn irq chip) turns).device.timers.loaded timer with
    | false => rw [(hagrees timer).stopped hloaded] at hv; cases hv
    | true =>
      obtain ⟨p, hperiod, hp⟩ := (hagrees timer).running hloaded
      rw [hp] at hv
      exact ⟨p, hperiod, (Option.some.inj hv).symm⟩
  case asked =>
    intro before t later _ timer p hp
    rw [run, List.foldl_append]
    exact h.period_of_asked _ t hp
  case silent =>
    intro before e he later timer hturns hstops hlacking
    have hloaded := h.unloaded_of_stops he hstops before later hlacking
    rw [← hturns] at hloaded
    have hnone := (hagrees timer).stopped hloaded
    refine ⟨hnone, fun a htaken => ?_⟩
    have hsome := (h.taken _ a timer htaken).1
    rw [hnone] at hsome
    cases hsome

end TimerHost

/-! ## The two hosts -/

namespace Hosts

variable {τ : Type}

/-- The driver of a host without a clock takes the event of any timer at any time. -/
def Detached.timerHost (span : Period → τ) : TimerHost (Detached τ) Timer τ where
  start := {}
  receive host call := host.receive (call.map span)
  move host timer := ((host.take timer).1.map fun _ => timer, (host.take timer).2)
  pending := Detached.pending
  mark := span
  pending_start timer := by cases timer <;> rfl
  pending_receive host call timer := by
    cases call with
    | raise irq | lower irq => cases timer <;> rfl
    | schedule t p | cancel t => cases t <;> cases timer <;> rfl
  taken host t timer htaken := by
    obtain ⟨v, hv, rfl⟩ := Option.map_eq_some_iff.1 htaken
    exact ⟨Option.isSome_of_eq_some hv, by cases t <;> rfl⟩
  left host t timer hleft := by
    cases t <;> cases timer <;> cases hp : host.pending _ <;>
      simp_all [Detached.take, Detached.pending, Detached.setPending]

/-- A host with a clock moves its time, or takes the event of the timer to fire next. -/
inductive Offline.Move (τ : Type) where
  | advanceTo (moment : τ)
  | fireNext

theorem Offline.dueAt_of_earliest [Instant τ] {host : Offline τ} {timer : Timer} {d : τ}
    (h : host.earliest = some (timer, d)) : host.dueAt timer = some d := by
  unfold earliest at h
  split at h
  · split at h <;> cases h <;> assumption
  · cases h; assumption
  · cases h; assumption
  · cases h

theorem Offline.deadline_of_earliest [Instant τ] {host : Offline τ} {timer : Timer} {d : τ}
    (h : host.earliest = some (timer, d)) : host.deadline timer = some d :=
  (Option.filter_eq_some_iff.1 (dueAt_of_earliest h)).1

def Offline.timerHost [Instant τ] (span : Period → τ) :
    TimerHost (Offline τ) (Offline.Move τ) Unit where
  start := .start
  receive host call := host.receive (call.map span)
  move host
    | .advanceTo moment => (none, host.advanceTo moment)
    | .fireNext => (host.nextDue.1.map Prod.fst, host.nextDue.2)
  pending host timer := (host.deadline timer).map fun _ => ()
  mark _ := ()
  pending_start timer := by cases timer <;> rfl
  pending_receive host call timer := by
    cases call with
    | raise irq | lower irq => cases timer <;> rfl
    | schedule t p | cancel t => cases t <;> cases timer <;> rfl
  taken host a timer htaken := by
    cases a with
    | advanceTo moment => cases htaken
    | fireNext =>
      cases he : host.earliest with
      | none => simp [nextDue, he] at htaken
      | some due =>
        obtain ⟨t, d⟩ := due
        obtain rfl : t = timer := by simpa [nextDue, he] using htaken
        rw [deadline_of_earliest he]
        simp only [nextDue, he]
        exact ⟨rfl, by cases t <;> rfl⟩
  left host a timer hleft := by
    cases a with
    | advanceTo moment => cases timer <;> rfl
    | fireNext =>
      cases he : host.earliest with
      | none => simp [nextDue, he]
      | some due =>
        obtain ⟨t, d⟩ := due
        have hne : t ≠ timer := by simpa [nextDue, he] using hleft
        simp only [nextDue, he]
        cases t <;> cases timer <;> first | rfl | exact absurd rfl hne

end Hosts

/-- Whatever happens to a card and its host, they agree on the timers. -/
theorem timers_agree_with_host {τ χ : Type} [Hosts.Instant τ] [FmChip χ] (span : Period → τ)
    (irq : UInt8) (chip : χ) :
    (∀ turns, (Hosts.Detached.timerHost span).InAgreement (.powerOn irq chip) turns) ∧
      ∀ turns, (Hosts.Offline.timerHost span).InAgreement (.powerOn irq chip) turns :=
  ⟨fun turns => (Hosts.Detached.timerHost span).inAgreement irq chip turns,
    fun turns => (Hosts.Offline.timerHost span).inAgreement irq chip turns⟩

/-- A control word and two bytes load timer A with 16. -/
example :
    let turns : List (Turn Timer Fm.LevelChip) :=
      [.access (.hostWrite 7 0x34) rfl, .access (.hostWrite 4 0x10) rfl,
        .access (.hostWrite 4 0x00) rfl]
    ((Hosts.Detached.timerHost id).run (.powerOn 5 {}) turns).host.pendingA =
      some ⟨timerAHertz, 16⟩ := by
  decide +kernel

end FeatureCard
