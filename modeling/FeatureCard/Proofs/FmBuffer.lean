import FeatureCard.Proofs.GuardedDevices
import FeatureCard.Proofs.Latching

/-!
# What the chip hears during a block

Between the begin and the end of a block the FM port is called in any order. Data reaches the chip
if the latched address has a register. Then exactly the frames up to the place in the block have
been mixed. The mixes are not empty, and together they are the block. Flushes do not change what is
written and when. They do not change the sound either if a mix can be divided and no count is heard.
-/

namespace FeatureCard.Fm

/-! ## Calls -/

inductive PortCall where
  | address (register : UInt8)
  | data (value : UInt8)
  | advance (frames : Nat)
  | flush
  | count (micros : UInt32)
  | status
  deriving DecidableEq, Repr

/-- What can happen to a port: calls, and what they come between. -/
inductive PortEvent where
  | call (c : PortCall)
  | begin (frames : Nat)
  | finish
  | reset
  deriving DecidableEq, Repr

namespace FmPort

variable {χ : Type} [FmChip χ]

/-- The port after a call, whatever the answer is. -/
def call (p : FmPort χ) : PortCall → Checked (FmPort χ)
  | .address register => .ok (p.writeAddress register)
  | .data value => .ok (p.writeData value).1
  | .advance frames => p.advance frames
  | .flush => .ok p.flush
  | .count micros => .ok (p.count micros).2
  | .status => .ok p

def after (p : FmPort χ) : PortEvent → Checked (FmPort χ)
  | .call c => p.call c
  | .begin frames => p.begin frames
  | .finish => .ok p.finish
  | .reset => .ok p.reset

/-- A block with these calls between its begin and its end. -/
def play (p : FmPort χ) (frames : Nat) (calls : List PortCall) : Checked (FmPort χ) := do
  let p ← p.begin frames
  let p ← calls.foldlM call p
  return p.finish

end FmPort

/-! ## What calls amount to -/

namespace PortCall

/-- How far the call asks to move the place in the block. -/
def moves : PortCall → Nat
  | .advance frames => frames
  | .address _ | .data _ | .flush | .count _ | .status => 0

def withoutFlushes (calls : List PortCall) : List PortCall := calls.filter (· ≠ .flush)

/-- The sum of all advances. -/
def advanced (calls : List PortCall) : Nat := (calls.map moves).sum

/-- In a block of `frames` every advance is within a word, from the place where it starts. -/
def Fit (frames : Nat) (calls : List PortCall) : Prop :=
  ∀ before n after, calls = before ++ .advance n :: after →
    min frames (advanced before) + n < word64

theorem advanced_concat (calls : List PortCall) (c : PortCall) :
    advanced (calls ++ [c]) = advanced calls + c.moves := by
  rw [advanced, List.map_append, List.sum_append, advanced, List.map_singleton, List.sum_singleton]

theorem Fit.of_concat {frames : Nat} {calls : List PortCall} {c : PortCall}
    (h : Fit frames (calls ++ [c])) :
    Fit frames calls ∧ ∀ n, c = .advance n → min frames (advanced calls) + n < word64 := by
  constructor
  · intro before n after hsplit
    exact h before n (after ++ [c]) (by rw [hsplit, List.append_assoc, List.cons_append])
  · rintro n rfl
    exact h calls n [] rfl

theorem Fit.of_advances {frames most : Nat} {calls : List PortCall}
    (hmost : ∀ n, .advance n ∈ calls → n ≤ most) (hword : frames + most < word64) :
    Fit frames calls := by
  intro before n after hsplit
  have hmem : .advance n ∈ calls := by
    rw [hsplit]
    exact List.mem_append_right _ List.mem_cons_self
  have := hmost n hmem
  omega

end PortCall

open PortCall (withoutFlushes advanced Fit)

/-- The latch that an event sets. A reset sets it to nothing. -/
def PortEvent.latches? : PortEvent → Option (Option UInt8)
  | .call (.address register) => some (some register)
  | .reset => some none
  | .call (.data _) | .call (.advance _) | .call .flush | .call (.count _) | .call .status
  | .begin _ | .finish => none

/-- The last address written since the port is there and since its last reset. -/
def latched (history : List PortEvent) : Option UInt8 :=
  (latest? PortEvent.latches? history).join

theorem latched_concat (history : List PortEvent) (e : PortEvent) :
    latched (history ++ [e]) = e.latches?.getD (latched history) := by
  rw [latched, latest?_concat]
  cases e.latches? <;> rfl

section Delivered

variable (earlier : List PortEvent) (frames : Nat)

/-- The write that a call sends to the chip, with the frames that are mixed before it. A port was
through `earlier` and is in a block of `frames`, `before` being the calls since its begin. -/
def sent? (before : List PortCall) : PortCall → Option (Nat × UInt8 × UInt8)
  | .data value => do
    let register ← latched (earlier ++ before.map .call)
    if register < 0x08 then none
    else some (min frames (advanced before), if register = 0x09 then 0x01 else register, value)
  | .address _ | .advance _ | .flush | .count _ | .status => none

/-- The writes that calls send to the chip, if others came `before` them in the block. -/
def delivered (before : List PortCall) : List PortCall → List (Nat × UInt8 × UInt8)
  | [] => []
  | c :: calls =>
    (sent? earlier frames before c).toList ++ delivered (before ++ [c]) calls

theorem delivered_concat (before calls : List PortCall) (c : PortCall) :
    delivered earlier frames before (calls ++ [c]) =
      delivered earlier frames before calls ++
        (sent? earlier frames (before ++ calls) c).toList := by
  induction calls generalizing before with
  | nil => simp only [List.nil_append, delivered, List.append_nil]
  | cons d calls ih =>
    rw [List.cons_append, delivered, ih, delivered, List.append_assoc, List.append_assoc]
    rfl

end Delivered

theorem sent?_data (earlier : List PortEvent) (frames : Nat) (before : List PortCall)
    (value : UInt8) :
    sent? earlier frames before (.data value) =
      ((latched (earlier ++ before.map .call)).bind targetOf).map
        (min frames (advanced before), ·, value) := by
  rw [sent?]
  cases latched (earlier ++ before.map .call) with
  | none => rfl
  | some address =>
    change (if address < 0x08 then none else _) = (targetOf address).map _
    unfold targetOf
    split
    · rfl
    · split <;> rfl

/-! ## Flushes do not count -/

theorem withoutFlushes_concat (calls : List PortCall) (c : PortCall) :
    withoutFlushes (calls ++ [c]) =
      if c = .flush then withoutFlushes calls else withoutFlushes calls ++ [c] := by
  unfold withoutFlushes
  rw [List.filter_append]
  split
  case isTrue hc => rw [hc, List.filter_cons_of_neg (by simp), List.filter_nil, List.append_nil]
  case isFalse hc => rw [List.filter_cons_of_pos (by simpa using hc), List.filter_nil]

theorem advanced_withoutFlushes (calls : List PortCall) :
    advanced (withoutFlushes calls) = advanced calls := by
  induction calls using List.reverseRecOn with
  | nil => rfl
  | append_singleton calls c ih =>
    rw [withoutFlushes_concat, PortCall.advanced_concat, ← ih]
    split
    case isTrue hc => rw [hc, PortCall.moves, Nat.add_zero]
    case isFalse => exact PortCall.advanced_concat _ c

theorem latched_withoutFlushes (earlier : List PortEvent) (calls : List PortCall) :
    latched (earlier ++ (withoutFlushes calls).map .call) =
      latched (earlier ++ calls.map .call) := by
  induction calls using List.reverseRecOn with
  | nil => rfl
  | append_singleton calls c ih =>
    rw [withoutFlushes_concat, List.map_append, List.map_singleton, ← List.append_assoc,
      latched_concat, ← ih]
    split
    case isTrue hc => rw [hc]; rfl
    case isFalse =>
      rw [List.map_append, List.map_singleton, ← List.append_assoc, latched_concat]

theorem sent?_withoutFlushes (earlier : List PortEvent) (frames : Nat) (before : List PortCall)
    (c : PortCall) :
    sent? earlier frames (withoutFlushes before) c = sent? earlier frames before c := by
  cases c with
  | data value => rw [sent?, latched_withoutFlushes, advanced_withoutFlushes, sent?]
  | address register | advance n | flush | count micros | status => rfl

theorem delivered_withoutFlushes (earlier : List PortEvent) (frames : Nat)
    (calls : List PortCall) :
    delivered earlier frames [] (withoutFlushes calls) = delivered earlier frames [] calls := by
  induction calls using List.reverseRecOn with
  | nil => rfl
  | append_singleton calls c ih =>
    rw [withoutFlushes_concat, delivered_concat, List.nil_append, ← ih]
    split
    case isTrue hc => rw [hc, sent?, Option.toList_none, List.append_nil]
    case isFalse =>
      rw [delivered_concat, List.nil_append, sent?_withoutFlushes]

theorem PortCall.Fit.congr {frames : Nat} {calls flushed : List PortCall}
    (hsame : withoutFlushes flushed = withoutFlushes calls) (h : Fit frames calls) :
    Fit frames flushed := by
  intro before n after hsplit
  have hfilter : withoutFlushes calls =
      withoutFlushes before ++ .advance n :: withoutFlushes after := by
    rw [← hsame, hsplit, withoutFlushes, List.filter_append, List.filter_cons_of_pos (by simp)]
    rfl
  -- The same advance is among `calls`, with other flushes before it.
  obtain ⟨first, rest, rfl, hfirst, hrest⟩ := List.filter_eq_append_iff.1 hfilter
  obtain ⟨flushes, last, rfl, hflushes, -, -⟩ := List.filter_eq_cons_iff.1 hrest
  have hbefore : withoutFlushes (first ++ flushes) = withoutFlushes before := by
    rw [withoutFlushes, List.filter_append, List.filter_eq_nil_iff.2 hflushes, List.append_nil]
    exact hfirst
  rw [← advanced_withoutFlushes, ← hbefore, advanced_withoutFlushes]
  exact h (first ++ flushes) n last (List.append_assoc _ _ _).symm

/-! ## The port after calls -/

theorem foldlM_concat {α β : Type} (f : β → α → Checked β) (b : β) (l : List α) (a : α) :
    (l ++ [a]).foldlM f b = l.foldlM f b >>= (f · a) := by
  rw [List.foldlM_append]
  congr 1
  funext b
  exact bind_pure (f b a)

namespace FmPort

section Port

variable {χ : Type} [FmChip χ]

/-- The port at another place in the block. -/
def movedTo (p : FmPort χ) (position : Nat) : FmPort χ := { p with position }

omit [FmChip χ] in
theorem advance_eq (p : FmPort χ) (n : Nat) :
    p.advance n = (addBelow word64 p.position n).map fun position =>
      p.movedTo (min position p.frames) := by
  unfold advance
  cases addBelow word64 p.position n <;> rfl

/-- The port at the begin of a block. -/
def opened (p : FmPort χ) (frames : Nat) : FmPort χ :=
  { p with frames, position := 0, output := #[] }

omit [FmChip χ] in
theorem begin_eq (p : FmPort χ) (frames : Nat) :
    p.begin frames = (mulBelow word64 frames 2).map fun _ => p.opened frames := by
  unfold begin
  cases mulBelow word64 frames 2 <;> rfl

theorem play_eq (p : FmPort χ) (frames : Nat) (calls : List PortCall) :
    p.play frames calls = mulBelow word64 frames 2 >>= fun _ =>
      (calls.foldlM call (p.opened frames)).map finish := by
  unfold play
  rw [begin_eq]
  cases mulBelow word64 frames 2 with
  | error fault => rfl
  | ok doubled =>
    change (calls.foldlM call (p.opened frames) >>= _) = Except.map _ _
    cases calls.foldlM call (p.opened frames) <;> rfl

theorem flush_latch (p : FmPort χ) : p.flush.latch = p.latch := by
  unfold flush
  split <;> rfl

theorem writeData_fst (p : FmPort χ) (value : UInt8) :
    (p.writeData value).1 = p.latch.elim p fun address =>
      (targetOf address).elim p.flush fun register => p.flush.put register value := by
  unfold writeData
  cases p.latch with
  | none => rfl
  | some address => cases h : targetOf address <;> simp only [h, Option.elim, put]

theorem after_latch {p q : FmPort χ} {e : PortEvent} (h : p.after e = .ok q) :
    q.latch = e.latches?.getD p.latch := by
  cases e with
  | begin frames =>
    rw [after, begin_eq] at h
    cases hm : mulBelow word64 frames 2 <;> rw [hm] at h <;> cases h
    rfl
  | finish =>
    obtain rfl := Except.ok.inj h
    exact flush_latch _
  | reset =>
    obtain rfl := Except.ok.inj h
    rfl
  | call c =>
    cases c with
    | address register | count micros | status =>
      obtain rfl := Except.ok.inj h
      rfl
    | flush =>
      obtain rfl := Except.ok.inj h
      exact p.flush_latch
    | data value =>
      obtain rfl := Except.ok.inj h
      rcases p.writeData_cases value with hdata | hdata | ⟨register, hdata⟩ <;> rw [hdata]
      · rfl
      · exact p.flush_latch
      · exact p.flush_latch
    | advance n =>
      rw [after, call, advance_eq] at h
      cases ha : addBelow word64 p.position n <;> rw [ha] at h <;> cases h
      rfl

theorem latch_eq (chip : χ) {earlier : List PortEvent} {p : FmPort χ}
    (h : earlier.foldlM after (attach chip) = .ok p) : p.latch = latched earlier := by
  induction earlier using List.reverseRecOn generalizing p with
  | nil =>
    obtain rfl := Except.ok.inj h
    rfl
  | append_singleton earlier e ih =>
    rw [foldlM_concat] at h
    cases hq : earlier.foldlM after (attach chip) with
    | error fault => rw [hq] at h; cases h
    | ok q =>
      rw [hq] at h
      rw [latched_concat, after_latch h, ih hq]

end Port

/-! ## A recorder in a block -/

variable {χ : Type} [FmChip χ]

/-- A recorder that was new at the begin of the block has heard of the frames rendered. -/
structure Tallied (p : FmPort (Recorded χ)) : Prop where
  reached : p.rendered ≤ p.position
  mixed : ChipCall.mixed p.chip.calls.toList = p.rendered
  filled : ∀ n, .mix n ∈ p.chip.calls.toList → 0 < n

theorem Tallied.flush_rendered {p : FmPort (Recorded χ)} (h : p.Tallied) :
    p.flush.rendered = p.position := by
  rw [FmPort.flush_rendered, Nat.max_eq_right h.reached]

theorem Tallied.flush {p : FmPort (Recorded χ)} (h : p.Tallied) : p.flush.Tallied := by
  have hrendered := h.flush_rendered
  constructor
  case reached => exact Nat.le_of_eq (hrendered.trans p.flush_frames.2.symm)
  case mixed =>
    rw [mixed_flush, h.mixed, hrendered]
    exact Nat.add_sub_cancel' h.reached
  case filled =>
    intro n hn
    rw [flush_calls, List.mem_append] at hn
    rcases hn with hn | hn
    · exact h.filled n hn
    · split at hn
      · cases hn
      · obtain rfl := ChipCall.mix.inj (List.mem_singleton.1 hn)
        omega

theorem Tallied.put {p : FmPort (Recorded χ)} (h : p.Tallied) (register value : UInt8) :
    (p.put register value).Tallied := by
  constructor
  case reached => exact h.reached
  case mixed =>
    rw [put_calls, ChipCall.mixed_append]
    exact h.mixed
  case filled =>
    intro n hn
    rw [put_calls, List.mem_append, List.mem_singleton] at hn
    rcases hn with hn | hn
    · exact h.filled n hn
    · cases hn

omit [FmChip χ] in
theorem Tallied.movedTo {p : FmPort (Recorded χ)} (h : p.Tallied) {position : Nat}
    (hle : p.position ≤ position) : (p.movedTo position).Tallied where
  reached := Nat.le_trans h.reached hle
  mixed := h.mixed
  filled := h.filled

/-- The port and its recorder after `calls` in a block of `size` frames. -/
structure Follows (earlier : List PortEvent) (size : Nat) (calls : List PortCall)
    (p : FmPort (Recorded χ)) : Prop where
  frames : p.frames = size
  position : p.position = min size (advanced calls)
  latch : p.latch = latched (earlier ++ calls.map .call)
  tallied : p.Tallied
  writes : p.heard = delivered earlier size [] calls

variable {earlier : List PortEvent} {size : Nat} {calls : List PortCall}

theorem Follows.concat {p q : FmPort (Recorded χ)} {c : PortCall}
    (h : p.Follows earlier size calls) (hcall : p.call c = .ok q) (hframes : q.frames = p.frames)
    (hposition : q.position = min p.frames (p.position + c.moves)) (htallied : q.Tallied)
    (hwrites : q.heard = p.heard ++ (sent? earlier size calls c).toList) :
    q.Follows earlier size (calls ++ [c]) := by
  constructor
  case frames => rw [hframes, h.frames]
  case position =>
    rw [hposition, h.frames, h.position, PortCall.advanced_concat]
    omega
  case latch =>
    rw [List.map_append, List.map_singleton, ← List.append_assoc, latched_concat, ← h.latch]
    exact after_latch hcall
  case tallied => exact htallied
  case writes => rw [hwrites, h.writes, delivered_concat, List.nil_append]

omit [FmChip χ] in
theorem Follows.stays {p : FmPort (Recorded χ)} (h : p.Follows earlier size calls) :
    p.position = min p.frames (p.position + 0) := by
  rw [h.frames, h.position]
  omega

theorem Follows.flush_stays {p : FmPort (Recorded χ)} (h : p.Follows earlier size calls) :
    p.flush.position = min p.frames (p.position + 0) :=
  p.flush_frames.2.trans h.stays

theorem Follows.flush {p : FmPort (Recorded χ)} (h : p.Follows earlier size calls) :
    p.flush.Follows earlier size (calls ++ [.flush]) := by
  refine h.concat rfl p.flush_frames.1 h.flush_stays h.tallied.flush ?_
  rw [p.heard_flush]
  exact (List.append_nil _).symm

theorem Follows.advance {p : FmPort (Recorded χ)} (h : p.Follows earlier size calls) {n : Nat}
    (hfit : min size (advanced calls) + n < word64) :
    ∃ q, p.call (.advance n) = .ok q ∧ q.Follows earlier size (calls ++ [.advance n]) := by
  have hn : p.position + n < word64 := by rwa [h.position]
  have hcall : p.call (.advance n) = .ok (p.movedTo (min (p.position + n) p.frames)) := by
    rw [FmPort.call, advance_eq, addBelow_of_lt hn]
    rfl
  have hle : p.position ≤ min (p.position + n) p.frames := by
    have := h.stays
    omega
  exact ⟨_, hcall, h.concat hcall rfl (Nat.min_comm _ _) (h.tallied.movedTo hle)
    (List.append_nil _).symm⟩

theorem Follows.data {p : FmPort (Recorded χ)} (h : p.Follows earlier size calls)
    (value : UInt8) : (p.writeData value).1.Follows earlier size (calls ++ [.data value]) := by
  have hcall : p.call (.data value) = .ok (p.writeData value).1 := rfl
  have hsent := sent?_data earlier size calls value
  rw [← h.latch, ← h.position] at hsent
  rw [writeData_fst] at hcall ⊢
  cases hlatch : p.latch with
  | none =>
    rw [hlatch] at hcall hsent
    refine h.concat hcall rfl h.stays h.tallied ?_
    rw [hsent]
    exact (List.append_nil _).symm
  | some address =>
    rw [hlatch] at hcall hsent
    cases htarget : targetOf address with
    | none =>
      simp only [Option.elim, Option.bind, htarget, Option.map_none] at hcall hsent ⊢
      refine h.concat hcall p.flush_frames.1 h.flush_stays h.tallied.flush ?_
      rw [hsent, p.heard_flush]
      exact (List.append_nil _).symm
    | some register =>
      simp only [Option.elim, Option.bind, htarget, Option.map_some] at hcall hsent ⊢
      have htallied := h.tallied.flush
      refine h.concat hcall p.flush_frames.1 h.flush_stays (htallied.put register value) ?_
      rw [hsent, heard_put, p.heard_flush, htallied.mixed, h.tallied.flush_rendered]
      rfl

theorem Follows.call {p : FmPort (Recorded χ)} {c : PortCall} (h : p.Follows earlier size calls)
    (hfit : ∀ n, c = .advance n → min size (advanced calls) + n < word64) :
    ∃ q, p.call c = .ok q ∧ q.Follows earlier size (calls ++ [c]) := by
  cases c with
  | address register | count micros | status =>
    refine ⟨_, rfl, h.concat rfl rfl h.stays ?_ (List.append_nil _).symm⟩
    exact ⟨h.tallied.reached, h.tallied.mixed, h.tallied.filled⟩
  | data value => exact ⟨_, rfl, h.data value⟩
  | advance n => exact h.advance (hfit n rfl)
  | flush => exact ⟨_, rfl, h.flush⟩

theorem Follows.callAll {p : FmPort (Recorded χ)} (h : p.Follows earlier size [])
    (hfit : Fit size calls) :
    ∃ q, calls.foldlM FmPort.call p = .ok q ∧ q.Follows earlier size calls := by
  induction calls using List.reverseRecOn with
  | nil => exact ⟨p, rfl, h⟩
  | append_singleton calls c ih =>
    obtain ⟨hbefore, hlast⟩ := hfit.of_concat
    obtain ⟨q, hq, hfollows⟩ := ih hbefore
    rw [foldlM_concat, hq]
    exact hfollows.call hlast

end FmPort

/-! ## The same block in front of another chip -/

namespace FmChip.Hom

variable {χ ψ : Type} [FmChip χ] [FmChip ψ] {f : χ → ψ}

theorem call (h : FmChip.Hom f) (p : FmPort χ) (c : PortCall) :
    (p.map f).call c = (p.call c).map (FmPort.map f) := by
  cases c with
  | address register | status => rfl
  | data value =>
    rw [FmPort.call, h.writeData]
    rfl
  | advance n =>
    rw [FmPort.call, FmPort.advance_eq, FmPort.call, FmPort.advance_eq]
    change (addBelow word64 p.position n).map _ = _
    cases addBelow word64 p.position n <;> rfl
  | flush =>
    rw [FmPort.call, h.flush]
    rfl
  | count micros =>
    simp only [FmPort.call, FmPort.count, FmPort.map, h.count]
    rfl

theorem callAll (h : FmChip.Hom f) (p : FmPort χ) (calls : List PortCall) :
    calls.foldlM FmPort.call (p.map f) =
      (calls.foldlM FmPort.call p).map (FmPort.map f) := by
  induction calls using List.reverseRecOn with
  | nil => rfl
  | append_singleton calls c ih =>
    rw [foldlM_concat, foldlM_concat, ih]
    cases calls.foldlM FmPort.call p with
    | error fault => rfl
    | ok q => exact h.call q c

theorem play (h : FmChip.Hom f) (p : FmPort χ) (frames : Nat) (calls : List PortCall) :
    (p.map f).play frames calls = (p.play frames calls).map (FmPort.map f) := by
  rw [FmPort.play_eq, FmPort.play_eq]
  cases mulBelow word64 frames 2 with
  | error fault => rfl
  | ok doubled =>
    change (calls.foldlM FmPort.call ((p.opened frames).map f)).map _ =
      ((calls.foldlM FmPort.call (p.opened frames)).map _).map _
    rw [h.callAll]
    cases calls.foldlM FmPort.call (p.opened frames) with
    | error fault => rfl
    | ok q => exact congrArg Except.ok (h.finish q)

end FmChip.Hom

/-! ## Mixes in parts -/

/-- A mix of a slice is a mix of its two parts, one after the other. -/
def FmChip.MixesInParts (χ : Type) [FmChip χ] : Prop :=
  ∀ (c : χ) {m n : Nat} (first : Vector Frame m) (second : Vector Frame n),
    FmChip.mix c (first ++ second) =
      ((FmChip.mix (FmChip.mix c first).1 second).1,
        (FmChip.mix c first).2 ++ (FmChip.mix (FmChip.mix c first).1 second).2)

/-- None of these counts is heard: it can come before a mix as well as after it. -/
def FmChip.CountsApart (χ : Type) [FmChip χ] (counts : UInt32 → Prop) : Prop :=
  ∀ (c : χ) {n : Nat} (frames : Vector Frame n) (micros : UInt32), counts micros →
    FmChip.mix (FmChip.count c micros).2 frames =
      ((FmChip.count (FmChip.mix c frames).1 micros).2, (FmChip.mix c frames).2)

theorem LevelChip.mixesInParts : FmChip.MixesInParts LevelChip :=
  fun c _ _ _ _ => congrArg (Prod.mk c) Vector.map_append

theorem LevelChip.countsApart (counts : UInt32 → Prop) : FmChip.CountsApart LevelChip counts := by
  intro c n frames micros _
  have hlevel : (FmChip.count c micros).2.level = c.level := by
    simp only [FmChip.count]
    split <;> rfl
  have hraise : (FmChip.count c micros).2.raise = c.raise := by
    funext f
    simp only [LevelChip.raise, hlevel]
  exact congrArg (fun raise => ((FmChip.count c micros).2, frames.map raise)) hraise

namespace FmPort

variable {χ : Type} [FmChip χ]

/-- A chip after mixing `n` frames, and these. -/
def rendering (c : χ) (n : Nat) : χ × Array Frame :=
  let (chip, fresh) := FmChip.mix c (Vector.replicate n Frame.silence)
  (chip, fresh.toArray)

theorem rendering_add (hparts : FmChip.MixesInParts χ) (c : χ) (m n : Nat) :
    rendering c (m + n) =
      ((rendering (rendering c m).1 n).1,
        (rendering c m).2 ++ (rendering (rendering c m).1 n).2) := by
  have hmix := hparts c (Vector.replicate m Frame.silence) (Vector.replicate n Frame.silence)
  rw [Vector.replicate_append_replicate] at hmix
  simp only [rendering, hmix, Vector.toArray_append]

theorem rendering_count {counts : UInt32 → Prop} (hapart : FmChip.CountsApart χ counts) (c : χ)
    (n : Nat) {micros : UInt32} (h : counts micros) :
    rendering (FmChip.count c micros).2 n =
      ((FmChip.count (rendering c n).1 micros).2, (rendering c n).2) := by
  simp only [rendering, hapart _ _ _ h]

theorem flush_of_le {p : FmPort χ} (h : p.position ≤ p.rendered) : p.flush = p := if_pos h

theorem flush_of_lt {p : FmPort χ} (h : p.rendered < p.position) :
    p.flush = { p with
      chip := (rendering p.chip (p.position - p.rendered)).1
      output := p.output ++ (rendering p.chip (p.position - p.rendered)).2 } :=
  if_neg (Nat.not_le.2 h)

theorem flush_flush (p : FmPort χ) : p.flush.flush = p.flush := by
  apply flush_of_le
  rw [p.flush_frames.2, flush_rendered]
  exact Nat.le_max_right _ _

theorem flush_movedTo (hparts : FmChip.MixesInParts χ) {p : FmPort χ}
    (hreached : p.rendered ≤ p.position) {place : Nat} (hle : p.position ≤ place) :
    (p.flush.movedTo place).flush = (p.movedTo place).flush := by
  have hrendered : p.flush.rendered = p.position := by
    rw [flush_rendered, Nat.max_eq_right hreached]
  rcases Nat.eq_or_lt_of_le hreached with hdone | howed
  · rw [flush_of_le (Nat.le_of_eq hdone.symm)]
  rcases Nat.eq_or_lt_of_le hle with rfl | hlater
  · have hplace : p.flush.movedTo p.position = p.flush := by
      conv_lhs => rw [← p.flush_frames.2]
      rfl
    rw [hplace]
    exact p.flush_flush
  · have hsum : place - p.rendered = (p.position - p.rendered) + (place - p.position) := by omega
    have hadd := rendering_add hparts p.chip (p.position - p.rendered) (place - p.position)
    rw [← hsum] at hadd
    have hsecond : (p.flush.movedTo place).rendered < place := by
      change p.flush.rendered < place
      rwa [hrendered]
    have hfirst : (p.movedTo place).rendered < place := Nat.lt_trans howed hlater
    rw [flush_of_lt hsecond, flush_of_lt hfirst]
    simp only [movedTo]
    change { p.flush with
      position := place
      chip := (rendering p.flush.chip (place - p.flush.rendered)).1
      output := p.flush.output ++ (rendering p.flush.chip (place - p.flush.rendered)).2 } =
        { p with
          position := place
          chip := (rendering p.chip (place - p.rendered)).1
          output := p.output ++ (rendering p.chip (place - p.rendered)).2 }
    rw [hrendered, hadd, flush_of_lt howed]
    simp only [Array.append_assoc]

theorem flush_count {counts : UInt32 → Prop} (hapart : FmChip.CountsApart χ counts)
    (p : FmPort χ) {micros : UInt32} (h : counts micros) :
    (p.count micros).2.flush = (p.flush.count micros).2 := by
  rcases Nat.lt_or_ge p.rendered p.position with howed | hdone
  · have hcount := rendering_count hapart p.chip (p.position - p.rendered) h
    have hafter : (p.count micros).2.rendered < (p.count micros).2.position := howed
    rw [flush_of_lt hafter, flush_of_lt howed]
    change { p with
      chip := (rendering (FmChip.count p.chip micros).2 (p.position - p.rendered)).1
      output := p.output ++
        (rendering (FmChip.count p.chip micros).2 (p.position - p.rendered)).2 } = _
    rw [hcount]
    rfl
  · have hafter : (p.count micros).2.position ≤ (p.count micros).2.rendered := hdone
    rw [flush_of_le hafter, flush_of_le hdone]

theorem flush_writeAddress (p : FmPort χ) (register : UInt8) :
    (p.flush.writeAddress register).flush = (p.writeAddress register).flush := by
  have hflushed : (p.flush.writeAddress register).flush = p.flush.writeAddress register := by
    refine flush_of_le ?_
    change p.flush.position ≤ p.flush.rendered
    rw [p.flush_frames.2, flush_rendered]
    exact Nat.le_max_right _ _
  rw [hflushed]
  rcases Nat.lt_or_ge p.rendered p.position with howed | hdone
  · have hafter : (p.writeAddress register).rendered < (p.writeAddress register).position := howed
    rw [flush_of_lt howed, flush_of_lt hafter]
    rfl
  · have hafter : (p.writeAddress register).position ≤ (p.writeAddress register).rendered := hdone
    rw [flush_of_le hdone, flush_of_le hafter]

theorem Sound.call {p q : FmPort χ} {c : PortCall} (h : p.Sound) (hcall : p.call c = .ok q) :
    q.Sound := by
  cases c with
  | address register | count micros | status =>
    obtain rfl := Except.ok.inj hcall
    exact ⟨h.rendered, h.position, h.frames⟩
  | data value =>
    obtain rfl := Except.ok.inj hcall
    exact h.writeData value
  | flush =>
    obtain rfl := Except.ok.inj hcall
    exact h.flush
  | advance n =>
    rw [FmPort.call, advance_eq] at hcall
    have := h.rendered
    have := h.position
    unfold addBelow at hcall
    split at hcall
    case isTrue hfit =>
      obtain rfl := Except.ok.inj hcall
      refine ⟨?_, Nat.min_le_right _ _, h.frames⟩
      change p.rendered ≤ min (p.position + n) p.frames
      omega
    case isFalse => cases hcall

/-- What a call leads to does not depend on a flush before it, up to a flush after it. -/
theorem call_flush {counts : UInt32 → Prop} (hparts : FmChip.MixesInParts χ)
    (hapart : FmChip.CountsApart χ counts) {p : FmPort χ} (h : p.Sound) {c : PortCall}
    (hcounts : ∀ micros, c = .count micros → counts micros) :
    (p.flush.call c).map flush = (p.call c).map flush := by
  cases c with
  | address register => exact congrArg Except.ok (p.flush_writeAddress register)
  | status => exact congrArg Except.ok p.flush_flush
  | flush => exact congrArg Except.ok (congrArg flush p.flush_flush)
  | count micros =>
    refine congrArg Except.ok ?_
    rw [← flush_count hapart p (hcounts micros rfl)]
    exact flush_flush _
  | data value =>
    refine congrArg Except.ok ?_
    rw [writeData_fst, writeData_fst, p.flush_latch, p.flush_flush]
    cases p.latch with
    | none => exact p.flush_flush
    | some address => rfl
  | advance n =>
    have hle : p.position ≤ min (p.position + n) p.frames :=
      Nat.le_min.2 ⟨Nat.le_add_right _ _, h.position⟩
    rw [FmPort.call, FmPort.call, advance_eq, advance_eq, p.flush_frames.1, p.flush_frames.2]
    unfold addBelow
    split
    · exact congrArg Except.ok (flush_movedTo hparts h.rendered hle)
    · rfl

theorem Sound.callAll {p q : FmPort χ} {calls : List PortCall} (h : p.Sound)
    (hcalls : calls.foldlM FmPort.call p = .ok q) : q.Sound := by
  induction calls using List.reverseRecOn generalizing q with
  | nil =>
    obtain rfl := Except.ok.inj hcalls
    exact h
  | append_singleton calls c ih =>
    rw [foldlM_concat] at hcalls
    cases hp : calls.foldlM FmPort.call p with
    | error fault => rw [hp] at hcalls; cases hcalls
    | ok before =>
      rw [hp] at hcalls
      exact (ih hp).call hcalls

theorem bind_call_flush {counts : UInt32 → Prop} (hparts : FmChip.MixesInParts χ)
    (hapart : FmChip.CountsApart χ counts) {reached : Checked (FmPort χ)}
    (h : ∀ p, reached = .ok p → p.Sound) {c : PortCall}
    (hcounts : ∀ micros, c = .count micros → counts micros) :
    (reached.map flush >>= (call · c)).map flush = (reached >>= (call · c)).map flush := by
  cases reached with
  | error fault => rfl
  | ok p => exact call_flush hparts hapart (h p rfl) hcounts

theorem callAll_withoutFlushes {counts : UInt32 → Prop} (hparts : FmChip.MixesInParts χ)
    (hapart : FmChip.CountsApart χ counts) {p : FmPort χ} (h : p.Sound) {calls : List PortCall}
    (hcounts : ∀ micros, .count micros ∈ calls → counts micros) :
    ((withoutFlushes calls).foldlM call p).map flush = (calls.foldlM call p).map flush := by
  induction calls using List.reverseRecOn with
  | nil => rfl
  | append_singleton calls c ih =>
    have hbefore := ih fun micros hm => hcounts micros (List.mem_append_left _ hm)
    have hlast : ∀ micros, c = .count micros → counts micros := by
      rintro micros rfl
      exact hcounts micros List.mem_concat_self
    rw [foldlM_concat, withoutFlushes_concat]
    split
    case isTrue hc =>
      rw [hbefore, hc]
      cases calls.foldlM call p with
      | error fault => rfl
      | ok q => exact congrArg Except.ok q.flush_flush.symm
    case isFalse =>
      rw [foldlM_concat, ← bind_call_flush hparts hapart (fun _ => h.callAll) hlast, hbefore,
        bind_call_flush hparts hapart (fun _ => h.callAll) hlast]

theorem map_flush_finish (hparts : FmChip.MixesInParts χ)
    {reached : Checked (FmPort χ)} (h : ∀ p, reached = .ok p → p.Sound) :
    (reached.map flush).map finish = reached.map finish := by
  cases reached with
  | error fault => rfl
  | ok p =>
    have hsound := h p rfl
    refine congrArg Except.ok ?_
    change (p.flush.movedTo p.flush.frames).flush = (p.movedTo p.frames).flush
    rw [p.flush_frames.1]
    exact flush_movedTo hparts hsound.rendered hsound.position

theorem play_withoutFlushes {counts : UInt32 → Prop} (hparts : FmChip.MixesInParts χ)
    (hapart : FmChip.CountsApart χ counts) (p : FmPort χ) (frames : Nat) {calls : List PortCall}
    (hcounts : ∀ micros, .count micros ∈ calls → counts micros) :
    p.play frames (withoutFlushes calls) = p.play frames calls := by
  rw [play_eq, play_eq]
  unfold mulBelow
  split
  case isTrue hframes =>
    have hopened : (p.opened frames).Sound := by
      constructor
      case rendered => exact Nat.le_refl 0
      case position => exact Nat.zero_le frames
      case frames => rwa [Nat.mul_comm] at hframes
    have hflushed := callAll_withoutFlushes hparts hapart hopened hcounts
    change Except.map _ _ = Except.map _ _
    rw [← map_flush_finish hparts fun _ => hopened.callAll, hflushed,
      map_flush_finish hparts fun _ => hopened.callAll]
  case isFalse => rfl

end FmPort

/-! ## Blocks -/

/-- A port that was through `earlier` plays a block of `frames` with `calls`, whether the calls to
its chip are recorded or not. `block` is the port after it, with the record of the block. -/
structure Played {χ : Type} [FmChip χ] (earlier : List PortEvent) (p : FmPort χ) (frames : Nat)
    (calls : List PortCall) (block : FmPort (Recorded χ)) : Prop where
  recorded : (p.map Recorded.fresh).play frames calls = .ok block
  plain : p.play frames calls = .ok (block.map Recorded.chip)
  size : block.output.size = frames
  slices : ChipCall.mixedFrames 0 block.chip.calls.toList = List.range frames
  filled : ∀ n, .mix n ∈ block.chip.calls.toList → 0 < n
  writes : ChipCall.framedWrites 0 block.chip.calls.toList = delivered earlier frames [] calls

namespace FmPort

variable {χ : Type} [FmChip χ]

theorem exists_played {earlier : List PortEvent} {p : FmPort χ} (hlatch : p.latch = latched earlier)
    {frames : Nat} (hframes : 2 * frames < word64) {calls : List PortCall}
    (hfit : Fit frames calls) : ∃ block, Played earlier p frames calls block := by
  have hopened : ((p.map Recorded.fresh).opened frames).Follows earlier frames [] := by
    constructor
    case frames | writes => rfl
    case position => exact (Nat.min_zero _).symm
    case latch =>
      rw [List.map_nil, List.append_nil]
      exact hlatch
    case tallied => exact ⟨Nat.le_refl 0, rfl, fun n hn => by cases hn⟩
  obtain ⟨q, hq, hfollows⟩ := hopened.callAll hfit
  have hend : (q.movedTo q.frames).Tallied := by
    apply hfollows.tallied.movedTo
    rw [hfollows.position, hfollows.frames]
    exact Nat.min_le_left _ _
  have hrendered : q.finish.rendered = frames := hend.flush_rendered.trans hfollows.frames
  have hplay : (p.map Recorded.fresh).play frames calls = .ok q.finish := by
    rw [play_eq, mulBelow_of_lt (by rwa [Nat.mul_comm]), hq]
    rfl
  refine ⟨q.finish, ?_⟩
  constructor
  case recorded => exact hplay
  case plain =>
    have hsame := Recorded.chip_hom.play (p.map Recorded.fresh) frames calls
    rw [hplay] at hsame
    exact hsame
  case size => exact hrendered
  case slices =>
    have hmixed : ChipCall.mixed q.finish.chip.calls.toList = frames :=
      hend.flush.mixed.trans hrendered
    rw [ChipCall.mixedFrames_eq, hmixed, List.range_eq_range']
  case filled => exact hend.flush.filled
  case writes => exact (q.movedTo q.frames).heard_flush.trans hfollows.writes

/-- In a block a chip gets the data that was written while an address with a register was latched,
each at the frame that the block had come to, and mixes every frame of the block once. Other flushes
change neither the writes nor, if mixes can be divided and no count among the calls is heard, the
sound. -/
theorem blocks_follow_calls (chip : χ) {earlier : List PortEvent} {p : FmPort χ}
    (hlife : earlier.foldlM after (attach chip) = .ok p) {frames : Nat}
    (hframes : 2 * frames < word64) {calls : List PortCall} (hfit : Fit frames calls) :
    ∃ block, Played earlier p frames calls block ∧
      ∀ flushed, withoutFlushes flushed = withoutFlushes calls →
        ∃ other, Played earlier p frames flushed other ∧
          ChipCall.framedWrites 0 other.chip.calls.toList =
            ChipCall.framedWrites 0 block.chip.calls.toList ∧
          (FmChip.MixesInParts χ → FmChip.CountsApart χ (fun micros => .count micros ∈ calls) →
            other.output = block.output) := by
  have hlatch := latch_eq chip hlife
  obtain ⟨block, hblock⟩ := exists_played hlatch hframes hfit
  refine ⟨block, hblock, fun flushed hsame => ?_⟩
  obtain ⟨other, hother⟩ := exists_played hlatch hframes (hfit.congr hsame)
  refine ⟨other, hother, ?_, fun hparts hapart => ?_⟩
  · rw [hother.writes, hblock.writes, ← delivered_withoutFlushes, hsame, delivered_withoutFlushes]
  · have hcounts : ∀ micros, .count micros ∈ flushed → .count micros ∈ calls := by
      intro micros hm
      have hkept : .count micros ∈ withoutFlushes flushed := List.mem_filter.2 ⟨hm, rfl⟩
      rw [hsame] at hkept
      exact (List.mem_filter.1 hkept).1
    have hplay := play_withoutFlushes hparts hapart p frames hcounts
    rw [hsame, play_withoutFlushes hparts hapart p frames fun _ hm => hm, hblock.plain,
      hother.plain] at hplay
    exact (congrArg FmPort.output (Except.ok.inj hplay)).symm

/-- Data comes at the begin and past the end of a block, and to an address that stands for
another. -/
theorem blocks_follow_calls_past_the_end :
    let earlier : List PortEvent := [.call (.address 0x20)]
    let p : FmPort LevelChip := (attach {}).writeAddress 0x20
    let calls : List PortCall :=
      [.data 1, .advance 4, .count 100, .data 2, .address 0x09, .advance 9, .data 3, .address 0x07,
        .data 4]
    earlier.foldlM after (attach {}) = .ok p ∧ 2 * 10 < word64 ∧ Fit 10 calls ∧
      FmChip.MixesInParts LevelChip ∧
      FmChip.CountsApart LevelChip (fun micros => .count micros ∈ calls) ∧
      ∃ block, Played earlier p 10 calls block ∧
        ChipCall.framedWrites 0 block.chip.calls.toList =
          [(0, 0x20, 1), (4, 0x20, 2), (10, 0x01, 3)] ∧
        ∀ flushed, withoutFlushes flushed = withoutFlushes calls →
          ∃ other, Played earlier p 10 flushed other ∧ other.output = block.output := by
  intro earlier p calls
  have hlife : earlier.foldlM after (attach {}) = .ok p := rfl
  have hframes : 2 * 10 < word64 := by decide
  have hfit : Fit 10 calls := by
    refine .of_advances (fun n hmem => ?_) (by decide : 10 + 9 < word64)
    have hn : n = 4 ∨ n = 9 := by simpa [calls] using hmem
    omega
  have hparts := LevelChip.mixesInParts
  have hapart := LevelChip.countsApart fun micros => .count micros ∈ calls
  obtain ⟨block, hblock, hflushed⟩ := blocks_follow_calls ({} : LevelChip) hlife hframes hfit
  refine ⟨hlife, hframes, hfit, hparts, hapart, block, hblock, ?_, fun flushed hsame => ?_⟩
  · rw [hblock.writes]
    decide
  · obtain ⟨other, hother, -, hsound⟩ := hflushed flushed hsame
    exact ⟨other, hother, hsound hparts hapart⟩

end FmPort

/-! ## Counts that are heard -/

/-- A chip that sounds with the level counted last, as if its timer struck the note. -/
structure StruckChip where
  tone : LevelChip := {}
  deriving DecidableEq, Repr

instance : FmChip StruckChip where
  reset c := c
  write c register value := ⟨FmChip.write c.tone register value⟩
  status c := FmChip.status c.tone
  count c micros := (false, ⟨{ c.tone with level := micros.toUInt8 }⟩)
  mix c frames :=
    let (tone, frames) := FmChip.mix c.tone frames
    (⟨tone⟩, frames)

/-- The frame before a count is mixed after it, unless a flush comes between. And no block is as
long as 2^63 frames. -/
theorem FmPort.flush_before_count_is_heard :
    let p : FmPort StruckChip := attach {}
    let calls : List PortCall := [.advance 1, .count 5, .advance 1]
    let flushed : List PortCall := [.advance 1, .flush, .count 5, .advance 1]
    FmChip.MixesInParts StruckChip ∧ Fit 2 calls ∧
      withoutFlushes flushed = withoutFlushes calls ∧
      (p.play 2 calls).map FmPort.output = .ok #[⟨5, -5⟩, ⟨5, -5⟩] ∧
      (p.play 2 flushed).map FmPort.output = .ok #[⟨0, 0⟩, ⟨5, -5⟩] ∧
      p.play (2 ^ 63) [] = .error .product := by
  intro p calls flushed
  have hparts : FmChip.MixesInParts StruckChip :=
    fun c _ _ first second => congrArg (Prod.mk c) (congrArg Prod.snd
      (LevelChip.mixesInParts c.tone first second))
  have hfit : Fit 2 calls := by
    refine .of_advances (fun n hmem => ?_) (by decide : 2 + 1 < word64)
    obtain rfl : n = 1 := by simpa [calls] using hmem
    exact Nat.le_refl 1
  exact ⟨hparts, hfit, by decide, by decide +kernel, by decide +kernel, rfl⟩

end FeatureCard.Fm
