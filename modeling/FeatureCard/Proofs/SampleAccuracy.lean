import Mathlib.Algebra.GroupWithZero.Nat
import FeatureCard.Proofs.FmAccess
import FeatureCard.Proofs.Life
import FeatureCard.Proofs.Recording
import FeatureCard.Proofs.Scripted

/-!
# Register writes are heard from the right frame on

A register write reaches the chip when as many frames of the block are mixed as fit into the
T-states that were spent before its step. The frames are mixed in order, each of them once.
-/

namespace FeatureCard

open Fm

/-! ## The calls of a block -/

namespace Fm.ChipCall

def mixed : List ChipCall → Nat
  | [] => 0
  | .mix n :: calls => n + mixed calls
  | .write _ _ :: calls | .reset :: calls => mixed calls

/-- The register writes among the calls, each with the number of frames mixed before it, of which
`done` were mixed before the calls. -/
def framedWrites (done : Nat) : List ChipCall → List (Nat × UInt8 × UInt8)
  | [] => []
  | .mix n :: calls => framedWrites (done + n) calls
  | .write register value :: calls => (done, register, value) :: framedWrites done calls
  | .reset :: calls => framedWrites done calls

def mixedFrames (done : Nat) : List ChipCall → List Nat
  | [] => []
  | .mix n :: calls => List.range' done n ++ mixedFrames (done + n) calls
  | .write _ _ :: calls | .reset :: calls => mixedFrames done calls

theorem mixed_append (first second : List ChipCall) :
    mixed (first ++ second) = mixed first + mixed second := by
  induction first with
  | nil => rw [List.nil_append, mixed, Nat.zero_add]
  | cons call first ih => cases call <;> simp only [List.cons_append, mixed, ih, Nat.add_assoc]

theorem framedWrites_append (done : Nat) (first second : List ChipCall) :
    framedWrites done (first ++ second) =
      framedWrites done first ++ framedWrites (done + mixed first) second := by
  induction first generalizing done with
  | nil => rw [List.nil_append, mixed, Nat.add_zero, framedWrites, List.nil_append]
  | cons call first ih =>
    cases call <;> simp only [List.cons_append, framedWrites, mixed, ih, Nat.add_assoc]

theorem mixedFrames_eq (done : Nat) (calls : List ChipCall) :
    mixedFrames done calls = List.range' done (mixed calls) := by
  induction calls generalizing done with
  | nil => rfl
  | cons call calls ih =>
    cases call with
    | mix n => rw [mixedFrames, mixed, ih, List.range'_append_1]
    | write register value => rw [mixedFrames, mixed, ih]
    | reset => rw [mixedFrames, mixed, ih]

end Fm.ChipCall

/-! ## A step in its block -/

namespace Fm.FmPort

variable {χ : Type} [FmChip χ]

theorem flush_frames (p : FmPort χ) :
    p.flush.frames = p.frames ∧ p.flush.position = p.position := by
  unfold flush
  split <;> exact ⟨rfl, rfl⟩

theorem flush_rendered (p : FmPort χ) : p.flush.rendered = max p.rendered p.position := by
  unfold flush
  split
  · omega
  · simp only [rendered, Array.size_append, Vector.size_toArray]
    omega

theorem flush_calls (p : FmPort (Recorded χ)) :
    p.flush.chip.calls.toList = p.chip.calls.toList ++
      if p.position ≤ p.rendered then [] else [.mix (p.position - p.rendered)] := by
  unfold flush
  split
  · rw [List.append_nil]
  · exact Array.toList_push

theorem put_calls (p : FmPort (Recorded χ)) (register value : UInt8) :
    (p.put register value).chip.calls.toList =
      p.chip.calls.toList ++ [.write register value] := Array.toList_push

/-- A recorder in a block of `length` frames, at `place` and with `done` frames rendered when it was
new: it has heard of the other frames rendered, and of writes at the place only. -/
structure Paced (length place done : Nat) (p : FmPort (Recorded χ)) : Prop where
  frames : p.frames = length
  position : p.position = place
  rendered : done + ChipCall.mixed p.chip.calls.toList = p.rendered
  reached : p.rendered ≤ place
  writes : ChipCall.framedWrites done p.chip.calls.toList =
    (p.chip.calls.toList.filterMap ChipCall.write?).map (place, ·)

theorem Paced.flush {length place done : Nat} {p : FmPort (Recorded χ)}
    (h : p.Paced length place done) :
    p.flush.Paced length place done ∧ p.flush.rendered = place := by
  have hrendered : p.flush.rendered = place := by
    rw [flush_rendered, h.position, Nat.max_eq_right h.reached]
  refine ⟨?_, hrendered⟩
  constructor
  case frames => rw [p.flush_frames.1, h.frames]
  case position => rw [p.flush_frames.2, h.position]
  case rendered =>
    rw [hrendered, flush_calls, ChipCall.mixed_append, ← Nat.add_assoc, h.rendered, h.position]
    have := h.reached
    split <;> simp only [ChipCall.mixed] <;> omega
  case reached => exact Nat.le_of_eq hrendered
  case writes =>
    rw [flush_calls, ChipCall.framedWrites_append, List.filterMap_append, h.writes]
    split <;> simp [ChipCall.framedWrites, ChipCall.write?]

theorem Paced.put {length place done : Nat} {p : FmPort (Recorded χ)} (register value : UInt8)
    (h : p.Paced length place done) : (p.flush.put register value).Paced length place done := by
  obtain ⟨hflush, hrendered⟩ := h.flush
  constructor
  case frames => exact hflush.frames
  case position => exact hflush.position
  case rendered =>
    rw [put_calls, ChipCall.mixed_append]
    exact hflush.rendered
  case reached => exact hflush.reached
  case writes =>
    rw [put_calls, ChipCall.framedWrites_append, List.filterMap_append, List.map_append,
      hflush.writes, hflush.rendered, hrendered]
    rfl

end Fm.FmPort

namespace Run

variable {κ χ : Type} [Processor κ] [FmChip χ]

/-- What a step sends to the chip, `p` being the FM port when the step began. -/
structure Sends (r : Run κ χ) (p : FmPort χ) : Prop where
  frames : r.acted.bus.device.fm.frames = p.frames
  position : r.acted.bus.device.fm.position = p.position
  rendered : p.rendered + ChipCall.mixed r.chipCalls = r.acted.bus.device.fm.rendered
  reached : r.acted.bus.device.fm.rendered ≤ p.position
  writes : ChipCall.framedWrites p.rendered r.chipCalls = r.forwarded.map (p.position, ·)

theorem sends (r : Run κ χ) (h : r.bus.device.fm.rendered ≤ r.bus.device.fm.position) :
    r.Sends r.bus.device.fm := by
  let p := r.bus.device.fm
  have hstart : r.recording.bus.device.fm.Paced p.frames p.position p.rendered :=
    ⟨rfl, rfl, rfl, h, rfl⟩
  have hkept := r.recording.acted_kept
    (FmPort.kept_bus (P := FmPort.Paced p.frames p.position p.rendered)
      (fun _ _ h => ⟨h.frames, h.position, h.rendered, h.reached, h.writes⟩)
      (fun _ h => h.flush.1) (fun _ register value h => h.put register value)) hstart
  have hplain : r.acted.bus.device.fm =
      r.recording.acted.bus.device.fm.map Recorded.chip := by
    rw [← r.recording_acted]
    rfl
  constructor
  case frames => rw [hplain]; exact hkept.frames
  case position => rw [hplain]; exact hkept.position
  case rendered => rw [hplain]; exact hkept.rendered
  case reached => rw [hplain]; exact hkept.reached
  case writes => exact hkept.writes

/-! ## A block on time -/

omit [Processor κ] [FmChip χ] in
theorem reach_of_lt {p : FmPort χ} {reached : Nat} (hplace : p.position ≤ p.frames)
    (hword : p.position + reached < word64) :
    reach p reached = .ok { p with position := min (p.position + reached) p.frames } := by
  unfold reach
  by_cases hpos : 0 < reached
  · rw [if_pos hpos, FmPort.advance, addBelow_of_lt hword]
    rfl
  · have hsame : min (p.position + reached) p.frames = p.position := by omega
    rw [if_neg hpos, hsame]

/-- A block of `length` frames, with `q` T-states in each, when `spent` T-states are spent. -/
structure OnTime (q length spent : Nat) (r : Run κ χ) : Prop where
  cursor : r.cursor = .reached q spent
  frames : r.bus.device.fm.frames = length
  position : r.bus.device.fm.position = min (spent / q) length
  rendered : r.bus.device.fm.rendered ≤ r.bus.device.fm.position

theorem OnTime.next {q length spent : Nat} {r : Run κ χ} (h : r.OnTime q length spent)
    (hq : 0 < q) (hle : q ≤ 737) (hlength : 2 * length < word64)
    (hcost : r.cost.toNat + 736 < word32) :
    ∃ r', r.next = .ok r' ∧ r'.OnTime q length (spent + r.cost.toNat) ∧
      r'.bus.device.fm.rendered = r.acted.bus.device.fm.rendered := by
  have hsends := r.sends h.rendered
  have hcursor : r.acted.cursor.advance r.cost =
      .ok ((spent % q + r.cost.toNat) / q, .reached q (spent + r.cost.toNat)) := by
    rw [r.acted_clock.2, h.cursor, FrameCursor.advance_reached hq hle spent hcost]
  have hplace : r.acted.bus.device.fm.position = min (spent / q) length := by
    rw [hsends.position, h.position]
  have hend : r.acted.bus.device.fm.frames = length := by rw [hsends.frames, h.frames]
  have hcompleted : (spent % q + r.cost.toNat) / q ≤ spent % q + r.cost.toNat := Nat.div_le_self _ _
  have hword : r.acted.bus.device.fm.position + (spent % q + r.cost.toNat) / q < word64 := by
    have := Nat.mod_lt spent hq
    simp only [word32, word64] at *
    omega
  have hreach := reach_of_lt (p := r.acted.bus.device.fm) (by omega) hword
  have hsettle := settle_eq r.acted r.cost
  simp only [hcursor, hreach, bind, Except.bind] at hsettle
  refine ⟨_, hsettle, ?_, rfl⟩
  constructor
  case cursor => rfl
  case frames => exact hend
  case position =>
    change min (r.acted.bus.device.fm.position + _) r.acted.bus.device.fm.frames = _
    rw [hplace, hend, add_div_of_mod hq spent]
    generalize spent / q = place, (spent % q + r.cost.toNat) / q = completed
    omega
  case rendered =>
    change r.acted.bus.device.fm.rendered ≤
      min (r.acted.bus.device.fm.position + _) r.acted.bus.device.fm.frames
    have hreached : r.acted.bus.device.fm.rendered ≤ r.acted.bus.device.fm.position := by
      rw [hsends.position]
      exact hsends.reached
    refine Nat.le_min.2 ⟨Nat.le_add_right_of_le hreached, ?_⟩
    rw [hend]
    exact Nat.le_trans hreached (hplace ▸ Nat.min_le_right _ _)

/-- The T-states spent in the steps before step `k`. -/
def spentBefore (steps : List (Run κ χ)) (k : Nat) : Nat :=
  ((steps.take k).map fun r => r.cost.toNat).sum

theorem spentBefore_zero (steps : List (Run κ χ)) : spentBefore steps 0 = 0 := rfl

theorem spentBefore_succ (r : Run κ χ) (steps : List (Run κ χ)) (k : Nat) :
    spentBefore (r :: steps) (k + 1) = r.cost.toNat + spentBefore steps k := by
  simp [spentBefore]

/-- A block on time is spent without a breakdown, and the writes of each of its steps reach the chip
after as many frames as the T-states before the step make. -/
theorem OnTime.spend {q length : Nat} (hle : q ≤ 737) (hlength : 2 * length < word64)
    (budget : Int) (r : Run κ χ) (spent : Nat) (hbudget : budget = q * length - spent)
    (h : r.OnTime q length spent)
    (hcosts : ∀ s ∈ r.steps budget, s.cost.toNat + 736 < word32) :
    (∃ r' spent', r.spend budget = .ok r' ∧ q * length ≤ spent' ∧ r'.OnTime q length spent' ∧
      r.bus.device.fm.rendered + ChipCall.mixed ((r.steps budget).flatMap chipCalls) =
        r'.bus.device.fm.rendered) ∧
    ChipCall.framedWrites r.bus.device.fm.rendered ((r.steps budget).flatMap chipCalls) =
      ((r.steps budget).mapIdx fun k s =>
        s.forwarded.map ((spent + spentBefore (r.steps budget) k) / q, ·)).flatten ∧
    ∀ k < (r.steps budget).length, (spent + spentBefore (r.steps budget) k) / q < length := by
  induction budget, r using Run.steps.induct generalizing spent with
  | case1 budget r hpos ih =>
    have hq : 0 < q := by
      rcases Nat.eq_zero_or_pos q with rfl | hq
      · omega
      · exact hq
    have hmem : r ∈ r.steps budget := by
      rw [steps, if_pos hpos]
      exact List.mem_cons_self
    obtain ⟨r', hn, hr', hrendered⟩ := h.next hq hle hlength (hcosts r hmem)
    have hsends := r.sends h.rendered
    have hspent : spent < q * length := by omega
    have hfirst : spent / q < length := Nat.div_lt_of_lt_mul hspent
    have hplace : r.bus.device.fm.position = spent / q := by
      rw [h.position, Nat.min_eq_left (Nat.le_of_lt hfirst)]
    rw [steps_of_next hpos hn] at hcosts ⊢
    obtain ⟨⟨last, spent', hspend, hover, hlast, hmixed⟩, hwrites, hwithin⟩ :=
      ih r' (spent + r.cost.toNat) (by omega) hr'
        (fun s hs => hcosts s (List.mem_cons_of_mem _ hs))
    refine ⟨⟨last, spent', ?_, hover, hlast, ?_⟩, ?_, ?_⟩
    · rw [spend_of_next hpos hn, hspend]
    · rw [List.flatMap_cons, ChipCall.mixed_append, ← Nat.add_assoc, hsends.rendered, ← hrendered,
        hmixed]
    · rw [List.flatMap_cons, ChipCall.framedWrites_append, hsends.rendered, ← hrendered, hwrites,
        hsends.writes, hplace, List.mapIdx_cons, List.flatten_cons]
      simp only [spentBefore_zero, spentBefore_succ, Nat.add_zero, Nat.add_assoc]
    · intro k hk
      cases k with
      | zero => rwa [spentBefore_zero, Nat.add_zero]
      | succ k =>
        rw [spentBefore_succ, ← Nat.add_assoc]
        exact hwithin k (Nat.lt_of_succ_lt_succ hk)
  | case2 budget r hpos =>
    rw [steps_of_not_pos hpos]
    refine ⟨⟨r, spent, spend_of_not_pos hpos r, ?_, h, rfl⟩, rfl, fun k hk => ?_⟩
    · omega
    · exact absurd hk (Nat.not_lt_zero k)

end Run

/-! ## Constant levels -/

/-- A chip that adds a constant level to every frame: `raise` of the value last written to it. -/
structure Fm.ConstantLevel {χ : Type} [FmChip χ] (level : χ → UInt8)
    (raise : UInt8 → Frame → Frame) : Prop where
  write : ∀ c register value, level (FmChip.write c register value) = value
  count : ∀ c micros, level (FmChip.count c micros).2 = level c
  mix : ∀ {n : Nat} c (frames : Vector Frame n), level (FmChip.mix c frames).1 = level c ∧
    (FmChip.mix c frames).2 = frames.map (raise (level c))

theorem Fm.LevelChip.constantLevel :
    ConstantLevel LevelChip.level fun level f => LevelChip.raise { level } f where
  write _ _ _ := rfl
  count c micros := by
    simp only [FmChip.count]
    split <;> rfl
  mix _ _ := ⟨rfl, rfl⟩

/-- The last level written, or `start` if there was none. -/
def lastLevel (start : UInt8) (writes : List (Nat × UInt8 × UInt8)) : UInt8 :=
  (writes.getLast?.map fun write => write.2.2).getD start

namespace Fm.FmPort

variable {χ : Type} [FmChip χ] {level : χ → UInt8} {raise : UInt8 → Frame → Frame} {start : UInt8}

/-- The writes that a recorder has heard since it was new at the start of a block. -/
def heard (p : FmPort (Recorded χ)) : List (Nat × UInt8 × UInt8) :=
  ChipCall.framedWrites 0 p.chip.calls.toList

theorem mixed_flush (p : FmPort (Recorded χ)) :
    ChipCall.mixed p.flush.chip.calls.toList =
      ChipCall.mixed p.chip.calls.toList + (p.position - p.rendered) := by
  rw [flush_calls, ChipCall.mixed_append]
  split <;> simp only [ChipCall.mixed] <;> omega

theorem heard_flush (p : FmPort (Recorded χ)) : p.flush.heard = p.heard := by
  rw [heard, p.flush_calls, ChipCall.framedWrites_append]
  split <;> exact List.append_nil _

theorem heard_put (p : FmPort (Recorded χ)) (register value : UInt8) :
    (p.put register value).heard =
      p.heard ++ [(ChipCall.mixed p.chip.calls.toList, register, value)] := by
  rw [heard, put_calls, ChipCall.framedWrites_append, Nat.zero_add]
  rfl

/-- Each frame rendered has the level of the last write that came at or before it. -/
structure Sounds (level : χ → UInt8) (raise : UInt8 → Frame → Frame) (start : UInt8)
    (p : FmPort (Recorded χ)) : Prop where
  mixed : ChipCall.mixed p.chip.calls.toList = p.rendered
  early : ∀ write ∈ p.heard, write.1 ≤ p.rendered
  level : level p.chip.chip = lastLevel start p.heard
  sound : ∀ i < p.rendered, p.output[i]? =
    some (raise (lastLevel start (p.heard.filter (·.1 ≤ i))) .silence)

theorem flush_level (hlevel : ConstantLevel level raise) (p : FmPort (Recorded χ)) :
    level p.flush.chip.chip = level p.chip.chip ∧
      p.flush.output = p.output ++
        Array.replicate (p.position - p.rendered) (raise (level p.chip.chip) .silence) := by
  unfold flush
  by_cases hp : p.position ≤ p.rendered
  · rw [if_pos hp, Nat.sub_eq_zero_of_le hp]
    exact ⟨rfl, by simp⟩
  · rw [if_neg hp]
    have hmix := hlevel.mix p.chip.chip
      (Vector.replicate (p.position - p.rendered) Frame.silence)
    refine ⟨hmix.1, ?_⟩
    change p.output ++ (FmChip.mix p.chip.chip _).2.toArray = _
    rw [hmix.2]
    simp

theorem Sounds.flush (hlevel : ConstantLevel level raise) {p : FmPort (Recorded χ)}
    (h : p.Sounds level raise start) : p.flush.Sounds level raise start := by
  obtain ⟨hsame, houtput⟩ := flush_level hlevel p
  have hrendered := p.flush_rendered
  have hheard := p.heard_flush
  constructor
  case mixed =>
    rw [p.mixed_flush, h.mixed, hrendered]
    omega
  case early =>
    intro write hwrite
    rw [hheard] at hwrite
    have := h.early write hwrite
    omega
  case level => rw [hsame, hheard, h.level]
  case sound =>
    intro i hi
    rw [hheard, houtput]
    by_cases hold : i < p.rendered
    · rw [Array.getElem?_append_left hold]
      exact h.sound i hold
    · -- All writes so far came before the new frames.
      have hall : p.heard.filter (·.1 ≤ i) = p.heard := by
        refine List.filter_eq_self.2 fun write hwrite => ?_
        have := h.early write hwrite
        simp only [decide_eq_true_eq]
        omega
      have hnew : i - p.output.size < p.position - p.rendered := by
        have : p.output.size = p.rendered := rfl
        omega
      rw [Array.getElem?_append_right (Nat.le_of_not_lt hold), hall, ← h.level,
        Array.getElem?_replicate, if_pos hnew]

theorem Sounds.put (hlevel : ConstantLevel level raise) {p : FmPort (Recorded χ)}
    (register value : UInt8) (h : p.Sounds level raise start) :
    (p.flush.put register value).Sounds level raise start := by
  have hflush := h.flush hlevel
  have hheard : (p.flush.put register value).heard =
      p.flush.heard ++ [(p.flush.rendered, register, value)] := by
    rw [heard_put, hflush.mixed]
  constructor
  case mixed =>
    rw [put_calls, ChipCall.mixed_append]
    exact hflush.mixed
  case early =>
    intro write hwrite
    rw [hheard, List.mem_append, List.mem_singleton] at hwrite
    rcases hwrite with hwrite | rfl
    · exact hflush.early write hwrite
    · exact Nat.le_refl _
  case level =>
    rw [hheard, lastLevel, List.getLast?_concat]
    exact hlevel.write _ register value
  case sound =>
    intro i hi
    have hlater : ¬ p.flush.rendered ≤ i := Nat.not_le.2 hi
    rw [hheard, List.filter_append]
    simp only [List.filter_cons, hlater, decide_false, Bool.false_eq_true, if_false,
      List.filter_nil, List.append_nil]
    exact hflush.sound i hi

end Fm.FmPort

namespace Run

variable {κ χ : Type} [Processor κ] [FmChip χ] {level : χ → UInt8}
  {raise : UInt8 → Frame → Frame} {start : UInt8}

theorem sounds_next (hlevel : ConstantLevel level raise) {r r' : Run κ (Recorded χ)}
    (h : r.bus.device.fm.Sounds level raise start) (hn : r.next = .ok r') :
    r'.bus.device.fm.Sounds level raise start := by
  have hacted := r.acted_kept (FmPort.kept_bus (P := FmPort.Sounds level raise start)
    (fun _ _ h => ⟨h.mixed, h.early, h.level, h.sound⟩) (fun _ h => h.flush hlevel)
    (fun _ register value h => h.put hlevel register value)) h
  obtain ⟨reached, cursor, fm, -, hfm, rfl⟩ := settle_eq_ok hn
  obtain ⟨position, rfl⟩ := reach_eq_ok hfm
  exact ⟨hacted.mixed, hacted.early, (hlevel.count _ _).trans hacted.level, hacted.sound⟩

theorem sounds_recording (hlevel : ConstantLevel level raise) {budget : Int} {r : Run κ χ}
    {last : Run κ (Recorded χ)} (hrendered : r.bus.device.fm.rendered = 0)
    (hlast : r.recording.spend budget = .ok last) :
    last.bus.device.fm.finish.Sounds level raise (level r.bus.device.fm.chip) := by
  have hstart : r.recording.bus.device.fm.Sounds level raise (level r.bus.device.fm.chip) := by
    constructor
    case mixed => exact hrendered.symm
    case early => exact fun write hwrite => absurd hwrite List.not_mem_nil
    case level => rfl
    case sound =>
      intro i hi
      rw [show r.recording.bus.device.fm.rendered = 0 from hrendered] at hi
      exact absurd hi (Nat.not_lt_zero i)
  have hend := spend_keep (P := fun r => r.bus.device.fm.Sounds level raise _)
    (fun _ _ h hn => sounds_next hlevel h hn) budget r.recording hstart last hlast
  have hrest : ({ last.bus.device.fm with position := last.bus.device.fm.frames } :
      FmPort (Recorded χ)).Sounds level raise (level r.bus.device.fm.chip) :=
    ⟨hend.mixed, hend.early, hend.level, hend.sound⟩
  exact hrest.flush hlevel

end Run

/-! ## The block as a whole -/

namespace Card

variable {κ χ : Type} [Processor κ] [FmChip χ]

open Run (spentBefore)

/-- The writes that are forwarded by steps before which less than `limit` T-states were spent. -/
def forwardedBefore (steps : List (Run κ χ)) (limit : Nat) : List (UInt8 × UInt8) :=
  (steps.mapIdx fun k r => if spentBefore steps k < limit then r.forwarded else []).flatten

/-- What makes a block of `frames` frames accurate, `calls` being the calls that the chip received
and `output` the frames rendered. -/
structure SampleAccurate (c : Card κ χ) (frames : Nat) (calls : List ChipCall)
    (output : Array Frame) : Prop where
  /-- The writes of step `k` come after as many frames as the T-states before the step make. -/
  writes : ChipCall.framedWrites 0 calls =
    ((c.steps frames).mapIdx fun k r =>
      r.forwarded.map (spentBefore (c.steps frames) k / c.clock.cyclesPerSample, ·)).flatten
  within : ∀ k < (c.steps frames).length,
    spentBefore (c.steps frames) k / c.clock.cyclesPerSample < frames
  /-- Each frame is mixed once, in order. -/
  mixes : ChipCall.mixedFrames 0 calls = List.range frames
  size : output.size = frames
  /-- A chip with a constant level sounds with the level of the last write before the end of the
  frame. -/
  levels : ∀ level raise, ConstantLevel level raise → ∀ i < frames,
    output[i]? = some (raise
      (((forwardedBefore (c.steps frames) ((i + 1) * c.clock.cyclesPerSample)).getLast?.map
        Prod.snd).getD (level c.device.fm.chip)) .silence)

omit [Processor κ] [FmChip χ] in
theorem opening_of_lt (c : Card κ χ) (memory : Memory) {frames : Nat}
    (hframes : 2 * frames < word64)
    (hbudget : (c.clock.cyclesPerSample * frames : Int) < signedWord64) :
    c.opening memory frames =
      .ok (c.clock.cyclesPerSample * frames, c.starting memory frames) := by
  have hsize : frames * 2 < word64 := by omega
  have hgranted := SampleClock.budget_eq hframes hbudget
  unfold opening
  rw [hgranted, mulBelow_of_lt hsize]
  rfl

theorem steps_of_opening {c : Card κ χ} {memory : Memory} (hm : c.memory = some memory)
    {frames : Nat} {budget : Int} {start : Run κ χ}
    (ho : c.opening memory frames = .ok (budget, start)) :
    c.steps frames = start.steps budget := by
  unfold steps
  simp only [hm, ho]

omit [Processor κ] [FmChip χ] in
theorem starting_onTime (c : Card κ χ) (memory : Memory) (frames : Nat) :
    (c.starting memory frames).OnTime c.clock.cyclesPerSample frames 0 := by
  constructor
  case cursor =>
    rw [FrameCursor.reached, Nat.zero_mod]
    rfl
  case frames => rfl
  case position => rw [Nat.zero_div, Nat.zero_min]; rfl
  case rendered => exact Nat.le_refl _

theorem filter_places (steps : List (Run κ χ)) (place : Nat → Nat) (i : Nat) :
    ((steps.mapIdx fun k r => r.forwarded.map (place k, ·)).flatten.filter (·.1 ≤ i)).map
        Prod.snd =
      (steps.mapIdx fun k r => if place k ≤ i then r.forwarded else []).flatten := by
  induction steps generalizing place with
  | nil => rfl
  | cons r steps ih =>
    have htail := ih fun k => place (k + 1)
    rw [List.mapIdx_cons, List.mapIdx_cons, List.flatten_cons, List.flatten_cons,
      List.filter_append, List.map_append, htail, List.filter_map]
    by_cases hplace : place 0 ≤ i
    · simp [hplace, Function.comp_def]
    · simp [hplace, Function.comp_def]

omit [Processor κ] in
theorem closing_recording {c : Card κ (Recorded χ)} {r : Run κ (Recorded χ)} {frames : Nat}
    (hframes : r.bus.device.fm.frames = frames)
    (hrendered : r.bus.device.fm.rendered ≤ frames)
    (hmixed : ChipCall.mixed r.bus.device.fm.chip.calls.toList = r.bus.device.fm.rendered) :
    ChipCall.framedWrites 0 (c.closing r).2.1.device.fm.chip.calls.toList =
        ChipCall.framedWrites 0 r.bus.device.fm.chip.calls.toList ∧
      ChipCall.mixed (c.closing r).2.1.device.fm.chip.calls.toList = frames ∧
      (c.closing r).1.size = frames := by
  let p : FmPort (Recorded χ) := { r.bus.device.fm with position := r.bus.device.fm.frames }
  have hcalls : (c.closing r).2.1.device.fm.chip.calls.toList = _ := p.flush_calls
  have hsize : (c.closing r).1.size = _ := p.flush_rendered
  have hposition : p.position = frames := hframes
  have hdone : p.rendered = r.bus.device.fm.rendered := rfl
  refine ⟨?_, ?_, ?_⟩
  · rw [hcalls, ChipCall.framedWrites_append]
    split <;> exact List.append_nil _
  · rw [hcalls, ChipCall.mixed_append, hmixed]
    split <;> simp only [ChipCall.mixed] <;> omega
  · omega

theorem lastLevel_places {steps : List (Run κ χ)} {q : Nat} (hq : steps = [] ∨ 0 < q) (i : Nat)
    (start : UInt8) :
    lastLevel start ((steps.mapIdx fun k r =>
      r.forwarded.map (spentBefore steps k / q, ·)).flatten.filter (·.1 ≤ i)) =
      ((forwardedBefore steps ((i + 1) * q)).getLast?.map Prod.snd).getD start := by
  rcases hq with rfl | hq
  · rfl
  have hplace (k : Nat) : spentBefore steps k / q ≤ i ↔ spentBefore steps k < (i + 1) * q := by
    rw [← Nat.lt_succ_iff, Nat.div_lt_iff_lt_mul hq]
  have hwrites := filter_places steps (fun k => spentBefore steps k / q) i
  simp only [hplace] at hwrites
  rw [forwardedBefore, ← hwrites, List.getLast?_map, Option.map_map]
  rfl

theorem render_sampleAccurate {c : Card κ χ} {memory : Memory} (hm : c.memory = some memory)
    (hle : c.clock.cyclesPerSample ≤ 737) {frames : Nat} (hframes : 2 * frames < word64)
    (hbudget : (c.clock.cyclesPerSample * frames : Int) < signedWord64)
    (hcosts : ∀ r ∈ c.steps frames, r.cost.toNat + 736 < word32) :
    ∃ output recorded effects,
      c.recording.render frames = .ok (output, recorded, effects) ∧
      c.SampleAccurate frames recorded.device.fm.chip.calls.toList output := by
  let start := c.starting memory frames
  have ho : c.opening memory frames = .ok (_, start) := c.opening_of_lt memory hframes hbudget
  have hsteps := steps_of_opening hm ho
  rw [hsteps] at hcosts
  have hrendered : start.bus.device.fm.rendered = 0 := rfl
  obtain ⟨⟨r, spent, hspend, hover, hend, hmixed⟩, hwrites, hwithin⟩ :=
    Run.OnTime.spend hle hframes _ start 0 (by simp) (c.starting_onTime memory frames) hcosts
  obtain ⟨last, hlast, rfl, hcalls⟩ := Run.spend_recording hspend
  rw [hrendered, Nat.zero_add, ← hcalls] at hmixed
  rw [hrendered, ← hcalls] at hwrites
  simp only [Nat.zero_add] at hwrites hwithin
  have hopening : c.recording.opening memory frames =
      .ok (c.clock.cyclesPerSample * frames, start.recording) := by
    rw [recording, opening_map, ho]
    rfl
  have hlength : last.bus.device.fm.frames = frames := hend.frames
  have hreached : last.bus.device.fm.rendered ≤ frames :=
    Nat.le_trans hend.rendered (hend.position ▸ Nat.min_le_right _ _)
  obtain ⟨hwritten, hcovered, hsize⟩ := closing_recording (c := c.recording) hlength hreached hmixed
  have hrender : c.recording.render frames = .ok (c.recording.closing last) :=
    render_of_spend (c := c.recording) hm hopening hlast
  let closed := c.recording.closing last
  refine ⟨closed.1, closed.2.1, closed.2.2, hrender, ?_⟩
  constructor
  case writes => rw [hwritten, hwrites, hsteps]
  case within => rwa [hsteps]
  case mixes => rw [ChipCall.mixedFrames_eq, hcovered, List.range_eq_range']
  case size => exact hsize
  case levels =>
    intro level raise hlevel i hi
    have hq : start.steps (c.clock.cyclesPerSample * frames) = [] ∨
        0 < c.clock.cyclesPerSample := by
      rcases Nat.eq_zero_or_pos c.clock.cyclesPerSample with hzero | hpos
      · left
        rw [hzero]
        exact Run.steps_of_not_pos (by simp) start
      · exact .inr hpos
    have hsounds := Run.sounds_recording hlevel hrendered hlast
    have hheard : last.bus.device.fm.finish.heard = _ := hwritten.trans hwrites
    have hi' : i < last.bus.device.fm.finish.rendered := Nat.lt_of_lt_of_eq hi hsize.symm
    have hchip : start.bus.device.fm.chip = c.device.fm.chip := rfl
    have hsound := hsounds.sound i hi'
    rw [hheard, hchip] at hsound
    rw [hsteps, ← lastLevel_places hq i, ← hsound]
    rfl

end Card

/-- Rendering is sample accurate, whatever the card has lived through before. The calls that its
chip receives are told by a recorder, which neither the card nor the chip notices. -/
theorem render_is_sample_accurate {κ χ : Type} [Processor κ] [FmChip χ] (config : Config)
    (firmware : ByteArray) (cpu : κ) (chip : χ) (life : List CardEvent) (c : Card κ χ)
    (hlive : (Card.assemble config (some firmware) cpu chip).live life = .ok c) (frames : Nat)
    (hframes : 2 * frames < word64)
    (hbudget : (c.clock.cyclesPerSample * frames : Int) < signedWord64)
    (hcosts : ∀ r ∈ c.steps frames, r.cost.toNat + 736 < word32) :
    ∃ output c' recorded effects,
      c.render frames = .ok (output, c', effects) ∧
      c.recording.render frames = .ok (output, recorded, effects) ∧
      recorded.map Recorded.chip = c' ∧
      c.SampleAccurate frames recorded.device.fm.chip.calls.toList output := by
  have halike := Card.Alike.live hlive
  have hle : c.clock.cyclesPerSample ≤ 737 := by
    rw [halike.cyclesPerSample]
    exact cyclesPerSample_le config.sampleRate
  obtain ⟨memory, hm⟩ : ∃ memory, c.memory = some memory := by
    have henabled : c.memory.isSome = true := halike.enabled
    exact Option.isSome_iff_exists.1 henabled
  obtain ⟨output, recorded, effects, hrender, haccurate⟩ :=
    Card.render_sampleAccurate hm hle hframes hbudget hcosts
  have hplain := Recorded.chip_hom.render c.recording frames
  rw [hrender] at hplain
  exact ⟨output, _, recorded, effects, hplain, hrender, rfl, haccurate⟩

/-- Two steps of 1000 T-states in two frames of 737: the write of the second comes after one frame
and is heard from the second frame on. -/
theorem render_is_sample_accurate_scripted :
    let cpu : ScriptedCpu :=
      { costs := #[1000], script := [(0, .output 0x00 0x20), (1, .output 0x01 0x7F)] }
    let c : Card ScriptedCpu LevelChip :=
      Card.assemble { sampleRate := 8000 } (some .empty) cpu {}
    (2 * 2 < word64 ∧ (c.clock.cyclesPerSample * (2 : Nat) : Int) < signedWord64 ∧
      ∀ r ∈ c.steps 2, r.cost.toNat + 736 < word32) ∧
    ∃ output c' recorded effects,
      c.render 2 = .ok (output, c', effects) ∧
      c.recording.render 2 = .ok (output, recorded, effects) ∧
      recorded.map Recorded.chip = c' ∧
      c.SampleAccurate 2 recorded.device.fm.chip.calls.toList output ∧
      recorded.device.fm.chip.calls.toList = [.mix 1, .write 0x20 0x7F, .mix 1] ∧
      output = #[⟨0, 0⟩, ⟨127, -127⟩] ∧ c'.device.fm.chip.level = 0x7F := by
  intro cpu c
  have hcycles : c.clock.cyclesPerSample = 737 := by decide +kernel
  have hbudget : (c.clock.cyclesPerSample * (2 : Nat) : Int) < signedWord64 := by
    rw [hcycles]
    decide
  have hcosts : ∀ r ∈ c.steps 2, r.cost.toNat + 736 < word32 := by
    intro r hr
    have hturn (n : Nat) : (ScriptedCpu.turn #[1000] n).toNat < 1001 := by
      simp [ScriptedCpu.turn, Nat.mod_one]
    have hanswer (n : Nat) : (ScriptedCpu.turn #[0] n).toNat < 1001 := by
      simp [ScriptedCpu.turn, Nat.mod_one]
    have := Card.cost_scripted (c := c) (by decide) hturn hanswer 2 r hr
    simp only [word32]
    omega
  obtain ⟨output, c', recorded, effects, hplain, hrender, hmap, haccurate⟩ :=
    render_is_sample_accurate _ _ cpu {} [] c rfl 2 (by decide) hbudget hcosts
  have hcalls : (c.recording.render 2).toOption.map (·.2.1.device.fm.chip.calls.toList) =
      some [.mix 1, .write 0x20 0x7F, .mix 1] := by decide +kernel
  have hlevel : (c.render 2).toOption.map (·.2.1.device.fm.chip.level) = some 0x7F := by
    decide +kernel
  rw [hrender] at hcalls
  rw [hplain] at hlevel
  -- No write comes before the end of the first frame, one before the end of the second.
  have hsilent : Card.forwardedBefore (c.steps 2) ((0 + 1) * 737) = [] := by decide +kernel
  have hraised : Card.forwardedBefore (c.steps 2) ((1 + 1) * 737) = [(0x20, 0x7F)] := by
    decide +kernel
  have hfirst : output[0]? = some ⟨0, 0⟩ := by
    rw [haccurate.levels _ _ LevelChip.constantLevel 0 (by decide), hcycles, hsilent]
    decide +kernel
  have hsecond : output[1]? = some ⟨127, -127⟩ := by
    rw [haccurate.levels _ _ LevelChip.constantLevel 1 (by decide), hcycles, hraised]
    rfl
  have houtput : output = #[⟨0, 0⟩, ⟨127, -127⟩] := by
    refine Array.ext_getElem? fun i => ?_
    rcases i with _ | _ | i
    · exact hfirst
    · exact hsecond
    · have hsize := haccurate.size
      rw [Array.getElem?_eq_none (by omega)]
      rfl
  exact ⟨⟨by decide, hbudget, hcosts⟩, output, c', recorded, effects, hplain, hrender, hmap,
    haccurate, Option.some.inj hcalls, houtput, Option.some.inj hlevel⟩

end FeatureCard
