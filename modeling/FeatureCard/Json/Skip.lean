import FeatureCard.Json.Token

/-!
# Passing over a value

A value that nobody asked for is passed over, whatever it holds and however deep it is nested. The
brackets that are still open are kept in a list, innermost first. Only the grammar is checked:
neither the size of numerals nor the pairing of surrogates.
-/

namespace FeatureCard.Json

/-- Passes over the key of a member, its first quote already seen, and over the colon. -/
def skipKey (cs : List Char) : Skip :=
  match skipString cs with
  | .error e => .error e
  | .ok rest =>
    match dropBlanks rest with
    | [] => .error .unfinished
    | c :: rest => if c = ':' then .ok rest else .error .malformed

/-- Passes over what comes before a value inside a bracket: nothing in an array, a key in an
object. `cs` does not begin with a blank. -/
def skipToValue (b : Bracket) (cs : List Char) : Skip :=
  match b, cs with
  | .array, cs => .ok cs
  | .object, [] => .error .unfinished
  | .object, c :: cs => if c = '"' then skipKey cs else .error .malformed

inductive Next where
  | closed
  | value
  deriving DecidableEq, Repr

def skipOpening (b : Bracket) (cs : List Char) : Read Next :=
  match dropBlanks cs with
  | [] => .error .unfinished
  | c :: rest =>
    if c = b.closing then .ok (.closed, rest)
    else
      match skipToValue b (c :: rest) with
      | .error e => .error e
      | .ok rest => .ok (.value, rest)

def skipBetween (b : Bracket) (cs : List Char) : Read Next :=
  match dropBlanks cs with
  | [] => .error .unfinished
  | c :: rest =>
    if c = ',' then
      match skipToValue b (dropBlanks rest) with
      | .error e => .error e
      | .ok rest => .ok (.value, rest)
    else if c = b.closing then .ok (.closed, rest)
    else .error .malformed

/-! ## Nothing is read twice -/

theorem skipKey_length {cs rest : List Char} (h : skipKey cs = .ok rest) :
    rest.length < cs.length := by
  unfold skipKey at h
  split at h
  · simp at h
  · rename_i r hs
    have h1 := skipString_length hs
    have h2 := dropBlanks_length r
    split at h
    · simp at h
    · rename_i hd
      rw [hd] at h2
      split at h
      · simp only [Except.ok.injEq] at h
        simp only [← h]
        simp only [List.length_cons] at h2
        omega
      · simp at h

theorem skipToValue_length {b : Bracket} {cs rest : List Char} (h : skipToValue b cs = .ok rest) :
    rest.length ≤ cs.length := by
  unfold skipToValue at h
  split at h
  · simp only [Except.ok.injEq] at h
    simp [← h]
  · simp at h
  · split at h
    · have := skipKey_length h
      simp only [List.length_cons]
      omega
    · simp at h

theorem skipOpening_length {b : Bracket} {cs rest : List Char} {n : Next}
    (h : skipOpening b cs = .ok (n, rest)) : rest.length ≤ cs.length := by
  unfold skipOpening at h
  have hb := dropBlanks_length cs
  split at h
  · simp at h
  · rename_i hd
    rw [hd] at hb
    split at h
    · simp only [Except.ok.injEq, Prod.mk.injEq] at h
      simp only [← h.2]
      simp only [List.length_cons] at hb
      omega
    · split at h
      · simp at h
      · rename_i hv
        have := skipToValue_length hv
        simp only [Except.ok.injEq, Prod.mk.injEq] at h
        simp only [← h.2]
        omega

theorem skipBetween_length {b : Bracket} {cs rest : List Char} {n : Next}
    (h : skipBetween b cs = .ok (n, rest)) : rest.length < cs.length := by
  unfold skipBetween at h
  have hb := dropBlanks_length cs
  split at h
  · simp at h
  · rename_i c r hd
    rw [hd] at hb
    simp only [List.length_cons] at hb
    split at h
    · split at h
      · simp at h
      · rename_i hv
        have h1 := skipToValue_length hv
        have h2 := dropBlanks_length r
        simp only [Except.ok.injEq, Prod.mk.injEq] at h
        simp only [← h.2]
        omega
    · split at h
      · simp only [Except.ok.injEq, Prod.mk.injEq] at h
        simp only [← h.2]
        omega
      · simp at h

/-! ## Values -/

/-- Passes over the rest of a value. Inside the brackets `outer` either a value comes next or one
has just ended. -/
def skipInside (next : Next) (outer : List Bracket) (cs : List Char) : Skip :=
  match next with
  | .value =>
    match _h : skipToken cs with
    | .error e => .error e
    | .ok (none, rest) => skipInside .closed outer rest
    | .ok (some b, rest) =>
      match _ho : skipOpening b rest with
      | .error e => .error e
      | .ok (.closed, rest) => skipInside .closed outer rest
      | .ok (.value, rest) => skipInside .value (b :: outer) rest
  | .closed =>
    match outer with
    | [] => .ok cs
    | b :: outer =>
      match _h : skipBetween b cs with
      | .error e => .error e
      | .ok (.closed, rest) => skipInside .closed outer rest
      | .ok (.value, rest) => skipInside .value (b :: outer) rest
termination_by cs.length
decreasing_by
  · exact skipToken_length _h
  · exact Nat.lt_of_le_of_lt (skipOpening_length _ho) (skipToken_length _h)
  · exact Nat.lt_of_le_of_lt (skipOpening_length _ho) (skipToken_length _h)
  · exact skipBetween_length _h
  · exact skipBetween_length _h

def skipValue (cs : List Char) : Skip := skipInside .value [] cs

theorem skipInside_length {next : Next} {outer : List Bracket} {cs rest : List Char}
    (h : skipInside next outer cs = .ok rest) : rest.length ≤ cs.length := by
  fun_induction skipInside next outer cs with
  | case1 => simp at h
  | case2 outer cs r ht ih =>
    have := skipToken_length ht
    have := ih h
    omega
  | case3 => simp at h
  | case4 outer cs b r ht r' ho ih =>
    have := skipToken_length ht
    have := skipOpening_length ho
    have := ih h
    omega
  | case5 outer cs b r ht r' ho ih =>
    have := skipToken_length ht
    have := skipOpening_length ho
    have := ih h
    omega
  | case6 cs =>
    simp only [Except.ok.injEq] at h
    simp [← h]
  | case7 => simp at h
  | case8 cs b outer r hb ih =>
    have := skipBetween_length hb
    have := ih h
    omega
  | case9 cs b outer r hb ih =>
    have := skipBetween_length hb
    have := ih h
    omega

theorem skipValue_length {cs rest : List Char} (h : skipValue cs = .ok rest) :
    rest.length ≤ cs.length :=
  skipInside_length h

end FeatureCard.Json
