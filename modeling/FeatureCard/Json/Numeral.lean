import FeatureCard.Json.Fault
import FeatureCard.Text.Digits

/-!
# Numerals

A sign, digits without a leading zero, and perhaps a fraction and an exponent. A setting takes a
numeral only if it has neither sign nor fraction nor exponent. Any other numeral is well formed as
long as a double can hold its size.
-/

namespace FeatureCard.Json

open Text (digitValue natOfDigits spanDigits)

structure Numeral where
  negative : Bool
  whole : List Char
  fraction : List Char := []
  exponent : Option (Bool × List Char) := none
  deriving DecidableEq, Repr

namespace Numeral

/-! ## Reading -/

def someDigits (cs : List Char) : Read (List Char) :=
  match cs with
  | [] => .error .unfinished
  | c :: _ => if c.isDigit then .ok (spanDigits cs) else .error .malformed

/-- The digits before the point: one zero, or digits that do not begin with a zero. -/
def wholePart (cs : List Char) : Read (List Char) :=
  match cs with
  | '0' :: c :: cs => if c.isDigit then .error .malformed else .ok (['0'], c :: cs)
  | cs => someDigits cs

def fractionPart (cs : List Char) : Read (List Char) :=
  match cs with
  | '.' :: cs => someDigits cs
  | cs => .ok ([], cs)

def exponentSign (cs : List Char) : Bool × List Char :=
  match cs with
  | '+' :: cs => (false, cs)
  | '-' :: cs => (true, cs)
  | cs => (false, cs)

def exponentPart (cs : List Char) : Read (Option (Bool × List Char)) :=
  match cs with
  | [] => .ok (none, [])
  | c :: cs =>
    if c = 'e' ∨ c = 'E' then
      match someDigits (exponentSign cs).2 with
      | .error e => .error e
      | .ok (ds, rest) => .ok (some ((exponentSign cs).1, ds), rest)
    else .ok (none, c :: cs)

def unsigned (negative : Bool) (cs : List Char) : Read Numeral :=
  match wholePart cs with
  | .error e => .error e
  | .ok (whole, cs) =>
    match fractionPart cs with
    | .error e => .error e
    | .ok (fraction, cs) =>
      match exponentPart cs with
      | .error e => .error e
      | .ok (exponent, cs) => .ok ({ negative, whole, fraction, exponent }, cs)

def read (cs : List Char) : Read Numeral :=
  match cs with
  | '-' :: cs => unsigned true cs
  | cs => unsigned false cs

/-! ## Size -/

/-- Takes up digits as long as the number stays below 2^64. The answer is the number and how many
digits were left over. -/
def accumulate (n : Nat) : List Char → Nat × Nat
  | [] => (n, 0)
  | c :: cs =>
    if n * 10 + digitValue c < word64 then accumulate (n * 10 + digitValue c) cs
    else (n, cs.length + 1)

/-- The size in the form `s · 10 ^ e`, with as many leading digits in `s` as a 64-bit word holds. -/
def parts (n : Numeral) : Nat × Int :=
  let (s, left) := accumulate 0 n.whole
  let (s, ignored) := accumulate s n.fraction
  let e : Int := left - (n.fraction.length - ignored)
  match n.exponent with
  | none => (s, e)
  | some (true, ds) => (s, e - natOfDigits ds)
  | some (false, ds) => (s, e + natOfDigits ds)

def largestPower : Nat := 308

/-- No double is as large. -/
def tooLarge (n : Numeral) : Bool :=
  let (s, e) := n.parts
  decide (s ≠ 0 ∧ 0 ≤ e) &&
    (decide ((largestPower : Int) < e) ||
      (s.toUInt64.toFloat * Float.ofScientific 1 false e.toNat).isInf)

def natural? (n : Numeral) : Option Nat :=
  if n.negative = false ∧ n.fraction = [] ∧ n.exponent = none then some (natOfDigits n.whole) else none

/-! ## Reading takes characters -/

theorem someDigits_length {cs ds rest : List Char} (h : someDigits cs = .ok (ds, rest)) :
    rest.length < cs.length := by
  unfold someDigits at h
  split at h
  · simp at h
  · rename_i c cs
    split at h
    · rename_i hc
      simp only [Except.ok.injEq, spanDigits, Prod.mk.injEq] at h
      rw [← h.2, List.dropWhile_cons_of_pos hc, List.length_cons]
      exact Nat.lt_succ_of_le (List.dropWhile_sublist _).length_le
    · simp at h

theorem wholePart_length {cs ds rest : List Char} (h : wholePart cs = .ok (ds, rest)) :
    rest.length < cs.length := by
  unfold wholePart at h
  split at h
  · split at h
    · simp at h
    · simp only [Except.ok.injEq, Prod.mk.injEq] at h
      simp [← h.2]
  · exact someDigits_length h

theorem fractionPart_length {cs ds rest : List Char} (h : fractionPart cs = .ok (ds, rest)) :
    rest.length ≤ cs.length := by
  unfold fractionPart at h
  split at h
  · have := someDigits_length h
    simp only [List.length_cons]
    omega
  · simp only [Except.ok.injEq, Prod.mk.injEq] at h
    simp [← h.2]

theorem exponentSign_length (cs : List Char) : (exponentSign cs).2.length ≤ cs.length := by
  unfold exponentSign
  split <;> simp

theorem exponentPart_length {cs rest : List Char} {e : Option (Bool × List Char)}
    (h : exponentPart cs = .ok (e, rest)) : rest.length ≤ cs.length := by
  unfold exponentPart at h
  split at h
  · simp only [Except.ok.injEq, Prod.mk.injEq] at h
    simp [← h.2]
  · rename_i c cs
    split at h
    · split at h
      · simp at h
      · rename_i hd
        have h1 := someDigits_length hd
        have h2 := exponentSign_length cs
        simp only [Except.ok.injEq, Prod.mk.injEq] at h
        simp only [List.length_cons, ← h.2]
        omega
    · simp only [Except.ok.injEq, Prod.mk.injEq] at h
      simp [← h.2]

theorem unsigned_length {negative : Bool} {cs rest : List Char} {n : Numeral}
    (h : unsigned negative cs = .ok (n, rest)) : rest.length < cs.length := by
  unfold unsigned at h
  split at h
  · simp at h
  · rename_i hw
    split at h
    · simp at h
    · rename_i hf
      split at h
      · simp at h
      · rename_i he
        have h1 := wholePart_length hw
        have h2 := fractionPart_length hf
        have h3 := exponentPart_length he
        simp only [Except.ok.injEq, Prod.mk.injEq] at h
        simp only [← h.2]
        omega

theorem read_length {cs rest : List Char} {n : Numeral} (h : read cs = .ok (n, rest)) :
    rest.length < cs.length := by
  unfold read at h
  split at h
  · have := unsigned_length h
    simp only [List.length_cons]
    omega
  · exact unsigned_length h

end Numeral

end FeatureCard.Json
