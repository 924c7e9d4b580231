import FeatureCard.Json.Numeral
import FeatureCard.Json.Quoted

/-!
# Tokens

The smallest pieces of a document that stand for a value or begin one. Blanks before a token do
not count.
-/

namespace FeatureCard.Json

/-! ## Blanks -/

def isBlank (c : Char) : Bool := c = ' ' || c = '\n' || c = '\t' || c = '\x0d'

def dropBlanks (cs : List Char) : List Char := cs.dropWhile isBlank

theorem dropBlanks_length (cs : List Char) : (dropBlanks cs).length ≤ cs.length :=
  (List.dropWhile_sublist _).length_le

/-! ## Words -/

def skipWord : (word : List Char) → List Char → Skip
  | [], cs => .ok cs
  | _ :: _, [] => .error .unfinished
  | w :: word, c :: cs => if c = w then skipWord word cs else .error .malformed

theorem skipWord_length {word cs rest : List Char} (h : skipWord word cs = .ok rest) :
    rest.length ≤ cs.length := by
  fun_induction skipWord word cs with
  | case1 cs =>
    simp only [Except.ok.injEq] at h
    simp [← h]
  | case2 => simp at h
  | case3 w word cs ih =>
    have := ih h
    simp only [List.length_cons]
    omega
  | case4 => simp at h

/-! ## Tokens -/

inductive Bracket where
  | array
  | object
  deriving DecidableEq, Repr

def Bracket.closing : Bracket → Char
  | array => ']'
  | object => '\x7d'

inductive Token where
  | null
  | bool (b : Bool)
  | number (n : Numeral)
  | text (t : List Char)
  | opening (b : Bracket)
  deriving DecidableEq, Repr

/-- The words of the grammar: the character that each begins with, the rest of it, and its token. -/
def wordFor? : Char → Option (List Char × Token)
  | 'n' => some (['u', 'l', 'l'], .null)
  | 't' => some (['r', 'u', 'e'], .bool true)
  | 'f' => some (['a', 'l', 's', 'e'], .bool false)
  | _ => none

def bracketFor? : Char → Option Bracket
  | '[' => some .array
  | '\x7b' => some .object
  | _ => none

def beginsNumeral (c : Char) : Bool := c = '-' || c.isDigit

def readTokenAt (c : Char) (cs : List Char) : Read Token :=
  match wordFor? c with
  | some (word, token) =>
    match skipWord word cs with
    | .error e => .error e
    | .ok rest => .ok (token, rest)
  | none =>
    match bracketFor? c with
    | some b => .ok (.opening b, cs)
    | none =>
      if c = '"' then
        match readString cs with
        | .error e => .error e
        | .ok (t, rest) => .ok (.text t, rest)
      else if beginsNumeral c then
        match Numeral.read (c :: cs) with
        | .error e => .error e
        | .ok (n, rest) => if n.tooLarge then .error .malformed else .ok (.number n, rest)
      else .error .malformed

def readToken (cs : List Char) : Read Token :=
  match dropBlanks cs with
  | [] => .error .unfinished
  | c :: cs => readTokenAt c cs

/-! ## Passing over a token -/

/-- The grammar of a numeral again, where an early end is like any other fault. -/
def skipNumeral (cs : List Char) : Skip :=
  match Numeral.read cs with
  | .error _ => .error .malformed
  | .ok (_, rest) => .ok rest

/-- Passes over the token that begins with `c`. The answer tells a bracket from other tokens. -/
def skipTokenAt (c : Char) (cs : List Char) : Read (Option Bracket) :=
  match wordFor? c with
  | some (word, _) =>
    match skipWord word cs with
    | .error e => .error e
    | .ok rest => .ok (none, rest)
  | none =>
    match bracketFor? c with
    | some b => .ok (some b, cs)
    | none =>
      if c = '"' then
        match skipString cs with
        | .error e => .error e
        | .ok rest => .ok (none, rest)
      else if beginsNumeral c then
        match skipNumeral (c :: cs) with
        | .error e => .error e
        | .ok rest => .ok (none, rest)
      else .error .malformed

def skipToken (cs : List Char) : Read (Option Bracket) :=
  match dropBlanks cs with
  | [] => .error .unfinished
  | c :: cs => skipTokenAt c cs

/-! ## Every token takes characters -/

theorem readTokenAt_length {c : Char} {cs rest : List Char} {t : Token}
    (h : readTokenAt c cs = .ok (t, rest)) : rest.length < (c :: cs).length := by
  unfold readTokenAt at h
  split at h
  · split at h
    · simp at h
    · rename_i hw
      have := skipWord_length hw
      simp only [Except.ok.injEq, Prod.mk.injEq] at h
      simp only [List.length_cons, ← h.2]
      omega
  · split at h
    · simp only [Except.ok.injEq, Prod.mk.injEq] at h
      simp [← h.2]
    · split at h
      · split at h
        · simp at h
        · rename_i hs
          have := readString_length hs
          simp only [Except.ok.injEq, Prod.mk.injEq] at h
          simp only [List.length_cons, ← h.2]
          omega
      · split at h
        · split at h
          · simp at h
          · rename_i hn
            have := Numeral.read_length hn
            split at h
            · simp at h
            · simp only [Except.ok.injEq, Prod.mk.injEq] at h
              simp only [← h.2]
              exact this
        · simp at h

theorem readToken_length {cs rest : List Char} {t : Token} (h : readToken cs = .ok (t, rest)) :
    rest.length < cs.length := by
  unfold readToken at h
  have hb := dropBlanks_length cs
  split at h
  · simp at h
  · rename_i hd
    have := readTokenAt_length h
    rw [hd] at hb
    omega

theorem skipNumeral_length {cs rest : List Char} (h : skipNumeral cs = .ok rest) :
    rest.length < cs.length := by
  unfold skipNumeral at h
  split at h
  · simp at h
  · rename_i hn
    simp only [Except.ok.injEq] at h
    exact h ▸ Numeral.read_length hn

theorem skipTokenAt_length {c : Char} {cs rest : List Char} {b : Option Bracket}
    (h : skipTokenAt c cs = .ok (b, rest)) : rest.length < (c :: cs).length := by
  unfold skipTokenAt at h
  split at h
  · split at h
    · simp at h
    · rename_i hw
      have := skipWord_length hw
      simp only [Except.ok.injEq, Prod.mk.injEq] at h
      simp only [List.length_cons, ← h.2]
      omega
  · split at h
    · simp only [Except.ok.injEq, Prod.mk.injEq] at h
      simp [← h.2]
    · split at h
      · split at h
        · simp at h
        · rename_i hs
          have := skipString_length hs
          simp only [Except.ok.injEq, Prod.mk.injEq] at h
          simp only [List.length_cons, ← h.2]
          omega
      · split at h
        · split at h
          · simp at h
          · rename_i hn
            simp only [Except.ok.injEq, Prod.mk.injEq] at h
            exact h.2 ▸ skipNumeral_length hn
        · simp at h

theorem skipToken_length {cs rest : List Char} {b : Option Bracket}
    (h : skipToken cs = .ok (b, rest)) : rest.length < cs.length := by
  unfold skipToken at h
  have hb := dropBlanks_length cs
  split at h
  · simp at h
  · rename_i hd
    have := skipTokenAt_length h
    rw [hd] at hb
    omega

end FeatureCard.Json
