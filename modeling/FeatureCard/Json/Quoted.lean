import FeatureCard.Json.Fault

/-!
# Quoted strings

Writing escapes the quote, the backslash and the control characters below a blank, and nothing
else. Reading takes every escape of the grammar; characters outside the first plane may be written
as two escapes, a surrogate pair. A surrogate on its own is refused. Passing over a string checks
less: it does not pair surrogates.
-/

namespace FeatureCard.Json

/-! ## Writing -/

def hexDigit (n : Nat) : Char :=
  if n < 10 then Char.ofNat (n + 48) else Char.ofNat (n + 87)

def escape (c : Char) : List Char :=
  if c = '"' then ['\\', '"']
  else if c = '\\' then ['\\', '\\']
  else if c = '\x08' then ['\\', 'b']
  else if c = '\x0c' then ['\\', 'f']
  else if c = '\n' then ['\\', 'n']
  else if c = '\x0d' then ['\\', 'r']
  else if c = '\t' then ['\\', 't']
  else if c.toNat < 0x20 then
    ['\\', 'u', '0', '0', hexDigit (c.toNat / 16), hexDigit (c.toNat % 16)]
  else [c]

def quote (text : List Char) : List Char := '"' :: text.flatMap escape ++ ['"']

/-! ## Escapes -/

def hexValue? (c : Char) : Option Nat :=
  if '0' ≤ c ∧ c ≤ '9' then some (c.toNat - 48)
  else if 'a' ≤ c ∧ c ≤ 'f' then some (c.toNat - 87)
  else if 'A' ≤ c ∧ c ≤ 'F' then some (c.toNat - 55)
  else none

def byteCount (cs : List Char) : Nat := cs.foldl (fun n c => n + c.utf8Size) 0

/-- Four hexadecimal digits. Fewer than four bytes are an early end. -/
def hexWord (cs : List Char) : Read Nat :=
  if byteCount (cs.take 4) < 4 then .error .unfinished
  else
    match cs with
    | a :: b :: c :: d :: rest =>
      match hexValue? a, hexValue? b, hexValue? c, hexValue? d with
      | some a, some b, some c, some d => .ok (((a * 16 + b) * 16 + c) * 16 + d, rest)
      | _, _, _, _ => .error .malformed
    | _ => .error .malformed

def isLeading (n : Nat) : Bool := 0xD800 ≤ n && n ≤ 0xDBFF

def isTrailing (n : Nat) : Bool := 0xDC00 ≤ n && n ≤ 0xDFFF

/-- The rest of an escape that began with a leading surrogate: the trailing one. -/
def trailing (leading : Nat) : List Char → Read Char
  | [] => .error .unfinished
  | '\\' :: [] => .error .unfinished
  | '\\' :: 'u' :: cs =>
    match hexWord cs with
    | .error e => .error e
    | .ok (n, rest) =>
      if isTrailing n then
        .ok (Char.ofNat (0x10000 + (leading - 0xD800) * 0x400 + (n - 0xDC00)), rest)
      else .error .malformed
  | _ => .error .malformed

def unicode (cs : List Char) : Read Char :=
  match hexWord cs with
  | .error e => .error e
  | .ok (n, rest) =>
    if isTrailing n then .error .malformed
    else if isLeading n then trailing n rest
    else .ok (Char.ofNat n, rest)

def escaped? : Char → Option Char
  | '"' => some '"'
  | '\\' => some '\\'
  | '/' => some '/'
  | 'b' => some '\x08'
  | 'f' => some '\x0c'
  | 'n' => some '\n'
  | 'r' => some '\x0d'
  | 't' => some '\t'
  | _ => none

def readEscape : List Char → Read Char
  | [] => .error .unfinished
  | c :: cs =>
    if c = 'u' then unicode cs
    else
      match escaped? c with
      | some v => .ok (v, cs)
      | none => .error .malformed

def skipEscape : List Char → Skip
  | [] => .error .unfinished
  | c :: cs =>
    if c = 'u' then (hexWord cs).map (·.2)
    else if (escaped? c).isSome then .ok cs
    else .error .malformed

/-! ## Every escape takes characters -/

theorem hexWord_length {cs rest : List Char} {n : Nat} (h : hexWord cs = .ok (n, rest)) :
    rest.length < cs.length := by
  unfold hexWord at h
  split at h
  · simp at h
  · split at h
    · split at h
      · simp only [Except.ok.injEq, Prod.mk.injEq] at h
        simp [← h.2]
        omega
      · simp at h
    · simp at h

theorem trailing_length {leading : Nat} {cs rest : List Char} {c : Char}
    (h : trailing leading cs = .ok (c, rest)) : rest.length < cs.length := by
  unfold trailing at h
  split at h
  · simp at h
  · simp at h
  · split at h
    · simp at h
    · rename_i hw
      have := hexWord_length hw
      split at h
      · simp only [Except.ok.injEq, Prod.mk.injEq] at h
        simp only [List.length_cons, ← h.2]
        omega
      · simp at h
  · simp at h

theorem unicode_length {cs rest : List Char} {c : Char} (h : unicode cs = .ok (c, rest)) :
    rest.length < cs.length := by
  unfold unicode at h
  split at h
  · simp at h
  · rename_i hw
    have := hexWord_length hw
    split at h
    · simp at h
    · split at h
      · have := trailing_length h
        omega
      · simp only [Except.ok.injEq, Prod.mk.injEq] at h
        simp only [← h.2]
        omega

theorem readEscape_length {cs rest : List Char} {c : Char} (h : readEscape cs = .ok (c, rest)) :
    rest.length < cs.length := by
  unfold readEscape at h
  split at h
  · simp at h
  · split at h
    · have := unicode_length h
      simp
      omega
    · split at h
      · simp only [Except.ok.injEq, Prod.mk.injEq] at h
        simp [← h.2]
      · simp at h

theorem skipEscape_length {cs rest : List Char} (h : skipEscape cs = .ok rest) :
    rest.length < cs.length := by
  unfold skipEscape at h
  split at h
  · simp at h
  · rename_i c cs
    split at h
    · match hw : hexWord cs with
      | .error _ => simp [hw, Except.map] at h
      | .ok (n, r) =>
        have := hexWord_length hw
        simp only [hw, Except.map, Except.ok.injEq] at h
        simp [← h]
        omega
    · split at h
      · simp only [Except.ok.injEq] at h
        simp [← h]
      · simp at h

/-! ## Strings -/

/-- The rest of a string after its first quote. Control characters are refused. -/
def readString (cs : List Char) : Read (List Char) :=
  match cs with
  | [] => .error .unfinished
  | c :: cs =>
    if c = '"' then .ok ([], cs)
    else if c = '\\' then
      match _h : readEscape cs with
      | .error e => .error e
      | .ok (v, rest) =>
        match readString rest with
        | .error e => .error e
        | .ok (text, rest) => .ok (v :: text, rest)
    else if c.toNat < 0x20 then .error .malformed
    else
      match readString cs with
      | .error e => .error e
      | .ok (text, rest) => .ok (c :: text, rest)
termination_by cs.length
decreasing_by
  · have := readEscape_length _h
    simp
    omega
  · simp

def skipString (cs : List Char) : Skip :=
  match cs with
  | [] => .error .unfinished
  | c :: cs =>
    if c = '"' then .ok cs
    else if c = '\\' then
      match _h : skipEscape cs with
      | .error e => .error e
      | .ok rest => skipString rest
    else if c.toNat < 0x20 then .error .malformed
    else skipString cs
termination_by cs.length
decreasing_by
  · have := skipEscape_length _h
    simp
    omega
  · simp

theorem readString_length {cs text rest : List Char} (h : readString cs = .ok (text, rest)) :
    rest.length < cs.length := by
  fun_induction readString cs generalizing text rest with
  | case1 => simp at h
  | case2 cs =>
    simp only [Except.ok.injEq, Prod.mk.injEq] at h
    simp [← h.2]
  | case3 => simp at h
  | case4 => simp at h
  | case5 cs v r he text' rest' hr hne ih =>
    simp only [Except.ok.injEq, Prod.mk.injEq] at h
    have h1 := readEscape_length he
    have h2 := ih hr
    simp only [List.length_cons, ← h.2]
    omega
  | case6 => simp at h
  | case7 => simp at h
  | case8 c cs hq hb hc text' rest' hr ih =>
    simp only [Except.ok.injEq, Prod.mk.injEq] at h
    have := ih hr
    simp only [List.length_cons, ← h.2]
    omega

theorem skipString_length {cs rest : List Char} (h : skipString cs = .ok rest) :
    rest.length < cs.length := by
  fun_induction skipString cs generalizing rest with
  | case1 => simp at h
  | case2 cs =>
    simp only [Except.ok.injEq] at h
    simp [← h]
  | case3 => simp at h
  | case4 cs r he hne ih =>
    have h1 := skipEscape_length he
    have h2 := ih h
    simp only [List.length_cons]
    omega
  | case5 => simp at h
  | case6 c cs hq hb hc ih =>
    have := ih h
    simp only [List.length_cons]
    omega

end FeatureCard.Json
