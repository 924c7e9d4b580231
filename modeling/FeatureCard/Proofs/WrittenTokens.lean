import FeatureCard.Config.Document
import FeatureCard.Proofs.WholeDouble

/-!
# Written tokens read back

A natural number below 2^53 written in decimal, and any text written with its escapes, are read as
what they were, whatever comes after the closing quote. After a numeral something has to come that
cannot be a part of it.
-/

namespace FeatureCard

/-! ## Digits -/

namespace Text

theorem natOfDigits_toDigits (n : Nat) : natOfDigits (Nat.toDigits 10 n) = n := by
  have hfold : natOfDigits (Nat.toDigits 10 n) = Nat.ofDigitChars 10 (Nat.toDigits 10 n) 0 := by
    unfold natOfDigits Nat.ofDigitChars
    simp only [Nat.mul_comm, digitValue]
    rfl
  rw [hfold]
  exact Nat.ofDigitChars_toDigits (by decide) (by decide)

theorem isDigit_toDigits (n : Nat) : ∀ c ∈ Nat.toDigits 10 n, c.isDigit = true :=
  fun _ => Nat.isDigit_of_mem_toDigits (by decide) (by decide)

theorem exists_toDigits (n : Nat) : ∃ d ds, Nat.toDigits 10 n = d :: ds ∧ d.isDigit = true := by
  obtain ⟨d, ds, hds⟩ := List.exists_cons_of_ne_nil (Nat.toDigits_ne_nil (b := 10) (n := n))
  exact ⟨d, ds, hds, isDigit_toDigits n d (hds ▸ List.mem_cons_self)⟩

theorem head_toDigits_append (n : Nat) (rest : List Char) :
    (Nat.toDigits 10 n ++ rest).head? = (Nat.toDigits 10 n).head? :=
  List.head?_append_of_ne_nil _ Nat.toDigits_ne_nil

theorem head_toDigits {n : Nat} (hpos : 0 < n) : (Nat.toDigits 10 n).head? ≠ some '0' := by
  induction n using Nat.strong_induction_on with
  | _ n ih =>
    rw [Nat.toDigits_eq_if (by decide)]
    split
    · rename_i hlt
      intro hzero
      have hvalue := congrArg Char.toNat (Option.some.inj hzero)
      rw [Nat.toNat_digitChar_of_lt_ten hlt] at hvalue
      change 48 + n = 48 at hvalue
      omega
    · rw [head_toDigits_append]
      exact ih (n / 10) (by omega) (by omega)

theorem spanDigits_of_all {ds rest : List Char} (hdigits : ∀ c ∈ ds, c.isDigit = true)
    (hrest : ∀ c ∈ rest.head?, c.isDigit = false) : spanDigits (ds ++ rest) = (ds, rest) := by
  unfold spanDigits
  rw [List.takeWhile_append_of_pos hdigits, List.dropWhile_append_of_pos hdigits]
  cases rest with
  | nil => simp
  | cons c rest =>
    have hc : c.isDigit = false := hrest c rfl
    simp [hc]

end Text

namespace Json

open Text

/-! ## Numerals -/

/-- What comes next cannot belong to a numeral. -/
def EndsNumeral (rest : List Char) : Prop :=
  ∀ c ∈ rest.head?, c.isDigit = false ∧ c ≠ '.' ∧ c ≠ 'e' ∧ c ≠ 'E'

/-- What comes next is no digit. -/
def EndsDigits (rest : List Char) : Prop := ∀ c ∈ rest.head?, c.isDigit = false

def Digits (cs : List Char) : Prop := cs ≠ [] ∧ ∀ c ∈ cs, c.isDigit = true

/-- A zero alone, or digits that do not begin with one. -/
def WholeText (cs : List Char) : Prop := cs = ['0'] ∨ (Digits cs ∧ cs.head? ≠ some '0')

theorem endsDigits_of_endsNumeral {rest : List Char} (h : EndsNumeral rest) : EndsDigits rest :=
  fun c hc => (h c hc).1

namespace Numeral

def ofNat (n : Nat) : Numeral := { negative := false, whole := Nat.toDigits 10 n }

theorem natural?_ofNat (n : Nat) : (ofNat n).natural? = some n := by
  unfold natural? ofNat
  rw [if_pos ⟨rfl, rfl, rfl⟩, natOfDigits_toDigits]

variable {rest : List Char}

theorem someDigits_append {ds : List Char} (h : Digits ds) (hrest : EndsDigits rest) :
    someDigits (ds ++ rest) = .ok (ds, rest) := by
  have hspan := spanDigits_of_all h.2 hrest
  obtain ⟨d, ds, rfl⟩ := List.exists_cons_of_ne_nil h.1
  have hd := h.2 d List.mem_cons_self
  unfold someDigits
  simp only [List.cons_append, hd, if_true] at hspan ⊢
  rw [hspan]

theorem wholePart_append {whole : List Char} (h : WholeText whole) (hrest : EndsDigits rest) :
    wholePart (whole ++ rest) = .ok (whole, rest) := by
  rcases h with rfl | ⟨hdigits, hzero⟩
  · cases rest with
    | nil => rfl
    | cons c rest =>
      change (if c.isDigit then _ else _) = _
      rw [if_neg (Bool.eq_false_iff.1 (hrest c rfl))]
  · have hsome := someDigits_append hdigits hrest
    obtain ⟨d, ds, rfl⟩ := List.exists_cons_of_ne_nil hdigits.1
    unfold wholePart
    split
    · rename_i htext
      exact absurd (congrArg some (List.cons.inj htext).1) hzero
    · exact hsome

theorem wholeText_toDigits (n : Nat) : WholeText (Nat.toDigits 10 n) := by
  rcases Nat.eq_zero_or_pos n with rfl | hpos
  · exact .inl rfl
  · exact .inr ⟨⟨Nat.toDigits_ne_nil, isDigit_toDigits n⟩, head_toDigits hpos⟩

theorem fractionPart_none (hrest : EndsNumeral rest) : fractionPart rest = .ok ([], rest) := by
  unfold fractionPart
  split
  · exact absurd rfl (hrest '.' rfl).2.1
  · rfl

theorem exponentPart_none (hrest : EndsNumeral rest) : exponentPart rest = .ok (none, rest) := by
  unfold exponentPart
  split
  · rfl
  · rename_i c cs
    obtain ⟨-, -, hlower, hupper⟩ := hrest c rfl
    rw [if_neg (not_or.2 ⟨hlower, hupper⟩)]

theorem unsigned_toDigits (n : Nat) (hrest : EndsNumeral rest) :
    unsigned false (Nat.toDigits 10 n ++ rest) = .ok (ofNat n, rest) := by
  unfold unsigned
  simp only [wholePart_append (wholeText_toDigits n) (endsDigits_of_endsNumeral hrest),
    fractionPart_none hrest, exponentPart_none hrest]
  rfl

theorem read_toDigits (n : Nat) (hrest : EndsNumeral rest) :
    read (Nat.toDigits 10 n ++ rest) = .ok (ofNat n, rest) := by
  unfold read
  split
  · rename_i htext
    have hmem : '-' ∈ Nat.toDigits 10 n := by
      refine List.mem_of_mem_head? ?_
      rw [← head_toDigits_append n rest, htext]
      rfl
    exact absurd (isDigit_toDigits n _ hmem) (by decide)
  · exact unsigned_toDigits n hrest

/-! ## Their size -/

theorem le_foldl_digits (n : Nat) (ds : List Char) :
    n ≤ ds.foldl (fun n c => n * 10 + digitValue c) n := by
  induction ds generalizing n with
  | nil => exact Nat.le_refl n
  | cons d ds ih =>
    have hstep := ih (n * 10 + digitValue d)
    rw [List.foldl_cons]
    omega

theorem accumulate_of_lt {n : Nat} {ds : List Char}
    (h : ds.foldl (fun n c => n * 10 + digitValue c) n < word64) :
    accumulate n ds = (ds.foldl (fun n c => n * 10 + digitValue c) n, 0) := by
  induction ds generalizing n with
  | nil => rfl
  | cons d ds ih =>
    rw [List.foldl_cons] at h ⊢
    have hfits : n * 10 + digitValue d < word64 := Nat.lt_of_le_of_lt (le_foldl_digits _ ds) h
    unfold accumulate
    rw [if_pos hfits]
    exact ih h

theorem parts_ofNat {n : Nat} (hn : n < word64) : (ofNat n).parts = (n, 0) := by
  have hvalue : (Nat.toDigits 10 n).foldl (fun n c => n * 10 + digitValue c) 0 = n :=
    natOfDigits_toDigits n
  have hwhole : accumulate 0 (Nat.toDigits 10 n) = (n, 0) := by
    rw [accumulate_of_lt (hvalue.symm ▸ hn), hvalue]
  unfold parts ofNat
  simp only [hwhole]
  rfl

end Numeral

theorem isInf_scaled {n : Nat} (hn : n < exactLimit) :
    (n.toUInt64.toFloat * Float.ofScientific 1 false 0).isInf = false := by
  have hword : n < word64 := Nat.lt_trans hn (by decide)
  have hdouble : n.toUInt64.toFloat = whole n := by
    have hsame : n.toUInt64.toNat = n := UInt64.toNat_ofNat_of_lt hword
    change whole n.toUInt64.toNat = whole n
    rw [hsame]
  have hone : Float.ofScientific 1 false 0 = whole (1 : Nat) := by decide +kernel
  rw [hdouble, hone]
  rcases Nat.eq_zero_or_pos n with rfl | hpos
  · decide +kernel
  · rw [whole_mul hpos Nat.one_pos (by omega), Nat.mul_one]
    exact isInf_whole hn

theorem Numeral.tooLarge_ofNat {n : Nat} (hn : n < exactLimit) : (ofNat n).tooLarge = false := by
  have hword : n < word64 := Nat.lt_trans hn (by decide)
  have hpower : ¬(largestPower : Int) < 0 := by decide
  unfold tooLarge
  simp only [parts_ofNat hword, hpower, decide_false, Bool.false_or]
  rw [Int.toNat_zero, isInf_scaled hn, Bool.and_false]

/-! ## Strings -/

theorem hexValue?_hexDigit : ∀ n < 16, hexValue? (hexDigit n) = some n := by decide

theorem byteCount_hexDigit : ∀ high < 16, ∀ low < 16,
    byteCount ['0', '0', hexDigit high, hexDigit low] = 4 := by decide

theorem unicode_control {n : Nat} (hn : n < 0x20) (rest : List Char) :
    unicode ('0' :: '0' :: hexDigit (n / 16) :: hexDigit (n % 16) :: rest) =
      .ok (Char.ofNat n, rest) := by
  have hhigh : n / 16 < 16 := by omega
  have hlow : n % 16 < 16 := by omega
  have hcount : ¬byteCount ['0', '0', hexDigit (n / 16), hexDigit (n % 16)] < 4 := by
    rw [byteCount_hexDigit _ hhigh _ hlow]
    decide
  have hzero : hexValue? '0' = some 0 := rfl
  have hword : hexWord ('0' :: '0' :: hexDigit (n / 16) :: hexDigit (n % 16) :: rest) =
      .ok (n, rest) := by
    unfold hexWord
    simp only [List.take_succ_cons, List.take_zero, if_neg hcount, hzero,
      hexValue?_hexDigit _ hhigh, hexValue?_hexDigit _ hlow]
    have hvalue : ((0 * 16 + 0) * 16 + n / 16) * 16 + n % 16 = n := by omega
    rw [hvalue]
  have htrailing : isTrailing n = false := by
    simp only [isTrailing, Bool.and_eq_false_iff, decide_eq_false_iff_not]
    omega
  have hleading : isLeading n = false := by
    simp only [isLeading, Bool.and_eq_false_iff, decide_eq_false_iff_not]
    omega
  unfold unicode
  simp only [hword, htrailing, hleading]
  rfl

/-- The result of reading a text with one character more in front. -/
def withChar (c : Char) (r : Read (List Char)) : Read (List Char) :=
  r.map fun (text, rest) => (c :: text, rest)

theorem readString_closed (rest : List Char) : readString ('"' :: rest) = .ok ([], rest) := by
  rw [readString, if_pos rfl]

theorem readString_escaped {v : Char} {cs rest : List Char} (h : readEscape cs = .ok (v, rest)) :
    readString ('\\' :: cs) = withChar v (readString rest) := by
  have hquote : '\\' ≠ '"' := by decide
  rw [readString, if_neg hquote, if_pos rfl]
  split
  · rename_i e he
    rw [h] at he
    cases he
  · rename_i v' rest' he
    rw [h] at he
    obtain ⟨rfl, rfl⟩ := Prod.mk.inj (Except.ok.inj he)
    unfold withChar
    cases readString rest <;> rfl

theorem readString_plain {c : Char} (hquote : c ≠ '"') (hbackslash : c ≠ '\\')
    (hcontrol : ¬c.toNat < 0x20) (cs : List Char) :
    readString (c :: cs) = withChar c (readString cs) := by
  rw [readString, if_neg hquote, if_neg hbackslash, if_neg hcontrol]
  unfold withChar
  cases readString cs <;> rfl

/-- The characters with an escape of two characters, and its second character. -/
def shortEscapes : List (Char × Char) :=
  [('"', '"'), ('\\', '\\'), ('\x08', 'b'), ('\x0c', 'f'), ('\n', 'n'), ('\x0d', 'r'), ('\t', 't')]

theorem escape_short :
    ∀ e ∈ shortEscapes, escape e.1 = ['\\', e.2] ∧ escaped? e.2 = some e.1 := by decide

theorem readEscape_letter {letter c : Char} (h : escaped? letter = some c) (cs : List Char) :
    readEscape (letter :: cs) = .ok (c, cs) := by
  have hu : letter ≠ 'u' := by
    rintro rfl
    exact absurd h nofun
  unfold readEscape
  simp only [if_neg hu, h]

theorem readString_escape (c : Char) (cs : List Char) :
    readString (escape c ++ cs) = withChar c (readString cs) := by
  by_cases hshort : c ∈ shortEscapes.map Prod.fst
  · obtain ⟨e, hmem, rfl⟩ := List.mem_map.1 hshort
    obtain ⟨hescape, hletter⟩ := escape_short e hmem
    rw [hescape]
    exact readString_escaped (readEscape_letter hletter cs)
  · simp only [shortEscapes, List.map_cons, List.map_nil, List.mem_cons, List.not_mem_nil, or_false,
      not_or] at hshort
    obtain ⟨hquote, hbackslash, hb, hf, hn, hr, ht⟩ := hshort
    unfold escape
    rw [if_neg hquote, if_neg hbackslash, if_neg hb, if_neg hf, if_neg hn, if_neg hr, if_neg ht]
    split
    · rename_i hcontrol
      have hunicode := unicode_control hcontrol cs
      rw [Char.ofNat_toNat] at hunicode
      exact readString_escaped hunicode
    · rename_i hcontrol
      exact readString_plain hquote hbackslash hcontrol cs

/-- Any text, control characters and quotes included, reads back up to the closing quote. -/
theorem readString_written (text rest : List Char) :
    readString (text.flatMap escape ++ '"' :: rest) = .ok (text, rest) := by
  induction text with
  | nil => exact readString_closed rest
  | cons c text ih =>
    rw [List.flatMap_cons, List.append_assoc, readString_escape, ih]
    rfl

theorem quote_append (text rest : List Char) :
    quote text ++ rest = '"' :: (text.flatMap escape ++ '"' :: rest) := by
  simp [quote]

/-! ## Tokens -/

theorem dropBlanks_cons_of_blank {c : Char} (h : isBlank c = true) (cs : List Char) :
    dropBlanks (c :: cs) = dropBlanks cs :=
  List.dropWhile_cons_of_pos h

theorem dropBlanks_cons {c : Char} (h : isBlank c = false) (cs : List Char) :
    dropBlanks (c :: cs) = c :: cs :=
  List.dropWhile_cons_of_neg (Bool.eq_false_iff.1 h)

theorem readToken_blank {c : Char} (h : isBlank c = true) (cs : List Char) :
    readToken (c :: cs) = readToken cs := by
  unfold readToken
  rw [dropBlanks_cons_of_blank h]

theorem readToken_null (rest : List Char) :
    readToken ('n' :: 'u' :: 'l' :: 'l' :: rest) = .ok (.null, rest) := by
  unfold readToken
  rw [dropBlanks_cons rfl]
  rfl

theorem readToken_quote (text rest : List Char) :
    readToken (quote text ++ rest) = .ok (.text text, rest) := by
  unfold readToken
  rw [quote_append, dropBlanks_cons rfl]
  change readTokenAt '"' _ = _
  simp only [readTokenAt, wordFor?, bracketFor?, readString_written]
  rfl

theorem isDigit_ne {c : Char} (h : c.isDigit = true) {c' : Char} (h' : c'.isDigit = false) :
    c ≠ c' := by
  rintro rfl
  exact absurd h (Bool.eq_false_iff.1 h')

theorem isDigit_begins {c : Char} (h : c.isDigit = true) :
    wordFor? c = none ∧ bracketFor? c = none ∧ c ≠ '"' ∧ beginsNumeral c = true ∧
      isBlank c = false := by
  refine ⟨?_, ?_, isDigit_ne h rfl, ?_, ?_⟩
  · unfold wordFor?
    split
    · exact absurd rfl (isDigit_ne h rfl)
    · exact absurd rfl (isDigit_ne h rfl)
    · exact absurd rfl (isDigit_ne h rfl)
    · rfl
  · unfold bracketFor?
    split
    · exact absurd rfl (isDigit_ne h rfl)
    · exact absurd rfl (isDigit_ne h rfl)
    · rfl
  · unfold beginsNumeral
    rw [h, Bool.or_true]
  · simp only [isBlank, Bool.or_eq_false_iff, decide_eq_false_iff_not]
    exact ⟨⟨⟨isDigit_ne h rfl, isDigit_ne h rfl⟩, isDigit_ne h rfl⟩, isDigit_ne h rfl⟩

theorem readTokenAt_digit {c : Char} (h : c.isDigit = true) {cs rest : List Char} {n : Numeral}
    (hread : Numeral.read (c :: cs) = .ok (n, rest)) (hsize : n.tooLarge = false) :
    readTokenAt c cs = .ok (.number n, rest) := by
  obtain ⟨hword, hbracket, hquote, hbegins, -⟩ := isDigit_begins h
  unfold readTokenAt
  simp only [hword, hbracket, if_neg hquote, hbegins, if_true, hread, hsize]
  rfl

theorem readToken_toDigits {n : Nat} (hn : n < exactLimit) {rest : List Char}
    (hrest : EndsNumeral rest) :
    readToken (Nat.toDigits 10 n ++ rest) = .ok (.number (.ofNat n), rest) := by
  have hread := Numeral.read_toDigits n hrest
  obtain ⟨d, ds, hds, hd⟩ := exists_toDigits n
  rw [hds, List.cons_append] at hread ⊢
  unfold readToken
  rw [dropBlanks_cons (isDigit_begins hd).2.2.2.2]
  exact readTokenAt_digit hd hread (Numeral.tooLarge_ofNat hn)

end Json

end FeatureCard
