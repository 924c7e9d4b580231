import FeatureCard.Proofs.WrittenTokens

/-!
# The grammar of documents

Strings, numerals and values as the grammar has them, with any blanks between their parts and nested
to any depth. What the grammar calls a value is passed over to its end, whatever comes after it, as
long as that does not carry on a numeral. A string that stands for a text is read as that text.
-/

namespace FeatureCard.Json

open Text

def Blanks (cs : List Char) : Prop := ∀ c ∈ cs, c ∈ [' ', '\n', '\t', '\x0d']

instance (cs : List Char) : Decidable (Blanks cs) := List.decidableBAll _ cs

variable {rest : List Char}

theorem isBlank_of_blanks {cs : List Char} (h : Blanks cs) : ∀ c ∈ cs, isBlank c = true := by
  intro c hc
  have hlisted := h c hc
  simpa [isBlank, or_assoc] using hlisted

theorem dropBlanks_append {cs : List Char} (h : Blanks cs) (rest : List Char) :
    dropBlanks (cs ++ rest) = dropBlanks rest :=
  List.dropWhile_append_of_pos (isBlank_of_blanks h)

theorem dropBlanks_until {ws : List Char} (h : Blanks ws) {c : Char} (hc : isBlank c = false)
    (rest : List Char) : dropBlanks (ws ++ c :: rest) = c :: rest := by
  rw [dropBlanks_append h]
  exact dropBlanks_cons hc rest

theorem endsNumeral_blanks {cs : List Char} (h : Blanks cs) (hrest : EndsNumeral rest) :
    EndsNumeral (cs ++ rest) := by
  cases cs with
  | nil => exact hrest
  | cons c cs =>
    have hblank : ∀ c ∈ [' ', '\n', '\t', '\x0d'],
        c.isDigit = false ∧ c ≠ '.' ∧ c ≠ 'e' ∧ c ≠ 'E' := by simp
    intro c' hc'
    exact Option.some.inj hc' ▸ hblank c (h c List.mem_cons_self)

/-! ## Strings -/

/-- The hexadecimal digit `c`, small or capital, has the value `n`. -/
def HexDigit (c : Char) (n : Nat) : Prop := n < 16 ∧ (c = hexDigit n ∨ c = (hexDigit n).toUpper)

inductive HexWord : List Char → Nat → Prop
  | digits {a b c d : Char} {i j k l : Nat} :
    HexDigit a i → HexDigit b j → HexDigit c k → HexDigit d l →
      HexWord [a, b, c, d] (((i * 16 + j) * 16 + k) * 16 + l)

/-- A character that stands for itself in a string. -/
structure Plain (c : Char) : Prop where
  quote : c ≠ '"'
  backslash : c ≠ '\\'
  control : 0x20 ≤ c.toNat

instance (c : Char) : Decidable (Plain c) :=
  decidable_of_iff (c ≠ '"' ∧ c ≠ '\\' ∧ 0x20 ≤ c.toNat)
    ⟨fun ⟨hquote, hbackslash, hcontrol⟩ => ⟨hquote, hbackslash, hcontrol⟩,
      fun h => ⟨h.quote, h.backslash, h.control⟩⟩

instance (cs : List Char) : Decidable (∀ c ∈ cs, Plain c) := List.decidableBAll Plain cs

/-- A character and the letter that stands for it after a backslash. -/
def Escapes (c letter : Char) : Prop := (c, letter) ∈ ('/', '/') :: shortEscapes

/-- What may stand between the quotes of a string. -/
inductive StringBody : List Char → Prop
  | nil : StringBody []
  | plain {c : Char} {cs : List Char} : Plain c → StringBody cs → StringBody (c :: cs)
  | short {c letter : Char} {cs : List Char} :
    Escapes c letter → StringBody cs → StringBody ('\\' :: letter :: cs)
  | word {word cs : List Char} {n : Nat} :
    HexWord word n → StringBody cs → StringBody ('\\' :: 'u' :: (word ++ cs))

/-- What stands between the quotes stands for a text. The two halves of a surrogate pair are written
one after the other. -/
inductive Denotes : List Char → List Char → Prop
  | nil : Denotes [] []
  | plain {c : Char} {cs text : List Char} : Plain c → Denotes cs text →
    Denotes (c :: cs) (c :: text)
  | short {c letter : Char} {cs text : List Char} :
    Escapes c letter → Denotes cs text → Denotes ('\\' :: letter :: cs) (c :: text)
  | word {word cs text : List Char} {n : Nat} :
    HexWord word n → n < 0xD800 ∨ 0xDFFF < n → Denotes cs text →
      Denotes ('\\' :: 'u' :: (word ++ cs)) (Char.ofNat n :: text)
  | pair {leading trailing cs text : List Char} {m n : Nat} :
    HexWord leading m → 0xD800 ≤ m ∧ m ≤ 0xDBFF → HexWord trailing n → 0xDC00 ≤ n ∧ n ≤ 0xDFFF →
      Denotes cs text →
      Denotes ('\\' :: 'u' :: (leading ++ '\\' :: 'u' :: (trailing ++ cs)))
        (Char.ofNat (0x10000 + (m - 0xD800) * 0x400 + (n - 0xDC00)) :: text)

theorem denotes_self {cs : List Char} (h : ∀ c ∈ cs, Plain c) : Denotes cs cs := by
  induction cs with
  | nil => exact .nil
  | cons c cs ih =>
    obtain ⟨hplain, hcs⟩ := List.forall_mem_cons.1 h
    exact .plain hplain (ih hcs)

theorem body_of_denotes {cs text : List Char} (h : Denotes cs text) : StringBody cs := by
  induction h with
  | nil => exact .nil
  | plain hplain _ ih => exact .plain hplain ih
  | short hescapes _ ih => exact .short hescapes ih
  | word hword _ _ ih => exact .word hword ih
  | pair hm _ hn _ _ ih => exact .word hm (.word hn ih)

theorem hexValue?_of_hexDigit {c : Char} {n : Nat} (h : HexDigit c n) :
    hexValue? c = some n ∧ c.utf8Size = 1 := by
  have hall : ∀ n < 16, (hexValue? (hexDigit n) = some n ∧ (hexDigit n).utf8Size = 1) ∧
      hexValue? (hexDigit n).toUpper = some n ∧ (hexDigit n).toUpper.utf8Size = 1 := by decide
  obtain ⟨hn, rfl | rfl⟩ := h
  · exact (hall n hn).1
  · exact (hall n hn).2

theorem hexWord_append {word : List Char} {n : Nat} (h : HexWord word n) (rest : List Char) :
    hexWord (word ++ rest) = .ok (n, rest) := by
  obtain ⟨ha, hb, hc, hd⟩ := h
  obtain ⟨ha, sizeA⟩ := hexValue?_of_hexDigit ha
  obtain ⟨hb, sizeB⟩ := hexValue?_of_hexDigit hb
  obtain ⟨hc, sizeC⟩ := hexValue?_of_hexDigit hc
  obtain ⟨hd, sizeD⟩ := hexValue?_of_hexDigit hd
  unfold hexWord byteCount
  simp [ha, hb, hc, hd, sizeA, sizeB, sizeC, sizeD]

theorem escaped?_of_escapes {c letter : Char} (h : Escapes c letter) :
    escaped? letter = some c := by
  rcases List.mem_cons.1 h with hslash | hshort
  · obtain ⟨rfl, rfl⟩ := Prod.mk.inj hslash
    rfl
  · exact (escape_short _ hshort).2

theorem unicode_word {word : List Char} {n : Nat} (h : HexWord word n)
    (hn : n < 0xD800 ∨ 0xDFFF < n) (rest : List Char) :
    unicode (word ++ rest) = .ok (Char.ofNat n, rest) := by
  have htrailing : isTrailing n = false := by
    simp only [isTrailing, Bool.and_eq_false_iff, decide_eq_false_iff_not]
    omega
  have hleading : isLeading n = false := by
    simp only [isLeading, Bool.and_eq_false_iff, decide_eq_false_iff_not]
    omega
  unfold unicode
  simp only [hexWord_append h, htrailing, hleading]
  rfl

theorem unicode_pair {leading trailing : List Char} {m n : Nat} (hm : HexWord leading m)
    (hleading : 0xD800 ≤ m ∧ m ≤ 0xDBFF) (hn : HexWord trailing n)
    (htrailing : 0xDC00 ≤ n ∧ n ≤ 0xDFFF) (rest : List Char) :
    unicode (leading ++ '\\' :: 'u' :: (trailing ++ rest)) =
      .ok (Char.ofNat (0x10000 + (m - 0xD800) * 0x400 + (n - 0xDC00)), rest) := by
  have hfirst : isTrailing m = false ∧ isLeading m = true := by
    simp only [isTrailing, isLeading, Bool.and_eq_false_iff, Bool.and_eq_true,
      decide_eq_false_iff_not, decide_eq_true_eq]
    omega
  have hsecond : isTrailing n = true := by
    simp only [isTrailing, Bool.and_eq_true, decide_eq_true_eq]
    exact htrailing
  unfold unicode
  simp only [hexWord_append hm, hfirst]
  unfold Json.trailing
  simp only [hexWord_append hn, hsecond]
  rfl

theorem readString_unicode {cs rest : List Char} {c : Char} (h : unicode cs = .ok (c, rest)) :
    readString ('\\' :: 'u' :: cs) = withChar c (readString rest) := by
  have hescape : readEscape ('u' :: cs) = .ok (c, rest) := h
  exact readString_escaped hescape

theorem readString_of_denotes {cs text : List Char} (h : Denotes cs text) (rest : List Char) :
    readString (cs ++ '"' :: rest) = .ok (text, rest) := by
  induction h with
  | nil => exact readString_closed rest
  | plain hplain _ ih =>
    rw [List.cons_append, readString_plain hplain.quote hplain.backslash
      (Nat.not_lt.2 hplain.control), ih]
    rfl
  | short hescapes _ ih =>
    have hescape := readEscape_letter (escaped?_of_escapes hescapes)
    rw [List.cons_append, List.cons_append, readString_escaped (hescape _), ih]
    rfl
  | word hword hn _ ih =>
    rw [List.cons_append, List.cons_append, List.append_assoc,
      readString_unicode (unicode_word hword hn _), ih]
    rfl
  | pair hm hleading hn htrailing _ ih =>
    rw [List.cons_append, List.cons_append, List.append_assoc, List.cons_append, List.cons_append,
      List.append_assoc, readString_unicode (unicode_pair hm hleading hn htrailing _), ih]
    rfl

theorem skipString_closed (rest : List Char) : skipString ('"' :: rest) = .ok rest := by
  rw [skipString, if_pos rfl]

theorem skipString_escaped {cs rest : List Char} (h : skipEscape cs = .ok rest) :
    skipString ('\\' :: cs) = skipString rest := by
  have hquote : '\\' ≠ '"' := by decide
  rw [skipString, if_neg hquote, if_pos rfl]
  split
  · rename_i he
    rw [h] at he
    cases he
  · rename_i he
    rw [h] at he
    rw [Except.ok.inj he]

theorem skipString_plain {c : Char} (h : Plain c) (cs : List Char) :
    skipString (c :: cs) = skipString cs := by
  rw [skipString, if_neg h.quote, if_neg h.backslash, if_neg (Nat.not_lt.2 h.control)]

theorem skipString_of_body {cs : List Char} (h : StringBody cs) (rest : List Char) :
    skipString (cs ++ '"' :: rest) = .ok rest := by
  induction h with
  | nil => exact skipString_closed rest
  | plain hplain _ ih => rw [List.cons_append, skipString_plain hplain, ih]
  | @short c letter cs hescapes _ ih =>
    have hletter := escaped?_of_escapes hescapes
    have hskip : skipEscape (letter :: (cs ++ '"' :: rest)) = .ok (cs ++ '"' :: rest) := by
      have hu : letter ≠ 'u' := by
        rintro rfl
        exact absurd hletter nofun
      unfold skipEscape
      simp only [if_neg hu, hletter, Option.isSome_some, if_true]
    rw [List.cons_append, List.cons_append, skipString_escaped hskip, ih]
  | @word word cs n hword _ ih =>
    have hskip : skipEscape ('u' :: (word ++ (cs ++ '"' :: rest))) = .ok (cs ++ '"' :: rest) := by
      change (hexWord _).map _ = _
      rw [hexWord_append hword]
      rfl
    rw [List.cons_append, List.cons_append, List.append_assoc, skipString_escaped hskip, ih]

/-! ## Numerals -/

inductive FractionText : List Char → Prop
  | none : FractionText []
  | digits {ds : List Char} : Digits ds → FractionText ('.' :: ds)

inductive ExponentText : List Char → Prop
  | none : ExponentText []
  | digits {mark : Char} {sign ds : List Char} : mark ∈ ['e', 'E'] → sign ∈ [[], ['+'], ['-']] →
    Digits ds → ExponentText (mark :: (sign ++ ds))

inductive NumeralText : List Char → Prop
  | parts {sign whole fraction exponent : List Char} : sign ∈ [[], ['-']] → WholeText whole →
    FractionText fraction → ExponentText exponent →
      NumeralText (sign ++ (whole ++ (fraction ++ exponent)))

namespace Numeral

theorem fractionPart_append {fraction : List Char} (h : FractionText fraction)
    (hrest : EndsDigits rest) (hpoint : '.' ∉ rest.head?) :
    fractionPart (fraction ++ rest) = .ok (fraction.tail, rest) := by
  cases h with
  | none =>
    unfold fractionPart
    split
    · rename_i htext
      rw [List.nil_append] at htext
      exact absurd (htext ▸ rfl) hpoint
    · rfl
  | digits hdigits => exact someDigits_append hdigits hrest

theorem exponentPart_append {exponent : List Char} (h : ExponentText exponent)
    (hrest : EndsNumeral rest) :
    ∃ e, exponentPart (exponent ++ rest) = .ok (e, rest) := by
  cases h with
  | none => exact ⟨none, exponentPart_none hrest⟩
  | @digits mark sign ds hmark hsign hdigits =>
    have hsome := someDigits_append hdigits (endsDigits_of_endsNumeral hrest)
    have hsigned : (exponentSign (sign ++ (ds ++ rest))).2 = ds ++ rest := by
      simp only [List.mem_cons, List.not_mem_nil, or_false] at hsign
      rcases hsign with rfl | rfl | rfl
      · unfold exponentSign
        obtain ⟨d, ds, rfl⟩ := List.exists_cons_of_ne_nil hdigits.1
        have hd := hdigits.2 d List.mem_cons_self
        rw [List.nil_append, List.cons_append]
        split
        · rename_i htext
          exact absurd (List.cons.inj htext).1 (isDigit_ne hd rfl)
        · rename_i htext
          exact absurd (List.cons.inj htext).1 (isDigit_ne hd rfl)
        · rfl
      · rfl
      · rfl
    have hmarks : mark = 'e' ∨ mark = 'E' := by simpa using hmark
    unfold exponentPart
    rw [List.cons_append, List.append_assoc]
    simp only [if_pos hmarks, hsigned, hsome]
    exact ⟨_, rfl⟩

theorem ends_exponent {exponent : List Char} (h : ExponentText exponent)
    (hrest : EndsNumeral rest) :
    EndsDigits (exponent ++ rest) ∧ '.' ∉ (exponent ++ rest).head? := by
  cases h with
  | none => exact ⟨endsDigits_of_endsNumeral hrest, fun hpoint => (hrest '.' hpoint).2.1 rfl⟩
  | @digits mark sign ds hmark _ _ =>
    have hmarks : mark = 'e' ∨ mark = 'E' := by simpa using hmark
    have hneither : mark.isDigit = false ∧ mark ≠ '.' := by
      rcases hmarks with rfl | rfl <;> decide
    exact ⟨fun c hc => Option.some.inj hc ▸ hneither.1,
      fun hpoint => hneither.2 (Option.some.inj hpoint)⟩

theorem unsigned_append (negative : Bool) {whole fraction exponent : List Char}
    (hwhole : WholeText whole) (hfraction : FractionText fraction)
    (hexponent : ExponentText exponent) (hrest : EndsNumeral rest) :
    ∃ n, unsigned negative (whole ++ (fraction ++ (exponent ++ rest))) = .ok (n, rest) := by
  obtain ⟨hdigits, hpoint⟩ := ends_exponent hexponent hrest
  have hafter : EndsDigits (fraction ++ (exponent ++ rest)) := by
    cases hfraction with
    | none => exact hdigits
    | digits _ => exact fun c hc => Option.some.inj hc ▸ rfl
  obtain ⟨e, hread⟩ := exponentPart_append hexponent hrest
  unfold unsigned
  simp only [wholePart_append hwhole hafter, fractionPart_append hfraction hdigits hpoint, hread]
  exact ⟨_, rfl⟩

theorem head_whole {whole : List Char} (h : WholeText whole) :
    ∃ d ds, whole = d :: ds ∧ d.isDigit = true := by
  rcases h with rfl | ⟨hdigits, -⟩
  · exact ⟨'0', [], rfl, rfl⟩
  · obtain ⟨d, ds, rfl⟩ := List.exists_cons_of_ne_nil hdigits.1
    exact ⟨d, ds, rfl, hdigits.2 d List.mem_cons_self⟩

theorem read_append {cs : List Char} (h : NumeralText cs) (hrest : EndsNumeral rest) :
    ∃ n, read (cs ++ rest) = .ok (n, rest) := by
  obtain ⟨hsign, hwhole, hfraction, hexponent⟩ := h
  have hsigns := hsign
  simp only [List.mem_cons, List.not_mem_nil, or_false] at hsigns
  rw [List.append_assoc, List.append_assoc, List.append_assoc]
  rcases hsigns with rfl | rfl
  · obtain ⟨n, hread⟩ := unsigned_append false hwhole hfraction hexponent hrest
    obtain ⟨d, ds, rfl, hd⟩ := head_whole hwhole
    refine ⟨n, ?_⟩
    unfold read
    split
    · rename_i htext
      exact absurd (List.cons.inj htext).1 (isDigit_ne hd rfl)
    · exact hread
  · exact unsigned_append true hwhole hfraction hexponent hrest

theorem begins {cs : List Char} (h : NumeralText cs) :
    ∃ c ds, cs = c :: ds ∧ beginsNumeral c = true := by
  obtain ⟨hsign, hwhole, -, -⟩ := h
  have hsigns := hsign
  simp only [List.mem_cons, List.not_mem_nil, or_false] at hsigns
  rcases hsigns with rfl | rfl
  · obtain ⟨d, ds, rfl, hd⟩ := head_whole hwhole
    exact ⟨d, _, rfl, by rw [beginsNumeral, hd, Bool.or_true]⟩
  · exact ⟨'-', _, rfl, rfl⟩

end Numeral

/-! ## Values -/

def Bracket.opening : Bracket → Char
  | array => '['
  | object => '\x7b'

/-- The blanks around the parts of a member or of an element. -/
structure Padding where
  before : List Char := []
  beforeColon : List Char := []
  afterColon : List Char := []
  after : List Char := []
  blanks : ∀ cs ∈ [before, beforeColon, afterColon, after], Blanks cs := by decide

namespace Padding

def element (p : Padding) (value : List Char) : List Char := p.before ++ (value ++ p.after)

def member (p : Padding) (key value : List Char) : List Char :=
  p.before ++ '"' :: (key ++ '"' :: (p.beforeColon ++ ':' :: (p.afterColon ++ (value ++ p.after))))

theorem blanks_before (p : Padding) : Blanks p.before := p.blanks _ (by simp)

theorem blanks_beforeColon (p : Padding) : Blanks p.beforeColon := p.blanks _ (by simp)

theorem blanks_afterColon (p : Padding) : Blanks p.afterColon := p.blanks _ (by simp)

theorem blanks_after (p : Padding) : Blanks p.after := p.blanks _ (by simp)

theorem element_append (p : Padding) (value rest : List Char) :
    p.element value ++ rest = p.before ++ (value ++ (p.after ++ rest)) := by
  simp [element]

theorem member_append (p : Padding) (key value rest : List Char) :
    p.member key value ++ rest =
      p.before ++ '"' :: (key ++ '"' :: (p.beforeColon ++ ':' ::
        (p.afterColon ++ (value ++ (p.after ++ rest))))) := by
  simp [member]

end Padding

/-- What the grammar speaks of: values, what stands between the commas of a bracket, and all that
stands between its ends, if that is not empty. -/
inductive Part where
  | value
  | item (b : Bracket)
  | items (b : Bracket)

inductive Grammar : Part → List Char → Prop
  | word {cs : List Char} : cs ∈ ["null".toList, "true".toList, "false".toList] → Grammar .value cs
  | numeral {cs : List Char} : NumeralText cs → Grammar .value cs
  | text {cs : List Char} : StringBody cs → Grammar .value ('"' :: (cs ++ ['"']))
  | empty (b : Bracket) {cs : List Char} : Blanks cs →
    Grammar .value (b.opening :: (cs ++ [b.closing]))
  | bracket {b : Bracket} {cs : List Char} : Grammar (.items b) cs →
    Grammar .value (b.opening :: (cs ++ [b.closing]))
  | element (p : Padding) {value : List Char} : Grammar .value value →
    Grammar (.item .array) (p.element value)
  | member (p : Padding) {key value : List Char} : StringBody key → Grammar .value value →
    Grammar (.item .object) (p.member key value)
  | last {b : Bracket} {cs : List Char} : Grammar (.item b) cs → Grammar (.items b) cs
  | comma {b : Bracket} {cs ds : List Char} : Grammar (.item b) cs → Grammar (.items b) ds →
    Grammar (.items b) (cs ++ ',' :: ds)

/-! ## Values are passed over -/

theorem skipInside_value (outer : List Bracket) (cs : List Char) :
    skipInside .value outer cs =
      match skipToken cs with
      | .error e => .error e
      | .ok (none, rest) => skipInside .closed outer rest
      | .ok (some b, rest) =>
        match skipOpening b rest with
        | .error e => .error e
        | .ok (.closed, rest) => skipInside .closed outer rest
        | .ok (.value, rest) => skipInside .value (b :: outer) rest := by
  rw [skipInside]
  split <;> rename_i htoken <;> simp only [htoken]
  split <;> rename_i hopening <;> simp only [hopening]

theorem skipInside_closed (b : Bracket) (outer : List Bracket) (cs : List Char) :
    skipInside .closed (b :: outer) cs =
      match skipBetween b cs with
      | .error e => .error e
      | .ok (.closed, rest) => skipInside .closed outer rest
      | .ok (.value, rest) => skipInside .value (b :: outer) rest := by
  rw [skipInside]
  split <;> rename_i hbetween <;> simp only [hbetween]

theorem skipInside_done (cs : List Char) : skipInside .closed [] cs = .ok cs := by
  rw [skipInside]

/-- Passes over what begins an item of a bracket, and over all that is left of the value that the
bracket belongs to. -/
def skipItem (b : Bracket) (outer : List Bracket) (cs : List Char) : Skip :=
  match skipToValue b cs with
  | .error e => .error e
  | .ok rest => skipInside .value (b :: outer) rest

variable {outer : List Bracket} {b : Bracket} {cs : List Char}

theorem skipInside_scalar (h : skipToken cs = .ok (none, rest)) :
    skipInside .value outer cs = skipInside .closed outer rest := by
  rw [skipInside_value]
  simp only [h]

theorem skipInside_empty {inner : List Char} (h : skipToken cs = .ok (some b, inner))
    (hclosing : dropBlanks inner = b.closing :: rest) :
    skipInside .value outer cs = skipInside .closed outer rest := by
  have hopening : skipOpening b inner = .ok (.closed, rest) := by
    unfold skipOpening
    simp only [hclosing, if_true]
  rw [skipInside_value]
  simp only [h, hopening]

theorem skipInside_opening {inner : List Char} {c : Char} (h : skipToken cs = .ok (some b, inner))
    (hfirst : dropBlanks inner = c :: rest) (hc : c ≠ b.closing) :
    skipInside .value outer cs = skipItem b outer (c :: rest) := by
  rw [skipInside_value, skipItem]
  cases hinside : skipToValue b (c :: rest) with
  | error e =>
    have hopening : skipOpening b inner = .error e := by
      unfold skipOpening
      simp only [hfirst, if_neg hc, hinside]
    simp only [h, hopening]
  | ok inside =>
    have hopening : skipOpening b inner = .ok (.value, inside) := by
      unfold skipOpening
      simp only [hfirst, if_neg hc, hinside]
    simp only [h, hopening]

theorem skipInside_closing (h : dropBlanks cs = b.closing :: rest) :
    skipInside .closed (b :: outer) cs = skipInside .closed outer rest := by
  have hne : b.closing ≠ ',' := by cases b <;> decide
  have hbetween : skipBetween b cs = .ok (.closed, rest) := by
    unfold skipBetween
    simp only [h, if_neg hne, if_true]
  rw [skipInside_closed]
  simp only [hbetween]

theorem skipInside_comma (h : dropBlanks cs = ',' :: rest) :
    skipInside .closed (b :: outer) cs = skipItem b outer (dropBlanks rest) := by
  rw [skipInside_closed, skipItem]
  cases hinside : skipToValue b (dropBlanks rest) with
  | error e =>
    have hbetween : skipBetween b cs = .error e := by
      unfold skipBetween
      simp only [h, if_true, hinside]
    simp only [hbetween]
  | ok inside =>
    have hbetween : skipBetween b cs = .ok (.value, inside) := by
      unfold skipBetween
      simp only [h, if_true, hinside]
    simp only [hbetween]

theorem skipInside_blanks {ws : List Char} (h : Blanks ws) :
    skipInside .value outer (ws ++ cs) = skipInside .value outer cs ∧
      skipInside .closed (b :: outer) (ws ++ cs) = skipInside .closed (b :: outer) cs := by
  have htoken : skipToken (ws ++ cs) = skipToken cs := by
    unfold skipToken
    rw [dropBlanks_append h]
  have hbetween : skipBetween b (ws ++ cs) = skipBetween b cs := by
    unfold skipBetween
    rw [dropBlanks_append h]
  constructor
  · rw [skipInside_value, htoken, ← skipInside_value]
  · rw [skipInside_closed, hbetween, ← skipInside_closed]

/-! ## What begins a value -/

/-- The text begins with a character that is neither blank nor the end of an array. -/
def Begins (cs : List Char) : Prop := ∃ c ds, cs = c :: ds ∧ isBlank c = false ∧ c ≠ ']'

/-- After blanks there is a character that does not close the bracket. -/
def Opens (b : Bracket) (cs : List Char) : Prop :=
  ∃ c ds, dropBlanks cs = c :: ds ∧ c ≠ b.closing

theorem Opens.append (h : Opens b cs) (rest : List Char) : Opens b (cs ++ rest) := by
  obtain ⟨c, ds, hfirst, hc⟩ := h
  refine ⟨c, ds ++ rest, ?_, hc⟩
  unfold dropBlanks at hfirst ⊢
  rw [List.dropWhile_append, hfirst]
  rfl

theorem beginsNumeral_only {c : Char} (h : beginsNumeral c = true) :
    wordFor? c = none ∧ bracketFor? c = none ∧ c ≠ '"' ∧ isBlank c = false ∧ c ≠ ']' := by
  unfold beginsNumeral at h
  rcases Bool.or_eq_true_iff.1 h with hminus | hdigit
  · obtain rfl := of_decide_eq_true hminus
    decide
  · obtain ⟨hword, hbracket, hquote, -, hblank⟩ := isDigit_begins hdigit
    exact ⟨hword, hbracket, hquote, hblank, isDigit_ne hdigit rfl⟩

theorem skipToken_begins {c : Char} (h : isBlank c = false) (cs : List Char) :
    skipToken (c :: cs) = skipTokenAt c cs := by
  unfold skipToken
  rw [dropBlanks_cons h]

theorem skipToken_opening (b : Bracket) (cs : List Char) :
    skipToken (b.opening :: cs) = .ok (some b, cs) := by
  cases b <;> rfl

theorem skipToken_word (hword : cs ∈ ["null".toList, "true".toList, "false".toList])
    (rest : List Char) : skipToken (cs ++ rest) = .ok (none, rest) := by
  simp only [List.mem_cons, List.not_mem_nil, or_false] at hword
  rcases hword with rfl | rfl | rfl <;> rfl

theorem skipToken_text (h : StringBody cs) (rest : List Char) :
    skipToken ('"' :: (cs ++ '"' :: rest)) = .ok (none, rest) := by
  rw [skipToken_begins rfl]
  unfold skipTokenAt
  simp only [wordFor?, bracketFor?, if_true, skipString_of_body h]
  rfl

theorem skipToken_numeral (h : NumeralText cs) (hrest : EndsNumeral rest) :
    skipToken (cs ++ rest) = .ok (none, rest) := by
  obtain ⟨n, hread⟩ := Numeral.read_append h hrest
  obtain ⟨c, ds, rfl, hbegins⟩ := Numeral.begins h
  obtain ⟨hword, hbracket, hquote, hblank, -⟩ := beginsNumeral_only hbegins
  have hskip : skipNumeral (c :: (ds ++ rest)) = .ok rest := by
    unfold skipNumeral
    rw [← List.cons_append]
    simp only [hread]
  rw [List.cons_append, skipToken_begins hblank]
  unfold skipTokenAt
  simp only [hword, hbracket, if_neg hquote, hbegins, if_true, hskip]

theorem begins_of_grammar (h : Grammar .value cs) : Begins cs := by
  cases h with
  | word hword =>
    simp only [List.mem_cons, List.not_mem_nil, or_false] at hword
    rcases hword with rfl | rfl | rfl <;> exact ⟨_, _, rfl, by decide⟩
  | numeral hnumeral =>
    obtain ⟨c, ds, rfl, hbegins⟩ := Numeral.begins hnumeral
    exact ⟨c, ds, rfl, (beginsNumeral_only hbegins).2.2.2⟩
  | text _ => exact ⟨_, _, rfl, by decide⟩
  | empty b _ | @bracket b _ _ => exact ⟨_, _, rfl, by cases b <;> decide⟩

namespace Padding

theorem drop_element (p : Padding) {value : List Char} (h : Begins value) (rest : List Char) :
    dropBlanks (p.element value ++ rest) = value ++ (p.after ++ rest) := by
  obtain ⟨c, ds, rfl, hblank, -⟩ := h
  rw [p.element_append]
  exact dropBlanks_until p.blanks_before hblank _

theorem drop_member (p : Padding) (key value rest : List Char) :
    dropBlanks (p.member key value ++ rest) =
      '"' :: (key ++ '"' :: (p.beforeColon ++ ':' ::
        (p.afterColon ++ (value ++ (p.after ++ rest))))) := by
  rw [p.member_append]
  exact dropBlanks_until p.blanks_before rfl _

end Padding

/-! ## Passing over what the grammar derives -/

/-- A part of the grammar is passed over, and what stands before and after it counts as before. -/
def Passed : Part → List Char → Prop
  | .value, cs => ∀ outer rest, EndsNumeral rest →
    skipInside .value outer (cs ++ rest) = skipInside .closed outer rest
  | .item b, cs => Opens b cs ∧ ∀ outer rest, EndsNumeral rest →
    skipItem b outer (dropBlanks (cs ++ rest)) = skipInside .closed (b :: outer) rest
  | .items b, cs => Opens b cs ∧ ∀ outer rest,
    skipItem b outer (dropBlanks (cs ++ b.closing :: rest)) = skipInside .closed outer rest

theorem passed_element (p : Padding) {value : List Char} (hvalue : Grammar .value value)
    (ih : Passed .value value) : Passed (.item .array) (p.element value) := by
  have hbegins := begins_of_grammar hvalue
  refine ⟨?_, fun outer rest hrest => ?_⟩
  · have hfirst := p.drop_element hbegins []
    obtain ⟨c, ds, rfl, -, hc⟩ := hbegins
    rw [List.append_nil] at hfirst
    exact ⟨c, _, hfirst, hc⟩
  · rw [p.drop_element hbegins]
    calc skipItem .array outer (value ++ (p.after ++ rest))
      _ = skipInside .value (.array :: outer) (value ++ (p.after ++ rest)) := rfl
      _ = skipInside .closed (.array :: outer) (p.after ++ rest) :=
        ih _ _ (endsNumeral_blanks p.blanks_after hrest)
      _ = skipInside .closed (.array :: outer) rest := (skipInside_blanks p.blanks_after).2

theorem skipToValue_append {key ws : List Char} (hkey : StringBody key) (hws : Blanks ws)
    (rest : List Char) :
    skipToValue .object ('"' :: (key ++ '"' :: (ws ++ ':' :: rest))) = .ok rest := by
  have hcolon : dropBlanks (ws ++ ':' :: rest) = ':' :: rest := dropBlanks_until hws rfl rest
  change skipKey _ = _
  unfold skipKey
  simp only [skipString_of_body hkey, hcolon, if_true]

theorem passed_member (p : Padding) {key value : List Char} (hkey : StringBody key)
    (ih : Passed .value value) : Passed (.item .object) (p.member key value) := by
  have hfirst := p.drop_member key value []
  rw [List.append_nil] at hfirst
  refine ⟨⟨'"', _, hfirst, by decide⟩, fun outer rest hrest => ?_⟩
  · have hkeyed := skipToValue_append hkey p.blanks_beforeColon
      (p.afterColon ++ (value ++ (p.after ++ rest)))
    have hvalue : skipItem .object outer (dropBlanks (p.member key value ++ rest)) =
        skipInside .value (.object :: outer) (p.afterColon ++ (value ++ (p.after ++ rest))) := by
      unfold skipItem
      simp only [p.drop_member, hkeyed]
    calc skipItem .object outer (dropBlanks (p.member key value ++ rest))
      _ = skipInside .value (.object :: outer) (value ++ (p.after ++ rest)) :=
        hvalue.trans (@skipInside_blanks _ .object _ _ p.blanks_afterColon).1
      _ = skipInside .closed (.object :: outer) (p.after ++ rest) :=
        ih _ _ (endsNumeral_blanks p.blanks_after hrest)
      _ = skipInside .closed (.object :: outer) rest := (skipInside_blanks p.blanks_after).2

theorem endsNumeral_closing (b : Bracket) (rest : List Char) : EndsNumeral (b.closing :: rest) := by
  intro c hc
  obtain rfl := Option.some.inj hc
  cases b <;> decide

theorem endsNumeral_comma (rest : List Char) : EndsNumeral (',' :: rest) := by
  intro c hc
  obtain rfl := Option.some.inj hc
  decide

theorem isBlank_closing (b : Bracket) : isBlank b.closing = false := by
  cases b <;> rfl

/-- Whatever the grammar derives is passed over. The induction is on the derivation; the brackets
that are open outside do not matter. -/
theorem passed_of_grammar {part : Part} (h : Grammar part cs) : Passed part cs := by
  induction h with
  | word hword => exact fun outer rest _ => skipInside_scalar (skipToken_word hword rest)
  | numeral hnumeral =>
    exact fun outer rest hrest => skipInside_scalar (skipToken_numeral hnumeral hrest)
  | text hbody =>
    intro outer rest _
    rw [List.cons_append, List.append_assoc]
    exact skipInside_scalar (skipToken_text hbody rest)
  | @empty b cs hblanks =>
    intro outer rest _
    rw [List.cons_append, List.append_assoc]
    have hclosing : dropBlanks (cs ++ ([b.closing] ++ rest)) = b.closing :: rest :=
      dropBlanks_until hblanks (isBlank_closing b) rest
    exact skipInside_empty (skipToken_opening b _) hclosing
  | @bracket b cs _ ih =>
    intro outer rest _
    rw [List.cons_append, List.append_assoc]
    obtain ⟨c, ds, hfirst, hc⟩ := ih.1.append (b.closing :: rest)
    have hitems := ih.2 outer rest
    rw [hfirst] at hitems
    exact (skipInside_opening (skipToken_opening b _) hfirst hc).trans hitems
  | element p hvalue ih => exact passed_element p hvalue ih
  | member p hkey _ ih => exact passed_member p hkey ih
  | @last b cs _ ih =>
    refine ⟨ih.1, fun outer rest => ?_⟩
    rw [ih.2 outer _ (endsNumeral_closing b rest)]
    exact skipInside_closing (dropBlanks_cons (isBlank_closing b) rest)
  | @comma b cs ds _ _ ihItem ihItems =>
    refine ⟨ihItem.1.append _, fun outer rest => ?_⟩
    rw [List.append_assoc, List.cons_append, ihItem.2 outer _ (endsNumeral_comma _),
      skipInside_comma (dropBlanks_cons rfl _)]
    exact ihItems.2 outer rest

theorem skipValue_append {ws value : List Char} (hws : Blanks ws) (hvalue : Grammar .value value)
    (hrest : EndsNumeral rest) : skipValue (ws ++ (value ++ rest)) = .ok rest := by
  unfold skipValue
  rw [(@skipInside_blanks _ .array _ _ hws).1, passed_of_grammar hvalue _ _ hrest, skipInside_done]

end FeatureCard.Json
