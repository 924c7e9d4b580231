import FeatureCard.Proofs.WrittenTokens

/-!
# Written settings read back

Settings that are written as the members of an object, in whatever order, are read as they were.
What a configuration writes is such an object, so reading it gives the configuration again, unless
the configuration is one that no card can use.
-/

namespace FeatureCard

open Json

namespace Setting

/-- A setting's value as it is written. -/
def value : Setting → List Char
  | basePort port => Nat.toDigits 10 port.toNat
  | irq line => Nat.toDigits 10 line.toNat
  | sampleRate rate => Nat.toDigits 10 rate.toNat
  | firmware path => (path.map (quote ·.toList)).getD ['n', 'u', 'l', 'l']

def member (s : Setting) : List Char := Config.member s.field s.value

end Setting

namespace Document

variable {rest : List Char}

/-! ## Values -/

theorem natural_ofNat {limit n : Nat} (hn : n < limit) :
    natural limit (.number (.ofNat n)) = .ok n := by
  unfold natural
  simp only [Numeral.natural?_ofNat, if_pos hn]

theorem readSetting_of {f : Field} {cs : List Char} {t : Token} {s : Setting}
    (hread : readToken cs = .ok (t, rest)) (hsetting : settingOf f t = .ok s) :
    readSetting f cs = .ok (s, rest) := by
  unfold readSetting
  simp only [hread, hsetting]

theorem readSetting_value (s : Setting) (hrest : EndsNumeral rest) :
    readSetting s.field (s.value ++ rest) = .ok (s, rest) := by
  cases s with
  | basePort port =>
    have hport : port.toNat < 0x10000 := port.toNat_lt
    have hread := readToken_toDigits (Nat.lt_trans hport (by decide)) hrest
    refine readSetting_of hread ?_
    simp only [Setting.field, settingOf, natural_ofNat hport, Except.map]
    rw [Nat.toUInt16_eq, UInt16.ofNat_toNat]
  | irq line =>
    have hline : line.toNat < 0x100 := line.toNat_lt
    have hread := readToken_toDigits (Nat.lt_trans hline (by decide)) hrest
    refine readSetting_of hread ?_
    simp only [Setting.field, settingOf, natural_ofNat hline, Except.map]
    rw [Nat.toUInt8_eq, UInt8.ofNat_toNat]
  | sampleRate rate =>
    have hrate : rate.toNat < word32 := rate.toNat_lt
    have hread := readToken_toDigits (Nat.lt_trans hrate (by decide)) hrest
    refine readSetting_of hread ?_
    simp only [Setting.field, settingOf, natural_ofNat hrate, Except.map]
    rw [Nat.toUInt32_eq, UInt32.ofNat_toNat]
  | firmware path =>
    cases path with
    | none => exact readSetting_of (readToken_null rest) rfl
    | some path =>
      refine readSetting_of (readToken_quote path.toList rest) ?_
      simp only [Setting.field, settingOf, Document.path, Except.map, String.ofList_toList]

/-! ## Members -/

/-- What stands before a member: a line break, and a comma unless it is the first. -/
def separator (first : Bool) : List Char := if first then ['\n'] else [',', '\n']

theorem ofName?_name (f : Field) : Field.ofName? f.name = some f := by
  cases f <;> rfl

theorem quoted_quote (name rest : List Char) :
    readName.quoted (quote name ++ rest) = .ok (some name, rest) := by
  rw [quote_append]
  unfold readName.quoted
  simp only [if_true, readString_written]

theorem dropBlanks_member (s : Setting) (rest : List Char) :
    dropBlanks ('\n' :: (s.member ++ rest)) =
      quote s.field.name ++ ':' :: ' ' :: (s.value ++ rest) := by
  have hmember : s.member ++ rest =
      ' ' :: ' ' :: (quote s.field.name ++ ':' :: ' ' :: (s.value ++ rest)) := by
    simp [Setting.member, Config.member]
  rw [hmember, dropBlanks_cons_of_blank rfl, dropBlanks_cons_of_blank rfl,
    dropBlanks_cons_of_blank rfl]
  exact dropBlanks_cons rfl _

theorem readName_member (first : Bool) (s : Setting) (rest : List Char) :
    readName first (separator first ++ (s.member ++ rest)) =
      .ok (some s.field.name, ':' :: ' ' :: (s.value ++ rest)) := by
  have hquoted := quoted_quote s.field.name (':' :: ' ' :: (s.value ++ rest))
  have hdrop := dropBlanks_member s rest
  unfold readName
  cases first with
  | true =>
    have hseparator : separator true ++ (s.member ++ rest) = '\n' :: (s.member ++ rest) := rfl
    rw [hseparator, hdrop]
    exact hquoted
  | false =>
    change readName.quoted (dropBlanks ('\n' :: (s.member ++ rest))) = _
    rw [hdrop]
    exact hquoted

theorem readMember_value {given : List Setting} {s : Setting}
    (hnew : s.field ∉ given.map Setting.field) (hrest : EndsNumeral rest) :
    readMember given s.field.name (':' :: ' ' :: (s.value ++ rest)) = .ok (some s, rest) := by
  have hcolon : skipColon (':' :: ' ' :: (s.value ++ rest)) = .ok (' ' :: (s.value ++ rest)) := rfl
  have hread : readSetting s.field (' ' :: (s.value ++ rest)) = .ok (s, rest) := by
    have hvalue := readSetting_value s hrest
    unfold readSetting at hvalue ⊢
    rw [readToken_blank rfl]
    exact hvalue
  unfold readMember
  simp only [ofName?_name, if_neg hnew, hcolon, hread]

/-! ## Objects -/

/-- The members after the first, and the end of the object. -/
def remainder : List Setting → List Char
  | [] => ['\n', '\x7d']
  | s :: settings => separator false ++ (s.member ++ remainder settings)

def object (first : Setting) (others : List Setting) : List Char :=
  '\x7b' :: (separator true ++ (first.member ++ remainder others))

theorem endsNumeral_remainder (settings : List Setting) : EndsNumeral (remainder settings) := by
  intro c hc
  cases settings with
  | nil =>
    obtain rfl : '\n' = c := Option.some.inj hc
    decide
  | cons s settings =>
    obtain rfl : ',' = c := Option.some.inj hc
    decide

theorem readMembers_eq (given : List Setting) (first : Bool) (cs : List Char) :
    readMembers given first cs =
      match readName first cs with
      | .error e => .error e
      | .ok (none, rest) => .ok (given, rest)
      | .ok (some name, rest) =>
        match readMember given name rest with
        | .error e => .error e
        | .ok (s, rest) => readMembers (given ++ s.toList) false rest := by
  rw [readMembers]
  split
  · rename_i hname
    rw [hname]
  · rename_i hname
    rw [hname]
  · rename_i hname
    rw [hname]
    split
    · rename_i hmember
      simp only [hmember]
    · rename_i hmember
      simp only [hmember]

theorem readMembers_member {given : List Setting} {s : Setting}
    (hnew : s.field ∉ given.map Setting.field) (hrest : EndsNumeral rest) (first : Bool) :
    readMembers given first (separator first ++ (s.member ++ rest)) =
      readMembers (given ++ [s]) false rest := by
  rw [readMembers_eq]
  simp only [readName_member, readMember_value hnew hrest]
  rfl

theorem readMembers_end (given : List Setting) :
    readMembers given false ['\n', '\x7d'] = .ok (given, []) := by
  rw [readMembers_eq]
  rfl

theorem readMembers_remainder {given settings : List Setting}
    (hfields : ((given ++ settings).map Setting.field).Nodup) :
    readMembers given false (remainder settings) = .ok (given ++ settings, []) := by
  induction settings generalizing given with
  | nil =>
    rw [List.append_nil]
    exact readMembers_end given
  | cons s settings ih =>
    have hnew : s.field ∉ given.map Setting.field := by
      rw [List.map_append, List.map_cons] at hfields
      intro hmem
      exact List.disjoint_of_nodup_append hfields hmem List.mem_cons_self
    have hsplit : given ++ s :: settings = given ++ [s] ++ settings :=
      List.append_cons given s settings
    rw [remainder, readMembers_member hnew (endsNumeral_remainder settings), hsplit]
    exact ih (hsplit ▸ hfields)

theorem read_object {s : Setting} {settings : List Setting}
    (hfields : ((s :: settings).map Setting.field).Nodup) :
    read (object s settings) = .ok (s :: settings) := by
  have hopening : readToken (object s settings) =
      .ok (.opening .object, separator true ++ (s.member ++ remainder settings)) := rfl
  have hmembers : readMembers [] true (separator true ++ (s.member ++ remainder settings)) =
      .ok (s :: settings, []) := by
    rw [readMembers_member List.not_mem_nil (endsNumeral_remainder settings)]
    exact readMembers_remainder hfields
  unfold read
  simp only [hopening, hmembers]
  rfl

end Document

namespace Config

/-- All settings of a configuration, in the order in which they are written. -/
def settings (c : Config) : List Setting :=
  [.basePort c.basePort, .irq c.irq, .sampleRate c.sampleRate, .firmware c.firmware]

theorem ofSettings_settings (c : Config) : ofSettings c.settings = c := rfl

theorem read_toDocument (c : Config) : Document.read c.toDocument = .ok c.settings := by
  have hwritten : c.toDocument = Document.object (.basePort c.basePort)
      [.irq c.irq, .sampleRate c.sampleRate, .firmware c.firmware] := by
    simp only [toDocument, List.intercalate, List.intersperse, List.flatten_cons, List.flatten_nil,
      List.append_nil, List.cons_append, List.append_assoc]
    rfl
  have hfields : (c.settings.map Setting.field).Nodup := by
    change Field.all.Nodup
    decide
  rw [hwritten]
  exact Document.read_object hfields

/-- A configuration that is written and read is the same again. If no card can use it, reading says
so; it never finds fault with the text. -/
theorem written_reads_back (c : Config) :
    ofDocument (String.ofList c.toDocument) =
      if 0xFFF0 < c.basePort then .error (.unusable (.noRoom c.basePort))
      else if 15 < c.irq then .error (.unusable (.irqOutOfRange c.irq))
      else .ok c := by
  have hroom : 0x10000 < c.basePort.toNat + portCount ↔ 0xFFF0 < c.basePort := by
    rw [UInt16.lt_iff_toNat_lt]
    change 65536 < c.basePort.toNat + 16 ↔ 65520 < c.basePort.toNat
    omega
  unfold ofDocument
  simp only [String.toList_ofList, read_toDocument, ofSettings_settings]
  unfold validate
  simp only [hroom]
  by_cases hport : 0xFFF0 < c.basePort
  · simp only [if_pos hport]
  · by_cases hline : 15 < c.irq
    · simp only [if_neg hport, if_pos hline]
    · simp only [if_neg hport, if_neg hline]

end Config

end FeatureCard
