import FeatureCard.Proofs.DocumentGrammar
import FeatureCard.Proofs.WrittenDocument

/-!
# What a document gives

An object gives settings as members, in any order and among members of other names. An array gives
them as elements, in the order of the fields. Reading either, the card is configured with what is
given and with the defaults for the rest, unless no card can use that. To give a setting twice is a
fault of the document's data.
-/

namespace FeatureCard

open Json

namespace Document

/-! ## Documents -/

/-- How a setting's value may be written. A path may be written with escapes. -/
inductive Value : Setting → List Char → Prop
  | basePort (port : UInt16) : Value (.basePort port) (Nat.toDigits 10 port.toNat)
  | irq (line : UInt8) : Value (.irq line) (Nat.toDigits 10 line.toNat)
  | sampleRate (rate : UInt32) : Value (.sampleRate rate) (Nat.toDigits 10 rate.toNat)
  | silent : Value (.firmware none) "null".toList
  | firmware {cs text : List Char} : Denotes cs text →
    Value (.firmware (some (String.ofList text))) ('"' :: (cs ++ ['"']))

/-- A member that gives a setting, or one with a name that is no field's. -/
inductive Member : Option Setting → List Char → Prop
  | known (p : Padding) {s : Setting} {key value : List Char} : Denotes key s.field.name →
    Value s value → Member (some s) (p.member key value)
  | other (p : Padding) {key name value : List Char} : Denotes key name →
    (∀ f : Field, name ≠ f.name) → Grammar .value value → Member none (p.member key value)

inductive Members : List Setting → List Char → Prop
  | last {s : Option Setting} {cs : List Char} : Member s cs → Members s.toList cs
  | comma {s : Option Setting} {settings : List Setting} {cs ds : List Char} : Member s cs →
    Members settings ds → Members (s.toList ++ settings) (cs ++ ',' :: ds)

inductive Elements : List Setting → List Char → Prop
  | last (p : Padding) {s : Setting} {value : List Char} : Value s value →
    Elements [s] (p.element value)
  | comma (p : Padding) {s : Setting} {settings : List Setting} {value cs : List Char} :
    Value s value → Elements settings cs → Elements (s :: settings) (p.element value ++ ',' :: cs)

/-- A document that is one bracket, with items in it or with nothing. -/
inductive Encloses (b : Bracket) (Items : List Setting → List Char → Prop) :
    List Setting → List Char → Prop
  | empty {before inside after : List Char} : Blanks before → Blanks inside → Blanks after →
    Encloses b Items [] (before ++ b.opening :: (inside ++ b.closing :: after))
  | items {settings : List Setting} {before cs after : List Char} : Blanks before →
    Items settings cs → Blanks after →
      Encloses b Items settings (before ++ b.opening :: (cs ++ b.closing :: after))

/-- A document that is an object and gives each setting once. -/
def ObjectGives (settings : List Setting) (cs : List Char) : Prop :=
  (settings.map Setting.field).Nodup ∧ Encloses .object Members settings cs

/-- A document that is an array and gives the settings of the first fields. -/
def ArrayGives (settings : List Setting) (cs : List Char) : Prop :=
  settings.map Setting.field <+: Field.all ∧ Encloses .array Elements settings cs

/-- A document that is an object up to a name that one of its members has already. It does not
matter what comes after the name. -/
inductive Repeats : List Char → Prop
  | name {settings : List Setting} {f : Field} {before cs ws key rest : List Char} :
    Blanks before → (settings.map Setting.field).Nodup → Members settings cs →
    f ∈ settings.map Setting.field → Blanks ws → Denotes key f.name →
      Repeats (before ++ '\x7b' :: (cs ++ ',' :: (ws ++ '"' :: (key ++ '"' :: rest))))

variable {rest : List Char}

/-! ## Values -/

theorem grammar_toDigits (n : Nat) : Grammar .value (Nat.toDigits 10 n) := by
  have hparts := @NumeralText.parts [] _ [] [] (by simp) (Numeral.wholeText_toDigits n) .none .none
  rw [List.nil_append, List.nil_append, List.append_nil] at hparts
  exact .numeral hparts

theorem grammar_of_value {s : Setting} {value : List Char} (h : Value s value) :
    Grammar .value value := by
  cases h with
  | basePort port => exact grammar_toDigits _
  | irq line => exact grammar_toDigits _
  | sampleRate rate => exact grammar_toDigits _
  | silent => exact .word (by simp)
  | firmware htext => exact .text (body_of_denotes htext)

theorem readToken_text {cs text : List Char} (h : Denotes cs text) (rest : List Char) :
    readToken ('"' :: (cs ++ '"' :: rest)) = .ok (.text text, rest) := by
  unfold readToken
  rw [dropBlanks_cons rfl]
  change readTokenAt '"' _ = _
  simp only [readTokenAt, wordFor?, bracketFor?, readString_of_denotes h]
  rfl

theorem readSetting_append {s : Setting} {value : List Char} (h : Value s value)
    (hrest : EndsNumeral rest) : readSetting s.field (value ++ rest) = .ok (s, rest) := by
  cases h with
  | basePort port => exact readSetting_value (.basePort port) hrest
  | irq line => exact readSetting_value (.irq line) hrest
  | sampleRate rate => exact readSetting_value (.sampleRate rate) hrest
  | silent => exact readSetting_value (.firmware none) hrest
  | firmware htext =>
    rw [List.cons_append, List.append_assoc]
    exact readSetting_of (readToken_text htext rest) rfl

theorem readSetting_blanks (f : Field) {ws : List Char} (hws : Blanks ws) (cs : List Char) :
    readSetting f (ws ++ cs) = readSetting f cs := by
  have htoken : readToken (ws ++ cs) = readToken cs := by
    unfold readToken
    rw [dropBlanks_append hws]
  unfold readSetting
  rw [htoken]

/-! ## Members -/

/-- What stands before an item: a comma, unless it is the first. -/
def lead (first : Bool) : List Char := if first then [] else [',']

theorem skipColon_append {ws : List Char} (hws : Blanks ws) (rest : List Char) :
    skipColon (ws ++ ':' :: rest) = .ok rest := by
  have hcolon : dropBlanks (ws ++ ':' :: rest) = ':' :: rest := dropBlanks_until hws rfl rest
  unfold skipColon
  simp only [hcolon, if_true]

theorem readName_append {ws key name : List Char} (hws : Blanks ws) (hkey : Denotes key name)
    (first : Bool) (rest : List Char) :
    readName first (lead first ++ (ws ++ '"' :: (key ++ '"' :: rest))) = .ok (some name, rest) := by
  have hdrop : dropBlanks (ws ++ '"' :: (key ++ '"' :: rest)) = '"' :: (key ++ '"' :: rest) :=
    dropBlanks_until hws rfl _
  have hquoted : readName.quoted ('"' :: (key ++ '"' :: rest)) = .ok (some name, rest) := by
    unfold readName.quoted
    simp only [if_true, readString_of_denotes hkey]
  cases first with
  | true =>
    have hlead : lead true ++ (ws ++ '"' :: (key ++ '"' :: rest)) =
        ws ++ '"' :: (key ++ '"' :: rest) := rfl
    unfold readName
    rw [hlead, hdrop]
    exact hquoted
  | false =>
    change readName.quoted (dropBlanks (ws ++ '"' :: (key ++ '"' :: rest))) = _
    rw [hdrop]
    exact hquoted

theorem readMembers_blanks (given : List Setting) (first : Bool) {ws : List Char}
    (hws : Blanks ws) (cs : List Char) :
    readMembers given first (ws ++ cs) = readMembers given first cs := by
  have hname : readName first (ws ++ cs) = readName first cs := by
    unfold readName
    rw [dropBlanks_append hws]
  rw [readMembers_eq, hname, ← readMembers_eq]

theorem ofName?_other {name : List Char} (h : ∀ f : Field, name ≠ f.name) :
    Field.ofName? name = none :=
  List.find?_eq_none.2 fun f _ => by simpa using Ne.symm (h f)

theorem readMember_append {given : List Setting} {s : Option Setting} {cs : List Char}
    (h : Member s cs) (hnew : ∀ s' ∈ s, s'.field ∉ given.map Setting.field)
    (hrest : EndsNumeral rest) :
    ∃ (p : Padding) (key name value : List Char), cs = p.member key value ∧ Denotes key name ∧
      readMember given name (p.beforeColon ++ ':' :: (p.afterColon ++
        (value ++ (p.after ++ rest)))) = .ok (s, p.after ++ rest) := by
  cases h with
  | known p hkey hvalue =>
    refine ⟨p, _, _, _, rfl, hkey, ?_⟩
    unfold readMember
    simp only [ofName?_name, if_neg (hnew _ rfl), skipColon_append p.blanks_beforeColon,
      readSetting_blanks _ p.blanks_afterColon,
      readSetting_append hvalue (endsNumeral_blanks p.blanks_after hrest)]
  | other p hkey hname hvalue =>
    refine ⟨p, _, _, _, rfl, hkey, ?_⟩
    unfold readMember
    simp only [ofName?_other hname, skipColon_append p.blanks_beforeColon,
      skipValue_append p.blanks_afterColon hvalue (endsNumeral_blanks p.blanks_after hrest)]

theorem readMembers_step {given : List Setting} {s : Option Setting} {cs : List Char}
    (h : Member s cs) (hnew : ∀ s' ∈ s, s'.field ∉ given.map Setting.field)
    (hrest : EndsNumeral rest) (first : Bool) :
    readMembers given first (lead first ++ (cs ++ rest)) =
      readMembers (given ++ s.toList) false rest := by
  obtain ⟨p, key, name, value, rfl, hkey, hread⟩ := readMember_append h hnew hrest
  rw [p.member_append, readMembers_eq]
  simp only [readName_append p.blanks_before hkey, hread]
  exact readMembers_blanks _ false p.blanks_after rest

theorem not_given {given settings : List Setting} {s : Option Setting}
    (hfields : ((given ++ (s.toList ++ settings)).map Setting.field).Nodup) :
    ∀ s' ∈ s, s'.field ∉ given.map Setting.field := by
  intro s' hs hgiven
  rw [List.map_append] at hfields
  have hmem : s' ∈ s.toList ++ settings := List.mem_append_left _ (Option.mem_toList.2 hs)
  exact List.disjoint_of_nodup_append hfields hgiven (List.mem_map_of_mem hmem)

theorem readMembers_append {given settings : List Setting} {cs : List Char}
    (h : Members settings cs) (hfields : ((given ++ settings).map Setting.field).Nodup)
    (hrest : EndsNumeral rest) (first : Bool) :
    readMembers given first (lead first ++ (cs ++ rest)) =
      readMembers (given ++ settings) false rest := by
  induction h generalizing given first with
  | @last s cs hmember =>
    rw [← List.append_nil s.toList] at hfields
    exact readMembers_step hmember (not_given hfields) hrest first
  | @comma s settings cs ds hmember _ ih =>
    rw [List.append_assoc, List.cons_append,
      readMembers_step hmember (not_given hfields) (endsNumeral_comma _) first]
    rw [← List.append_assoc] at hfields ⊢
    exact ih hfields false

theorem readMembers_closing (given : List Setting) (first : Bool) (rest : List Char) :
    readMembers given first ('\x7d' :: rest) = .ok (given, rest) := by
  rw [readMembers_eq]
  rfl

theorem readMembers_repeated {given : List Setting} {f : Field} {ws key : List Char}
    (hgiven : f ∈ given.map Setting.field) (hws : Blanks ws) (hkey : Denotes key f.name)
    (rest : List Char) :
    readMembers given false (',' :: (ws ++ '"' :: (key ++ '"' :: rest))) = .error .mistyped := by
  have hname : readName false (',' :: (ws ++ '"' :: (key ++ '"' :: rest))) =
      .ok (some f.name, rest) := readName_append hws hkey false rest
  have hmember : readMember given f.name rest = .error .mistyped := by
    unfold readMember
    simp only [ofName?_name, if_pos hgiven]
  rw [readMembers_eq]
  simp only [hname, hmember]

/-! ## Elements -/

theorem readComma_append {p : Padding} {value : List Char} (h : Begins value) (first : Bool)
    (rest : List Char) :
    readComma first (lead first ++ (p.element value ++ rest)) =
      .ok (some (value ++ (p.after ++ rest))) := by
  have hdrop := p.drop_element h rest
  obtain ⟨c, ds, rfl, -, hc⟩ := h
  cases first with
  | true =>
    change readComma true (p.element (c :: ds) ++ rest) = _
    unfold readComma
    simp only [hdrop, List.cons_append, if_neg hc, if_true]
  | false =>
    have hcomma : dropBlanks (',' :: (p.element (c :: ds) ++ rest)) =
        ',' :: (p.element (c :: ds) ++ rest) := dropBlanks_cons rfl _
    have hne : ',' ≠ ']' := by decide
    change readComma false (',' :: (p.element (c :: ds) ++ rest)) = _
    unfold readComma
    simp only [hcomma, hdrop, List.cons_append, if_neg hc, if_neg hne, if_true]
    rfl

theorem readElements_closing (first : Bool) (fields : List Field) {ws : List Char}
    (hws : Blanks ws) (rest : List Char) :
    readElements first fields (ws ++ ']' :: rest) = .ok ([], rest) := by
  have hdrop : dropBlanks (ws ++ ']' :: rest) = ']' :: rest := dropBlanks_until hws rfl rest
  have hend : skipEnd (ws ++ ']' :: rest) = .ok rest := by
    unfold skipEnd
    simp only [hdrop, if_true]
  cases fields with
  | nil =>
    unfold readElements
    simp only [hend]
  | cons f fields =>
    have hcomma : readComma first (ws ++ ']' :: rest) = .ok none := by
      unfold readComma
      simp only [hdrop, if_true]
    unfold readElements
    simp only [hcomma, hend]

theorem readElements_blanks (fields : List Field) {ws : List Char} (hws : Blanks ws)
    (cs : List Char) : readElements false fields (ws ++ cs) = readElements false fields cs := by
  have hend : skipEnd (ws ++ cs) = skipEnd cs := by
    unfold skipEnd
    rw [dropBlanks_append hws]
  have hcomma : readComma false (ws ++ cs) = readComma false cs := by
    unfold readComma
    rw [dropBlanks_append hws]
  cases fields with
  | nil => simp only [readElements, hend]
  | cons f fields => simp only [readElements, hcomma, hend]

theorem readElements_step {p : Padding} {s : Setting} {settings : List Setting}
    {fields : List Field} {value rest rest' : List Char} (h : Value s value)
    (hrest : EndsNumeral rest) (hothers : readElements false fields rest = .ok (settings, rest'))
    (first : Bool) :
    readElements first (s.field :: fields) (lead first ++ (p.element value ++ rest)) =
      .ok (s :: settings, rest') := by
  have hvalue := readSetting_append h (endsNumeral_blanks p.blanks_after hrest)
  unfold readElements
  simp only [readComma_append (begins_of_grammar (grammar_of_value h)), hvalue,
    readElements_blanks fields p.blanks_after, hothers]

theorem readElements_append {settings : List Setting} {fields : List Field} {cs : List Char}
    (h : Elements settings cs) (hfields : settings.map Setting.field <+: fields) (first : Bool)
    (rest : List Char) :
    readElements first fields (lead first ++ (cs ++ ']' :: rest)) = .ok (settings, rest) := by
  induction h generalizing fields first with
  | last p hvalue =>
    obtain ⟨others, rfl⟩ := hfields
    exact readElements_step hvalue (endsNumeral_closing .array rest)
      (@readElements_closing false others [] nofun rest) first
  | comma p hvalue _ ih =>
    obtain ⟨others, rfl⟩ := hfields
    rw [List.append_assoc, List.cons_append]
    exact readElements_step hvalue (endsNumeral_comma _) (ih (List.prefix_append _ _) false) first

/-! ## Whole documents -/

theorem readToken_opening {ws : List Char} (hws : Blanks ws) (b : Bracket) (rest : List Char) :
    readToken (ws ++ b.opening :: rest) = .ok (.opening b, rest) := by
  unfold readToken
  rw [dropBlanks_append hws]
  cases b <;> rfl

theorem dropBlanks_all {ws : List Char} (h : Blanks ws) : dropBlanks ws = [] :=
  List.dropWhile_eq_nil_iff.2 (isBlank_of_blanks h)

/-- What is in a bracket, and its end. -/
def readItems : Bracket → List Char → Read (List Setting)
  | .array => readElements true Field.all
  | .object => readMembers [] true

theorem read_opening {ws : List Char} (hws : Blanks ws) (b : Bracket) (cs : List Char) :
    read (ws ++ b.opening :: cs) =
      match readItems b cs with
      | .error e => .error e
      | .ok (settings, rest) =>
        if dropBlanks rest = [] then .ok settings else .error .malformed := by
  unfold read
  simp only [readToken_opening hws]
  cases b <;> rfl

theorem read_bracket {before cs after : List Char} {b : Bracket} {settings : List Setting}
    (hbefore : Blanks before) (hitems : readItems b cs = .ok (settings, after))
    (hafter : Blanks after) : read (before ++ b.opening :: cs) = .ok settings := by
  rw [read_opening hbefore]
  simp only [hitems, dropBlanks_all hafter, if_true]

theorem read_objectGives {settings : List Setting} {cs : List Char} (h : ObjectGives settings cs) :
    read cs = .ok settings := by
  obtain ⟨hfields, hencloses⟩ := h
  cases hencloses with
  | @empty before inside after hbefore hinside hafter =>
    refine read_bracket hbefore ?_ hafter
    exact (readMembers_blanks [] true hinside _).trans (readMembers_closing [] true after)
  | @items _ before cs after hbefore hmembers hafter =>
    refine read_bracket hbefore ?_ hafter
    have hread := @readMembers_append _ [] _ _ hmembers hfields (endsNumeral_closing .object after)
    exact (hread true).trans (readMembers_closing settings false after)

theorem read_arrayGives {settings : List Setting} {cs : List Char} (h : ArrayGives settings cs) :
    read cs = .ok settings := by
  obtain ⟨hfields, hencloses⟩ := h
  cases hencloses with
  | @empty before inside after hbefore hinside hafter =>
    exact read_bracket hbefore (readElements_closing true _ hinside after) hafter
  | @items _ before cs after hbefore helements hafter =>
    exact read_bracket hbefore (readElements_append helements hfields true after) hafter

theorem read_repeats {cs : List Char} (h : Repeats cs) : read cs = .error .mistyped := by
  obtain ⟨hbefore, hfields, hmembers, hgiven, hws, hkey⟩ := h
  rename_i settings f before cs ws key rest
  have hread := @readMembers_append _ [] _ _ hmembers hfields
    (endsNumeral_comma (ws ++ '"' :: (key ++ '"' :: rest))) true
  have hrepeated := hread.trans (readMembers_repeated hgiven hws hkey rest)
  have hitems : readItems .object (cs ++ ',' :: (ws ++ '"' :: (key ++ '"' :: rest))) =
      .error .mistyped := hrepeated
  exact (read_opening hbefore .object _).trans (by simp only [hitems])

end Document

namespace Config

/-! ## Configurations -/

/-- What a configuration has for a field. -/
def setting (c : Config) : Field → Setting
  | .basePort => .basePort c.basePort
  | .irq => .irq c.irq
  | .sampleRate => .sampleRate c.sampleRate
  | .firmware => .firmware c.firmware

/-- The configuration has what is given, and the defaults for all else. -/
structure Overrides (c : Config) (settings : List Setting) : Prop where
  given : ∀ s ∈ settings, c.setting s.field = s
  default : ∀ f ∉ settings.map Setting.field, c.setting f = ({} : Config).setting f

/-- The configuration, unless no card can use it. -/
def checked (c : Config) : Except DocumentFault Config :=
  match c.validate with
  | .error e => .error (.unusable e)
  | .ok () => .ok c

theorem ext_setting {c d : Config} (h : ∀ f, c.setting f = d.setting f) : c = d := by
  have hport := Setting.basePort.inj (h .basePort)
  have hline := Setting.irq.inj (h .irq)
  have hrate := Setting.sampleRate.inj (h .sampleRate)
  have hpath := Setting.firmware.inj (h .firmware)
  cases c
  cases d
  simp only at hport hline hrate hpath
  rw [hport, hline, hrate, hpath]

theorem setting_set (c : Config) (s : Setting) (f : Field) :
    (c.set s).setting f = if f = s.field then s else c.setting f := by
  cases s <;> cases f <;> rfl

theorem setting_foldl_of_notMem (c : Config) {settings : List Setting} {f : Field}
    (h : f ∉ settings.map Setting.field) : (settings.foldl set c).setting f = c.setting f := by
  induction settings generalizing c with
  | nil => rfl
  | cons s settings ih =>
    rw [List.map_cons, List.mem_cons, not_or] at h
    obtain ⟨hne, hothers⟩ := h
    rw [List.foldl_cons, ih _ hothers, setting_set, if_neg hne]

theorem setting_foldl_of_mem (c : Config) {settings : List Setting}
    (hfields : (settings.map Setting.field).Nodup) {s : Setting} (h : s ∈ settings) :
    (settings.foldl set c).setting s.field = s := by
  induction settings generalizing c with
  | nil => exact absurd h List.not_mem_nil
  | cons s' settings ih =>
    obtain ⟨hnew, hothers⟩ := List.nodup_cons.1 hfields
    rw [List.foldl_cons]
    rcases List.mem_cons.1 h with rfl | hmem
    · rw [setting_foldl_of_notMem _ hnew, setting_set, if_pos rfl]
    · exact ih _ hothers hmem

theorem overrides_ofSettings {settings : List Setting}
    (hfields : (settings.map Setting.field).Nodup) : (ofSettings settings).Overrides settings where
  given _ hmem := setting_foldl_of_mem {} hfields hmem
  default _ hmem := setting_foldl_of_notMem {} hmem

theorem Overrides.unique {c d : Config} {settings others : List Setting}
    (hc : c.Overrides settings) (hd : d.Overrides others) (hperm : settings.Perm others) :
    c = d := by
  refine ext_setting fun f => ?_
  by_cases hf : f ∈ settings.map Setting.field
  · obtain ⟨s, hs, rfl⟩ := List.mem_map.1 hf
    rw [hc.given s hs, hd.given s (hperm.mem_iff.1 hs)]
  · rw [hc.default f hf, hd.default f ((hperm.map _).mem_iff.not.1 hf)]

theorem ofDocument_of_read {text : String} {settings : List Setting}
    (h : Document.read text.toList = .ok settings) :
    ofDocument text = (ofSettings settings).checked := by
  unfold ofDocument checked
  cases hvalid : (ofSettings settings).validate <;> simp only [h, hvalid]

theorem ofDocument_gives {settings : List Setting} {text : String}
    (h : Document.ObjectGives settings text.toList ∨ Document.ArrayGives settings text.toList) :
    (ofSettings settings).Overrides settings ∧
      ofDocument text = (ofSettings settings).checked := by
  rcases h with h | h
  · exact ⟨overrides_ofSettings h.1, ofDocument_of_read (Document.read_objectGives h)⟩
  · have hfields : (settings.map Setting.field).Nodup := h.1.sublist.nodup (by decide)
    exact ⟨overrides_ofSettings hfields, ofDocument_of_read (Document.read_arrayGives h)⟩

/-- A document that gives settings leads to the configuration that has them and the defaults for
the rest, if a card can use it. A name that repeats is a fault of the document's data. An array
gives what any object with the same settings gives. -/
theorem document_overrides_defaults :
    (∀ settings (text : String), Document.ObjectGives settings text.toList →
        ∃ c : Config, c.Overrides settings ∧ ofDocument text = c.checked) ∧
      (∀ text : String, Document.Repeats text.toList →
        ofDocument text = .error (.unreadable .mistyped)) ∧
      ∀ settings others (array object : String), settings.Perm others →
        Document.ArrayGives settings array.toList → Document.ObjectGives others object.toList →
          ofDocument array = ofDocument object := by
  refine ⟨fun settings text h => ⟨_, ofDocument_gives (.inl h)⟩, fun text h => ?_,
    fun settings others array object hperm harray hobject => ?_⟩
  · unfold ofDocument
    simp only [Document.read_repeats h]
  · obtain ⟨hc, hread⟩ := ofDocument_gives (.inr harray)
    obtain ⟨hd, hread'⟩ := ofDocument_gives (.inl hobject)
    rw [hread, hread', hc.unique hd hperm]

/-- An object with the name of a field inside a value that is passed over and, with an escape, as a
name of its own; an object that repeats the name; and an array. -/
theorem nested_and_escaped_names :
    (Document.ObjectGives [.irq 5]
        "\x7b\"x\": [\x7b\"irq\": 7\x7d], \"\\u0069rq\": 5\x7d".toList ∧
      ofDocument "\x7b\"x\": [\x7b\"irq\": 7\x7d], \"\\u0069rq\": 5\x7d" = .ok { irq := 5 }) ∧
    (Document.Repeats "\x7b\"irq\": 5, \"irq\": 6\x7d".toList ∧
      ofDocument "\x7b\"irq\": 5, \"irq\": 6\x7d" = .error (.unreadable .mistyped)) ∧
    Document.ArrayGives [.basePort 768, .irq 5] "[768, 5]".toList ∧
    Document.ObjectGives [.irq 5, .basePort 768]
      "\x7b\"irq\": 5, \"base_port\": 768\x7d".toList ∧
    ofDocument "[768, 5]" = ofDocument "\x7b\"irq\": 5, \"base_port\": 768\x7d" := by
  have hname (f : Field) : Denotes f.name f.name := denotes_self (by cases f <;> decide)
  have hescaped : Denotes "\\u0069rq".toList Field.irq.name := by
    have hdigit (n : Nat) (hn : n < 16) : HexDigit (hexDigit n) n := ⟨hn, .inl rfl⟩
    have hword := HexWord.digits (hdigit 0 (by decide)) (hdigit 0 (by decide))
      (hdigit 6 (by decide)) (hdigit 9 (by decide))
    exact .word hword (.inl (by decide)) (@denotes_self ['r', 'q'] (by decide))
  let first : Padding := { afterColon := [' '] }
  let later : Padding := { before := [' '], afterColon := [' '] }
  have hirq : Document.Member (some (.irq 5)) "\"irq\": 5".toList :=
    @Document.Member.known first (.irq 5) _ _ (hname .irq) (.irq 5)
  have hnested : Document.ObjectGives [.irq 5]
      "\x7b\"x\": [\x7b\"irq\": 7\x7d], \"\\u0069rq\": 5\x7d".toList := by
    have hinner : Grammar (.item .object) "\"irq\": 7".toList :=
      .member first (body_of_denotes (hname .irq)) (Document.grammar_toDigits 7)
    have hvalue : Grammar .value "[\x7b\"irq\": 7\x7d]".toList :=
      .bracket (.last (.element {} (.bracket (.last hinner))))
    have hother : ∀ f : Field, ['x'] ≠ f.name := by
      intro f
      cases f <;> decide
    have hmembers : Document.Members [.irq 5]
        "\"x\": [\x7b\"irq\": 7\x7d], \"\\u0069rq\": 5".toList :=
      .comma (.other first (@denotes_self ['x'] (by decide)) hother hvalue)
        (.last (@Document.Member.known later (.irq 5) _ _ hescaped (.irq 5)))
    exact ⟨by decide, @Document.Encloses.items _ _ _ [] _ [] nofun hmembers nofun⟩
  have hrepeats : Document.Repeats "\x7b\"irq\": 5, \"irq\": 6\x7d".toList :=
    @Document.Repeats.name [.irq 5] .irq [] _ [' '] _ ": 6\x7d".toList nofun (by decide)
      (.last hirq) (by decide) (by decide) (hname .irq)
  have helements : Document.Elements [.basePort 768, .irq 5] "768, 5".toList :=
    .comma {} (.basePort 768) (.last { before := [' '] } (.irq 5))
  have harray : Document.ArrayGives [.basePort 768, .irq 5] "[768, 5]".toList :=
    ⟨by decide, @Document.Encloses.items _ _ _ [] _ [] nofun helements nofun⟩
  have hmembers : Document.Members [.irq 5, .basePort 768]
      "\"irq\": 5, \"base_port\": 768".toList :=
    .comma hirq (.last
      (@Document.Member.known later (.basePort 768) _ _ (hname .basePort) (.basePort 768)))
  have hobject : Document.ObjectGives [.irq 5, .basePort 768]
      "\x7b\"irq\": 5, \"base_port\": 768\x7d".toList :=
    ⟨by decide, @Document.Encloses.items _ _ _ [] _ [] nofun hmembers nofun⟩
  obtain ⟨hgives, hrepeated, hsame⟩ := document_overrides_defaults
  obtain ⟨c, hc, hread⟩ := hgives _ _ hnested
  have hdefaults : ({ irq := 5 } : Config).Overrides [.irq 5] :=
    @overrides_ofSettings [.irq 5] (by decide)
  refine ⟨⟨hnested, ?_⟩, ⟨hrepeats, hrepeated _ hrepeats⟩, harray, hobject,
    hsame _ _ _ _ (List.Perm.swap _ _ []) harray hobject⟩
  rw [hread, hc.unique hdefaults (List.Perm.refl _)]
  rfl

end Config

end FeatureCard
