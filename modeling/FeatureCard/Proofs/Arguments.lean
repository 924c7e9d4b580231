import FeatureCard.Proofs.Latching
import FeatureCard.Proofs.SignedDouble
import FeatureCard.Renderer.Options

/-!
# What arguments say

Read from left to right, a list of arguments falls into items: an option with its value, be it
behind an equals sign or the argument that follows, a call for help, or a word that means nothing.
Each setting is as the last item left it that gives an acceptable value for it, and help is asked
for by every item that is no such value.
-/

namespace FeatureCard.Renderer

/-! ## Items -/

inductive Item where
  | help
  | setting (o : ValueOption) (value : String)
  | missing (o : ValueOption)
  | unknown (argument : String)
  | positional (argument : String)
  deriving DecidableEq, Repr

def AsksForHelp (argument : String) : Prop :=
  argument = "-h" ∨ argument = "--help" ∨ ∃ value, argument = "--help=" ++ value

/-- An option with its value in one argument. -/
def ValueOption.inline (o : ValueOption) (value : String) : String := o.flag ++ "=" ++ value

/-- The argument asks for no help and names no option. -/
structure Strange (argument : String) : Prop where
  help : ¬AsksForHelp argument
  flag : ∀ o : ValueOption, argument ≠ o.flag
  inline : ∀ (o : ValueOption) (value : String), argument ≠ o.inline value

/-- Arguments fall into items. Only the last argument can lack a value. -/
inductive Reads : List String → List Item → Prop
  | none : Reads [] []
  | help {argument : String} {rest : List String} {items : List Item} :
    AsksForHelp argument → Reads rest items → Reads (argument :: rest) (.help :: items)
  | inline (o : ValueOption) (value : String) {rest : List String} {items : List Item} :
    Reads rest items → Reads (o.inline value :: rest) (.setting o value :: items)
  | separate (o : ValueOption) (value : String) {rest : List String} {items : List Item} :
    Reads rest items → Reads (o.flag :: value :: rest) (.setting o value :: items)
  | missing (o : ValueOption) : Reads [o.flag] [.missing o]
  | unknown {argument : String} {rest : List String} {items : List Item} :
    Strange argument → argument.toList.head? = some '-' → Reads rest items →
      Reads (argument :: rest) (.unknown argument :: items)
  | positional {argument : String} {rest : List String} {items : List Item} :
    Strange argument → argument.toList.head? ≠ some '-' → Reads rest items →
      Reads (argument :: rest) (.positional argument :: items)

/-- What comes after these arguments is not the value of an option among them. -/
def Complete (arguments : List String) : Prop :=
  ∃ items, Reads arguments items ∧ ∀ o, .missing o ∉ items

/-! ## Single arguments -/

theorem ne_equals {cs : List Char} (h : '=' ∉ cs) : ∀ c ∈ cs, decide (c ≠ '=') = true := by
  intro c hc
  rw [decide_eq_true_iff]
  rintro rfl
  exact h hc

theorem splitValue_of_no_equals {argument : String} (h : '=' ∉ argument.toList) :
    splitValue argument = (argument, none) := by
  have hdrop : argument.toList.dropWhile (· ≠ '=') = [] :=
    List.dropWhile_eq_nil_iff.2 (ne_equals h)
  unfold splitValue
  simp only [hdrop]

theorem toList_cut {argument flag value : String} (hcut : argument = flag ++ "=" ++ value) :
    argument.toList = flag.toList ++ '=' :: value.toList := by
  simp [hcut]

theorem splitValue_cut {argument flag value : String} (hcut : argument = flag ++ "=" ++ value)
    (h : '=' ∉ flag.toList) :
    splitValue argument =
      if ['-', '-'].isPrefixOf flag.toList then (flag, some value) else (argument, none) := by
  have htake : argument.toList.takeWhile (· ≠ '=') = flag.toList := by
    rw [toList_cut hcut, List.takeWhile_append_of_pos (ne_equals h)]
    simp
  have hdrop : argument.toList.dropWhile (· ≠ '=') = '=' :: value.toList := by
    rw [toList_cut hcut, List.dropWhile_append_of_pos (ne_equals h)]
    simp
  unfold splitValue
  simp only [htake, hdrop, String.ofList_toList]

theorem exists_cut (argument : String) :
    '=' ∉ argument.toList ∨
      ∃ flag value, '=' ∉ flag.toList ∧ argument = flag ++ "=" ++ value := by
  by_cases h : '=' ∈ argument.toList
  · obtain ⟨flag, value, htext, hflag⟩ := List.eq_append_cons_of_mem h
    refine .inr ⟨String.ofList flag, String.ofList value, by rwa [String.toList_ofList], ?_⟩
    apply String.toList_injective
    simp [htext]
  · exact .inl h

theorem flag_no_equals (o : ValueOption) : '=' ∉ o.flag.toList := by
  cases o <;> decide

theorem flag_long (o : ValueOption) : ['-', '-'].isPrefixOf o.flag.toList = true := by
  cases o <;> rfl

theorem ofFlag?_flag (o : ValueOption) : ValueOption.ofFlag? o.flag = some o := by
  cases o <;> decide

theorem flag_ne_help (o : ValueOption) : ¬(o.flag = "--help" ∨ o.flag = "-h") := by
  cases o <;> decide

theorem ofFlag?_eq_none {flag : String} (h : ∀ o : ValueOption, flag ≠ o.flag) :
    ValueOption.ofFlag? flag = none := by
  apply List.find?_eq_none.2
  intro o _ heq
  exact h o (of_decide_eq_true heq).symm

theorem ofString_flag (o : ValueOption) : Argument.ofString o.flag = .option o none := by
  unfold Argument.ofString
  simp only [splitValue_of_no_equals (flag_no_equals o), if_neg (flag_ne_help o), ofFlag?_flag]

theorem ofString_inline (o : ValueOption) (value : String) :
    Argument.ofString (o.inline value) = .option o (some value) := by
  have hsplit : splitValue (o.inline value) = (o.flag, some value) := by
    rw [splitValue_cut (show o.inline value = o.flag ++ "=" ++ value from rfl) (flag_no_equals o),
      if_pos (flag_long o)]
  unfold Argument.ofString
  simp only [hsplit, if_neg (flag_ne_help o), ofFlag?_flag]

theorem ofString_help {argument : String} (h : AsksForHelp argument) :
    Argument.ofString argument = .help := by
  rcases h with rfl | rfl | ⟨value, rfl⟩
  · decide
  · decide
  · have hsplit : splitValue ("--help=" ++ value) = ("--help", some value) :=
      splitValue_cut (show "--help=" ++ value = "--help" ++ "=" ++ value from rfl) (by decide)
    unfold Argument.ofString
    simp only [hsplit]
    rfl

theorem ofString_of_split {argument flag : String} {value : Option String}
    (hsplit : splitValue argument = (flag, value)) (hhelp : ¬(flag = "--help" ∨ flag = "-h"))
    (hflag : ∀ o : ValueOption, flag ≠ o.flag) :
    Argument.ofString argument =
      if flag.toList.head? = some '-' then .unknown else .positional := by
  unfold Argument.ofString
  simp only [hsplit, if_neg hhelp, ofFlag?_eq_none hflag]

theorem ofString_strange {argument : String} (h : Strange argument) :
    Argument.ofString argument =
      if argument.toList.head? = some '-' then .unknown else .positional := by
  have hhelp : ¬(argument = "--help" ∨ argument = "-h") := fun hword =>
    h.help (hword.elim (fun hlong => .inr (.inl hlong)) .inl)
  rcases exists_cut argument with hno | ⟨flag, value, hno, hcut⟩
  · exact ofString_of_split (splitValue_of_no_equals hno) hhelp h.flag
  · have hsplit := splitValue_cut hcut hno
    by_cases hlong : ['-', '-'].isPrefixOf flag.toList = true
    · -- The flag begins as the argument does.
      have hne : flag.toList ≠ [] := by
        intro hnil
        rw [hnil] at hlong
        cases hlong
      have hhead : argument.toList.head? = flag.toList.head? := by
        rw [toList_cut hcut, List.head?_append_of_ne_nil _ hne]
      rw [if_pos hlong] at hsplit
      rw [hhead]
      refine ofString_of_split hsplit ?_ fun o heq => h.inline o value (hcut.trans (heq ▸ rfl))
      rintro (rfl | rfl)
      · exact h.help (.inr (.inr ⟨value, hcut⟩))
      · exact absurd hlong (by decide)
    · rw [if_neg hlong] at hsplit
      exact ofString_of_split hsplit hhelp h.flag

/-! ## Lists of arguments -/

/-- The items of a list, by the kind of each argument. -/
def itemsOf : List String → List Item
  | [] => []
  | argument :: rest =>
    match Argument.ofString argument with
    | .help => .help :: itemsOf rest
    | .unknown => .unknown argument :: itemsOf rest
    | .positional => .positional argument :: itemsOf rest
    | .option o (some value) => .setting o value :: itemsOf rest
    | .option o none =>
      match rest with
      | [] => [.missing o]
      | value :: rest => .setting o value :: itemsOf rest

theorem eq_itemsOf {arguments : List String} {items : List Item} (h : Reads arguments items) :
    items = itemsOf arguments := by
  induction h with
  | none => rfl
  | help hask _ ih =>
    unfold itemsOf
    simp only [ofString_help hask, ← ih]
  | inline o value _ ih =>
    unfold itemsOf
    simp only [ofString_inline, ← ih]
  | separate o value _ ih =>
    unfold itemsOf
    simp only [ofString_flag, ← ih]
  | missing o =>
    unfold itemsOf
    simp only [ofString_flag]
  | unknown hstrange hdash _ ih =>
    unfold itemsOf
    simp only [ofString_strange hstrange, if_pos hdash, ← ih]
  | positional hstrange hdash _ ih =>
    unfold itemsOf
    simp only [ofString_strange hstrange, if_neg hdash, ← ih]

/-- Every list falls into items: no argument is of two kinds or of none. -/
theorem exists_reads : ∀ arguments : List String, ∃ items, Reads arguments items
  | [] => ⟨[], .none⟩
  | argument :: rest => by
    obtain ⟨items, hrest⟩ := exists_reads rest
    by_cases hhelp : AsksForHelp argument
    · exact ⟨_, .help hhelp hrest⟩
    by_cases hinline : ∃ o value, argument = ValueOption.inline o value
    · obtain ⟨o, value, rfl⟩ := hinline
      exact ⟨_, .inline o value hrest⟩
    by_cases hflag : ∃ o : ValueOption, argument = o.flag
    · obtain ⟨o, rfl⟩ := hflag
      match rest with
      | [] => exact ⟨_, .missing o⟩
      | value :: rest =>
        obtain ⟨later, hlater⟩ := exists_reads rest
        exact ⟨_, .separate o value hlater⟩
    have hstrange : Strange argument :=
      ⟨hhelp, fun o heq => hflag ⟨o, heq⟩, fun o value heq => hinline ⟨o, value, heq⟩⟩
    by_cases hdash : argument.toList.head? = some '-'
    · exact ⟨_, .unknown hstrange hdash hrest⟩
    · exact ⟨_, .positional hstrange hdash hrest⟩

theorem reads_iff (arguments : List String) (items : List Item) :
    Reads arguments items ↔ items = itemsOf arguments := by
  refine ⟨eq_itemsOf, ?_⟩
  rintro rfl
  obtain ⟨items, hreads⟩ := exists_reads arguments
  rwa [← eq_itemsOf hreads]

theorem Reads.append {before after : List String} {items later : List Item}
    (h : Reads before items) (hvalues : ∀ o, .missing o ∉ items) (hlater : Reads after later) :
    Reads (before ++ after) (items ++ later) := by
  induction h with
  | none => exact hlater
  | missing o => exact absurd List.mem_cons_self (hvalues o)
  | help hask _ ih => exact .help hask (ih fun o hmem => hvalues o (.tail _ hmem))
  | inline o value _ ih => exact .inline o value (ih fun o hmem => hvalues o (.tail _ hmem))
  | separate o value _ ih => exact .separate o value (ih fun o hmem => hvalues o (.tail _ hmem))
  | unknown hstrange hdash _ ih =>
    exact .unknown hstrange hdash (ih fun o hmem => hvalues o (.tail _ hmem))
  | positional hstrange hdash _ ih =>
    exact .positional hstrange hdash (ih fun o hmem => hvalues o (.tail _ hmem))

/-! ## What an item does -/

def Parsed.take (p : Parsed) : Item → Parsed
  | .help => { p with options := p.options.wantHelp }
  | .setting o value => p.set o value
  | .missing o => p.complain (.missingValue o.flag)
  | .unknown argument => p.complain (.unknownFlag argument)
  | .positional argument => p.complain (.unexpected argument)

theorem read_eq_foldl (p : Parsed) (arguments : List String) :
    p.read arguments = (itemsOf arguments).foldl Parsed.take p := by
  fun_induction Parsed.read p arguments with
  | case1 => rfl
  | case2 p argument rest hkind ih | case3 p argument rest hkind ih
  | case4 p argument rest hkind ih | case5 p argument rest o value hkind ih =>
    unfold itemsOf
    simp only [hkind, List.foldl_cons]
    exact ih
  | case6 p argument o hkind =>
    unfold itemsOf
    simp only [hkind]
    rfl
  | case7 p argument o hkind value rest ih =>
    unfold itemsOf
    simp only [hkind, List.foldl_cons]
    exact ih

/-- The value is one for this option: a word of 32 bits for a rate, a positive finite double for a
length of time, and any text for the others. -/
def ValueOption.Accepts (o : ValueOption) (value : String) : Prop :=
  match o with
  | .rate => (Text.word32? value.toList).isSome = true
  | .seconds => ((Decimal.double? value.toList).filter Decimal.isPositive).isSome = true
  | .config | .rom | .midi | .out => True

namespace Item

def value? (o : ValueOption) : Item → Option String
  | .setting o' value => if o' = o then some value else none
  | .help | .missing _ | .unknown _ | .positional _ => none

def rate? (i : Item) : Option UInt32 := (i.value? .rate).bind (Text.word32? ·.toList)

def seconds? (i : Item) : Option Float :=
  (i.value? .seconds).bind fun value => (Decimal.double? value.toList).filter Decimal.isPositive

/-- The item is anything but an option with an acceptable value. -/
def Faulty : Item → Prop
  | .setting o value => ¬o.Accepts value
  | .help | .missing _ | .unknown _ | .positional _ => True

end Item

/-- The options `q` are the options `p` with what an item says. -/
structure Changed (p q : Options) (i : Item) : Prop where
  config : q.config = (i.value? .config).or p.config
  rom : q.rom = (i.value? .rom).or p.rom
  rate : q.rate = i.rate?.or p.rate
  seconds : q.seconds = i.seconds?.getD p.seconds
  midi : q.midi = (i.value? .midi).or p.midi
  out : q.out = (i.value? .out).getD p.out
  help : q.help = true ↔ p.help = true ∨ i.Faulty

theorem Item.Faulty.not_accepts {i : Item} (h : i.Faulty) {o : ValueOption} {value : String}
    (hvalue : i.value? o = some value) : ¬o.Accepts value := by
  cases i with
  | setting o' value' =>
    obtain ⟨rfl, hsame⟩ := Option.ite_none_right_eq_some.1 hvalue
    exact Option.some.inj hsame ▸ h
  | help | missing o | unknown argument | positional argument => cases hvalue

theorem changed_wantHelp (p : Options) {i : Item} (h : i.Faulty) : Changed p p.wantHelp i := by
  have hnone {o : ValueOption} (haccepts : ∀ value, o.Accepts value) : i.value? o = none :=
    Option.eq_none_iff_forall_ne_some.2 fun value heq => h.not_accepts heq (haccepts value)
  have hrate : i.rate? = none :=
    Option.bind_eq_none_iff.2 fun _ heq => Option.not_isSome_iff_eq_none.1 (h.not_accepts heq)
  have hseconds : i.seconds? = none :=
    Option.bind_eq_none_iff.2 fun _ heq => Option.not_isSome_iff_eq_none.1 (h.not_accepts heq)
  constructor
  case config | rom | midi | out =>
    rw [hnone]
    · rfl
    · exact fun _ => trivial
  case rate =>
    rw [hrate]
    rfl
  case seconds =>
    rw [hseconds]
    rfl
  case help => exact iff_of_true rfl (.inr h)

theorem changed_set (p : Parsed) (o : ValueOption) (value : String) :
    Changed p.options (p.set o value).options (.setting o value) := by
  by_cases haccepts : o.Accepts value
  · cases o with
    | config | rom | midi | out =>
      constructor <;>
        simp [Parsed.set, Options.set, Item.value?, Item.rate?, Item.seconds?, Item.Faulty,
          haccepts]
    | rate =>
      obtain ⟨rate, hrate⟩ := Option.isSome_iff_exists.1 haccepts
      constructor <;>
        simp [Parsed.set, Options.set, Item.value?, Item.rate?, Item.seconds?, Item.Faulty,
          haccepts, hrate]
    | seconds =>
      obtain ⟨seconds, hseconds⟩ := Option.isSome_iff_exists.1 haccepts
      have hread := (Decimal.positive?_eq value.toList).trans hseconds
      constructor <;>
        simp [Parsed.set, Options.set, Item.value?, Item.rate?, Item.seconds?, Item.Faulty,
          haccepts, hread, hseconds]
  · have hcomplains : ∃ c, p.set o value = p.complain c := by
      cases o with
      | config | rom | midi | out => exact absurd trivial haccepts
      | rate =>
        have hnone : Text.word32? value.toList = none := Option.not_isSome_iff_eq_none.1 haccepts
        exact ⟨.badRate value, by simp [Parsed.set, Options.set, hnone]⟩
      | seconds =>
        have hnone : Decimal.positive? value.toList = none := by
          rw [Decimal.positive?_eq]
          exact Option.not_isSome_iff_eq_none.1 haccepts
        exact ⟨.badDuration value, by simp [Parsed.set, Options.set, hnone]⟩
    obtain ⟨c, hc⟩ := hcomplains
    rw [hc]
    exact changed_wantHelp p.options haccepts

theorem changed_take (p : Parsed) (i : Item) : Changed p.options (p.take i).options i := by
  cases i with
  | help | missing o | unknown argument | positional argument =>
    exact changed_wantHelp p.options trivial
  | setting o value => exact changed_set p o value

/-! ## What all items say -/

/-- Each setting is as the last item left it that gives an acceptable value for it, and help is
asked for by every item that gives none. -/
structure OptionsFollow (items : List Item) (p : Options) : Prop where
  config : p.config = latest? (Item.value? .config) items
  rom : p.rom = latest? (Item.value? .rom) items
  rate : p.rate = latest? Item.rate? items
  seconds : p.seconds = (latest? Item.seconds? items).getD 5.0
  midi : p.midi = latest? (Item.value? .midi) items
  out : p.out = (latest? (Item.value? .out) items).getD "imfc.wav"
  help : p.help = true ↔ ∃ i ∈ items, i.Faulty

theorem optionsFollow_concat {items : List Item} {p q : Options} {i : Item}
    (h : OptionsFollow items p) (hchanged : Changed p q i) : OptionsFollow (items ++ [i]) q := by
  constructor
  case config => rw [hchanged.config, h.config, latest?_concat]
  case rom => rw [hchanged.rom, h.rom, latest?_concat]
  case rate => rw [hchanged.rate, h.rate, latest?_concat]
  case seconds => rw [hchanged.seconds, h.seconds, latest?_concat, Option.getD_or]
  case midi => rw [hchanged.midi, h.midi, latest?_concat]
  case out => rw [hchanged.out, h.out, latest?_concat, Option.getD_or]
  case help =>
    rw [hchanged.help, h.help]
    simp [or_and_right, exists_or]

theorem optionsFollow_foldl (items : List Item) :
    OptionsFollow items (items.foldl Parsed.take {}).options := by
  induction items using List.reverseRecOn with
  | nil => constructor <;> simp [latest?]
  | append_singleton items i ih =>
    rw [List.foldl_append]
    exact optionsFollow_concat ih (changed_take _ i)

/-- Every list of arguments falls into items in one way, and the options are what the items say. A
value may as well be behind an equals sign, whatever it is. -/
theorem options_follow_arguments (arguments : List String) :
    ∃ items, (∀ other, Reads arguments other ↔ other = items) ∧
      OptionsFollow items (parse arguments).options ∧
      ∀ before o value after, arguments = before ++ ValueOption.flag o :: value :: after →
        Complete before → parse (before ++ o.inline value :: after) = parse arguments := by
  refine ⟨itemsOf arguments, reads_iff arguments, ?_, ?_⟩
  · rw [parse, read_eq_foldl]
    exact optionsFollow_foldl _
  · rintro before o value after rfl ⟨items, hreads, hvalues⟩
    obtain ⟨later, hlater⟩ := exists_reads after
    have hinline := hreads.append hvalues (.inline o value hlater)
    have hseparate := hreads.append hvalues (.separate o value hlater)
    rw [parse, parse, read_eq_foldl, read_eq_foldl, ← eq_itemsOf hinline, ← eq_itemsOf hseparate]

/-- A rate behind an equals sign, after an option that has its value. -/
theorem rate_behind_equals :
    Complete ["--out", "--rate"] ∧
      parse ["--out", "--rate", "--rate=48000"] = parse ["--out", "--rate", "--rate", "48000"] := by
  have hinline : ValueOption.rate.inline "48000" = "--rate=48000" := by decide
  have hcomplete : Complete ["--out", "--rate"] :=
    ⟨itemsOf ["--out", "--rate"], (reads_iff _ _).2 rfl, by intro o; cases o <;> decide⟩
  obtain ⟨-, -, -, hsame⟩ := options_follow_arguments ["--out", "--rate", "--rate", "48000"]
  have hparse := hsame ["--out", "--rate"] .rate "48000" [] rfl hcomplete
  rw [hinline] at hparse
  exact ⟨hcomplete, hparse⟩

end FeatureCard.Renderer
