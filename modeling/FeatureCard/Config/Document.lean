import FeatureCard.Config.Basic
import FeatureCard.Json.Skip

/-!
# Settings as a document

The settings are written as a JSON object with four members. Read, the object may name any of them
in any order, each at most once; other members are passed over. An array gives the values in their
order, and may stop early. A setting that is not given keeps its default.
-/

namespace FeatureCard

open Json

inductive Field where
  | basePort
  | irq
  | sampleRate
  | firmware
  deriving DecidableEq, Repr

namespace Field

def all : List Field := [basePort, irq, sampleRate, firmware]

def name : Field → List Char
  | basePort => "base_port".toList
  | irq => "irq".toList
  | sampleRate => "sample_rate".toList
  | firmware => "firmware".toList

def ofName? (name : List Char) : Option Field := all.find? fun f => f.name = name

end Field

inductive Setting where
  | basePort (port : UInt16)
  | irq (line : UInt8)
  | sampleRate (rate : UInt32)
  | firmware (path : Option String)
  deriving DecidableEq, Repr

def Setting.field : Setting → Field
  | basePort _ => .basePort
  | irq _ => .irq
  | sampleRate _ => .sampleRate
  | firmware _ => .firmware

def Config.set (c : Config) : Setting → Config
  | .basePort port => { c with basePort := port }
  | .irq line => { c with irq := line }
  | .sampleRate rate => { c with sampleRate := rate }
  | .firmware path => { c with firmware := path }

def Config.ofSettings (settings : List Setting) : Config := settings.foldl Config.set {}

namespace Document

/-! ## Values -/

def natural (limit : Nat) : Token → Except ReadFault Nat
  | .number n =>
    match n.natural? with
    | some v => if v < limit then .ok v else .error .mistyped
    | none => .error .mistyped
  | _ => .error .mistyped

def path : Token → Except ReadFault (Option String)
  | .null => .ok none
  | .text t => .ok (some (String.ofList t))
  | _ => .error .mistyped

def settingOf (f : Field) (t : Token) : Except ReadFault Setting :=
  match f with
  | .basePort => (natural 0x10000 t).map fun v => .basePort v.toUInt16
  | .irq => (natural 0x100 t).map fun v => .irq v.toUInt8
  | .sampleRate => (natural word32 t).map fun v => .sampleRate v.toUInt32
  | .firmware => (path t).map .firmware

def readSetting (f : Field) (cs : List Char) : Read Setting :=
  match readToken cs with
  | .error e => .error e
  | .ok (t, rest) =>
    match settingOf f t with
    | .error e => .error e
    | .ok s => .ok (s, rest)

/-! ## Objects -/

/-- The name of the next member, or nothing if the object ends. Between members there is a comma. -/
def readName (first : Bool) (cs : List Char) : Read (Option (List Char)) :=
  match dropBlanks cs with
  | [] => .error .unfinished
  | c :: rest =>
    if c = '\x7d' then .ok (none, rest)
    else if first then quoted (c :: rest)
    else if c = ',' then quoted (dropBlanks rest)
    else .error .malformed
where
  quoted : List Char → Read (Option (List Char))
    | [] => .error .unfinished
    | c :: rest =>
      if c = '"' then
        match readString rest with
        | .error e => .error e
        | .ok (name, rest) => .ok (some name, rest)
      else .error .malformed

def skipColon (cs : List Char) : Skip :=
  match dropBlanks cs with
  | [] => .error .unfinished
  | c :: rest => if c = ':' then .ok rest else .error .malformed

/-- A member after its name: a setting, or nothing if the name is no field's. `given` holds the
settings before it; none may be given twice. -/
def readMember (given : List Setting) (name : List Char) (cs : List Char) : Read (Option Setting) :=
  match Field.ofName? name with
  | some f =>
    if f ∈ given.map Setting.field then .error .mistyped
    else
      match skipColon cs with
      | .error e => .error e
      | .ok rest =>
        match readSetting f rest with
        | .error e => .error e
        | .ok (s, rest) => .ok (some s, rest)
  | none =>
    match skipColon cs with
    | .error e => .error e
    | .ok rest =>
      match skipValue rest with
      | .error e => .error e
      | .ok rest => .ok (none, rest)

theorem readSetting_length {f : Field} {cs rest : List Char} {s : Setting}
    (h : readSetting f cs = .ok (s, rest)) : rest.length < cs.length := by
  unfold readSetting at h
  split at h
  · simp at h
  · rename_i ht
    split at h
    · simp at h
    · simp only [Except.ok.injEq, Prod.mk.injEq] at h
      exact h.2 ▸ readToken_length ht

theorem quoted_length {cs rest : List Char} {name : Option (List Char)}
    (h : readName.quoted cs = .ok (name, rest)) : rest.length < cs.length := by
  unfold readName.quoted at h
  split at h
  · simp at h
  · split at h
    · split at h
      · simp at h
      · rename_i hs
        have := readString_length hs
        simp only [Except.ok.injEq, Prod.mk.injEq] at h
        simp only [List.length_cons, ← h.2]
        omega
    · simp at h

theorem readName_length {first : Bool} {cs rest : List Char} {name : Option (List Char)}
    (h : readName first cs = .ok (name, rest)) : rest.length < cs.length := by
  unfold readName at h
  have hb := dropBlanks_length cs
  split at h
  · simp at h
  · rename_i c r hd
    rw [hd] at hb
    simp only [List.length_cons] at hb
    split at h
    · simp only [Except.ok.injEq, Prod.mk.injEq] at h
      simp only [← h.2]
      omega
    · split at h
      · have := quoted_length h
        simp only [List.length_cons] at this
        omega
      · split at h
        · have h1 := quoted_length h
          have h2 := dropBlanks_length r
          omega
        · simp at h

theorem skipColon_length {cs rest : List Char} (h : skipColon cs = .ok rest) :
    rest.length < cs.length := by
  unfold skipColon at h
  have hb := dropBlanks_length cs
  split at h
  · simp at h
  · rename_i hd
    rw [hd] at hb
    simp only [List.length_cons] at hb
    split at h
    · simp only [Except.ok.injEq] at h
      simp only [← h]
      omega
    · simp at h

theorem readMember_length {given : List Setting} {name cs rest : List Char} {s : Option Setting}
    (h : readMember given name cs = .ok (s, rest)) : rest.length < cs.length := by
  unfold readMember at h
  split at h
  · split at h
    · simp at h
    · split at h
      · simp at h
      · rename_i hc
        have := skipColon_length hc
        split at h
        · simp at h
        · rename_i hs
          have := readSetting_length hs
          simp only [Except.ok.injEq, Prod.mk.injEq] at h
          simp only [← h.2]
          omega
  · split at h
    · simp at h
    · rename_i hc
      have := skipColon_length hc
      split at h
      · simp at h
      · rename_i hs
        have := skipValue_length hs
        simp only [Except.ok.injEq, Prod.mk.injEq] at h
        simp only [← h.2]
        omega

/-- The rest of an object. The answer holds the settings given before and those read now. -/
def readMembers (given : List Setting) (first : Bool) (cs : List Char) : Read (List Setting) :=
  match _hn : readName first cs with
  | .error e => .error e
  | .ok (none, rest) => .ok (given, rest)
  | .ok (some name, rest) =>
    match _hm : readMember given name rest with
    | .error e => .error e
    | .ok (s, rest) => readMembers (given ++ s.toList) false rest
termination_by cs.length
decreasing_by
  exact Nat.lt_trans (readMember_length _hm) (readName_length _hn)

/-! ## Arrays -/

/-- The text before the next element: the rest of the text, or nothing if the array ends. Between
elements there is a comma. -/
def readComma (first : Bool) (cs : List Char) : Except ReadFault (Option (List Char)) :=
  match dropBlanks cs with
  | [] => .error .unfinished
  | c :: rest =>
    if c = ']' then .ok none
    else if first then .ok (some (c :: rest))
    else if c = ',' then
      match dropBlanks rest with
      | [] => .error .unfinished
      | c :: rest => if c = ']' then .error .malformed else .ok (some (c :: rest))
    else .error .malformed

def skipEnd (cs : List Char) : Skip :=
  match dropBlanks cs with
  | [] => .error .unfinished
  | c :: rest => if c = ']' then .ok rest else .error .malformed

/-- The rest of an array, one value for each of `fields` or fewer. -/
def readElements (first : Bool) : List Field → List Char → Read (List Setting)
  | [], cs =>
    match skipEnd cs with
    | .error e => .error e
    | .ok rest => .ok ([], rest)
  | f :: fields, cs =>
    match readComma first cs with
    | .error e => .error e
    | .ok none =>
      match skipEnd cs with
      | .error e => .error e
      | .ok rest => .ok ([], rest)
    | .ok (some rest) =>
      match readSetting f rest with
      | .error e => .error e
      | .ok (s, rest) =>
        match readElements false fields rest with
        | .error e => .error e
        | .ok (settings, rest) => .ok (s :: settings, rest)

/-! ## Documents -/

def read (cs : List Char) : Except ReadFault (List Setting) :=
  match readToken cs with
  | .error e => .error e
  | .ok (.opening b, rest) =>
    match (match b with
      | .array => readElements true Field.all rest
      | .object => readMembers [] true rest) with
    | .error e => .error e
    | .ok (settings, rest) => if dropBlanks rest = [] then .ok settings else .error .malformed
  | .ok _ => .error .mistyped

end Document

inductive DocumentFault where
  | unreadable (fault : ReadFault)
  | unusable (fault : ConfigFault)
  deriving DecidableEq, Repr

namespace Config

def ofDocument (text : String) : Except DocumentFault Config :=
  match Document.read text.toList with
  | .error e => .error (.unreadable e)
  | .ok settings =>
    match (ofSettings settings).validate with
    | .error e => .error (.unusable e)
    | .ok () => .ok (ofSettings settings)

/-! ## Writing -/

def member (f : Field) (value : List Char) : List Char :=
  ' ' :: ' ' :: quote f.name ++ ':' :: ' ' :: value

def toDocument (c : Config) : List Char :=
  '\x7b' :: '\n' ::
    List.intercalate [',', '\n']
      [member .basePort (Nat.toDigits 10 c.basePort.toNat),
        member .irq (Nat.toDigits 10 c.irq.toNat),
        member .sampleRate (Nat.toDigits 10 c.sampleRate.toNat),
        member .firmware ((c.firmware.map (quote ·.toList)).getD ['n', 'u', 'l', 'l'])] ++
    ['\n', '\x7d']

end Config

end FeatureCard
