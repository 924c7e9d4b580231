import FeatureCard.Notice
import FeatureCard.Pattern.Meaning
import FeatureCard.Text.Blank

/-!
# Which lines of the log are shown

A filter is a list of rules with commas between them. A rule is a level, or the beginning of a
speaker's name, or both with an equals sign between them. For a line the longest beginning that
fits decides. Without any rule only errors are shown. After a slash a pattern may follow; then the
pattern has to occur in a line's text too.
-/

namespace FeatureCard.Renderer

structure LogRule where
  speaker : String := ""
  /-- The rank of the least important level shown; 0 shows nothing. -/
  rank : Nat
  deriving DecidableEq, Repr

def levelRanks : List (String × Nat) :=
  ("OFF", 0) :: [Level.error, .warn, .info, .debug, .trace].map fun l => (l.name, l.rank)

def rankOf? (text : String) : Option Nat :=
  levelRanks.lookup (String.ofList (text.toList.map Char.toUpper))

def allLevels : Nat := Level.trace.rank

inductive FilterFault where
  | notARule (part : String)
  | manySlashes (text : String)
  | badPattern (pattern : String) (fault : Pattern.Fault)
  deriving DecidableEq, Repr

def FilterFault.message : FilterFault → String
  | notARule part => s!"warning: invalid logging spec '{part}', ignoring it"
  | manySlashes text => s!"warning: invalid logging spec '{text}', ignoring it (too many '/'s)"
  | badPattern pattern fault => "warning: invalid regex filter - " ++ fault.report pattern

namespace LogRule

def ofText (text : String) : Except FilterFault LogRule :=
  match (text.toList.splitOn '=').map String.ofList with
  | [level] =>
    match rankOf? level with
    | some rank => .ok { rank }
    | none => .ok { speaker := level, rank := allLevels }
  | [speaker, level] =>
    let level := String.ofList (Text.trim level.toList)
    if level = "" then .ok { speaker, rank := allLevels }
    else
      match rankOf? level with
      | some rank => .ok { speaker, rank }
      | none => .error (.notARule level)
  | _ => .error (.notARule text)

def covers (r : LogRule) (speaker : String) : Bool :=
  r.speaker.toList.isPrefixOf speaker.toList

end LogRule

structure LogFilter where
  rules : List LogRule
  pattern : Option Pattern := none
  deriving DecidableEq, Repr

namespace LogFilter

/-- The only rule if there is no other: errors are shown. -/
def errorsOnly : LogRule := { rank := Level.error.rank }

/-- A later rule replaces an earlier one for the same beginning. -/
def insert (rules : List LogRule) (r : LogRule) : List LogRule :=
  rules.filter (·.speaker ≠ r.speaker) ++ [r]

def ruleTexts (text : List Char) : List String :=
  ((text.splitOn ',').map fun cs => String.ofList (Text.trim cs)).filter (· ≠ "")

def readRules (text : List Char) : List LogRule × List FilterFault :=
  let read := (ruleTexts text).map LogRule.ofText
  let good := read.filterMap fun
    | .ok r => some r
    | .error _ => none
  let bad := read.filterMap fun
    | .ok _ => none
    | .error fault => some fault
  (if good = [] then [errorsOnly] else good.foldl insert [], bad)

def ofText (text : String) : LogFilter × List FilterFault :=
  match text.toList.splitOn '/' with
  | [rules] =>
    let (rules, bad) := readRules rules
    ({ rules }, bad)
  | [rules, pattern] =>
    let (rules, bad) := readRules rules
    let pattern := String.ofList pattern
    match Pattern.ofText? pattern with
    | .ok p => ({ rules, pattern := some p }, bad)
    | .error fault => ({ rules }, bad ++ [.badPattern pattern fault])
  | _ => ({ rules := [errorsOnly] }, [.manySlashes text])

/-- The rule that decides on a speaker: the longest that covers it. -/
def deciding? (f : LogFilter) (speaker : String) : Option LogRule :=
  (f.rules.filter (·.covers speaker)).foldl
    (fun best r =>
      match best with
      | none => some r
      | some b => if b.speaker.length ≤ r.speaker.length then some r else some b)
    none

def shows (f : LogFilter) (line : LogLine) : Bool :=
  match f.deciding? line.speaker with
  | none => false
  | some r => decide (line.level.rank ≤ r.rank) && f.pattern.all (·.occursIn line.text)

end LogFilter

/-- How a line is shown: the level, filled up to five letters, the speaker and the text. Further
lines of the text are indented. -/
def LogLine.shown (line : LogLine) : String :=
  let level := line.level.name ++ String.ofList (List.replicate (5 - line.level.name.length) ' ')
  let text := "\n    ".intercalate ((line.text.toList.splitOn '\n').map String.ofList)
  "[" ++ level ++ " " ++ line.speaker ++ "] " ++ text

end FeatureCard.Renderer
