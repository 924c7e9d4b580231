import FeatureCard.Pattern.Draft
import FeatureCard.Pattern.Reading
import FeatureCard.Pattern.Size

/-!
# What written patterns describe

A flag holds from where it is set to the end of its group. Without the flag for Unicode a sign
stands for one byte; signs that would take characters apart are refused then. With it, what would
need to know the letters of all scripts is refused.
-/

namespace FeatureCard.Pattern

structure Scope where
  anyCase : Bool := false
  lines : Bool := false
  anyChar : Bool := false
  lazy : Bool := false
  unicode : Bool := true
  anyLine : Bool := false
  deriving DecidableEq, Repr

namespace Scope

def set (s : Scope) : Flag × Bool → Scope
  | (.anyCase, on) => { s with anyCase := on }
  | (.lines, on) => { s with lines := on }
  | (.anyChar, on) => { s with anyChar := on }
  | (.unicode, on) => { s with unicode := on }
  | (.anyLine, on) => { s with anyLine := on }
  | (.lazy, on) => { s with lazy := on }
  | (.spaced, _) => s

def setAll (s : Scope) (fs : Flags) : Scope := fs.foldl set s

end Scope

/-! ## Sets -/

def Scope.close (s : Scope) (span : Span) (d : Draft) : Except Fault Draft :=
  if !s.anyCase then .ok d
  else if s.unicode then
    match d.close? with
    | some d => .ok d
    | none => fail .noCaseData span
  else .ok d.closeAscii

def Scope.finish (s : Scope) (negated : Bool) (span : Span) (d : Draft) : Except Fault Draft := do
  let d ← s.close span d
  if !negated then return d
  else if s.unicode then return d.complement
  else fail .brokenChars span

def Scope.member (s : Scope) (x : Char × Bool) (span : Span) : Except Fault Char :=
  if s.unicode || x.1.toNat < 0x80 then .ok x.1
  else fail (if x.2 then .brokenChars else .notInBytes) span

def Shorthand.posix : Shorthand → Posix
  | digit => .digit
  | space => .space
  | word => .word

def Scope.shorthand (s : Scope) (h : Shorthand) (negated : Bool) (span : Span) :
    Except Fault CharSet :=
  if s.unicode then fail .noWordData span
  else if negated then fail .brokenChars span
  else .ok h.posix.set

/-- The short names of properties that are also names of values. -/
def valueNames : List String := ["cf", "sc", "lc"]

/-- A name in ASCII and small letters, without blanks, hyphens and a first "is". -/
def plainName (name : List Char) : String :=
  let isFirst := (name.take 2).map Char.toLower == ['i', 's']
  String.ofList <| ((if isFirst then name.drop 2 else name).filter fun c =>
    c.toNat < 0x80 && c ≠ ' ' && c ≠ '_' && c ≠ '-').map Char.toLower

/-- What is wrong with a property: none is known. A name that could be that of a value is looked for
among values. -/
def propertyTrouble (name : Option (List Char)) : Trouble :=
  if name.any (plainName · ∈ valueNames) then .unknownPropertyValue else .unknownProperty

def Scope.property (s : Scope) (name : Option (List Char)) (span : Span) : Except Fault CharSet :=
  fail (if s.unicode then propertyTrouble name else .notInBytes) span

def SetOperation.apply : SetOperation → Draft → Draft → Draft
  | inter => .inter
  | diff => .diff
  | symmDiff => .symmDiff

mutual

def SetTree.addTo (scope : Scope) (d : Draft) : SetTree → Except Fault Draft
  | .empty _ => .ok d
  | .letter c byte span => do
    let c ← scope.member (c, byte) span
    return d.add c c
  | .range first last firstSpan lastSpan => do
    return d.add (← scope.member first firstSpan) (← scope.member last lastSpan)
  | .posix p negated span => do return d.union (← scope.finish negated span (.ofSet p.set))
  | .shorthand h negated span => do return d.union (.ofSet (← scope.shorthand h negated span))
  | .property name span => do return d.union (.ofSet (← scope.property name span))
  | .bracket negated inner span => do
    return d.union (← scope.finish negated span (← inner.addTo scope {}))
  | .union items _ => SetTree.addAllTo scope d items
  | .combine op s t _ => do
    let first ← s.addTo scope {}
    let second ← t.addTo scope {}
    let second ← scope.close t.span second
    let first ← scope.close s.span first
    return d.union (op.apply first second)

def SetTree.addAllTo (scope : Scope) (d : Draft) : List SetTree → Except Fault Draft
  | [] => .ok d
  | t :: ts => do SetTree.addAllTo scope (← t.addTo scope d) ts

end

def Scope.bracket (s : Scope) (negated : Bool) (inner : SetTree) (span : Span) :
    Except Fault CharSet := do
  return (← s.finish negated span (← inner.addTo s {})).set

/-! ## Signs -/

def Scope.point (s : Scope) : CharSet :=
  if s.anyChar then .all
  else if s.anyLine then (CharSet.ofChars ['\n', '\x0d']).complement
  else (CharSet.single '\n').complement

def Scope.lineStart (s : Scope) : Look :=
  if !s.lines then .textStart else if s.anyLine then .anyLineStart else .lineStart

def Scope.lineEnd (s : Scope) : Look :=
  if !s.lines then .textEnd else if s.anyLine then .anyLineEnd else .lineEnd

def Scope.letter (s : Scope) (c : Char) (byte : Bool) (span : Span) : Except Fault Pattern :=
  if !s.unicode && byte && 0x80 ≤ c.toNat then fail .brokenChars span
  else if !s.anyCase then .ok (.text [c])
  else if s.unicode then fail .noCaseData span
  else .ok (.ofSet (CharSet.single c).bothCases)

def Sign.meaning (scope : Scope) (span : Span) : Sign → Except Fault Pattern
  | letter c byte => scope.letter c byte span
  | point => if scope.unicode then .ok (.ofSet scope.point) else fail .brokenChars span
  | lineStart => .ok (.look scope.lineStart)
  | lineEnd => .ok (.look scope.lineEnd)
  | textStart => .ok (.look .textStart)
  | textEnd => .ok (.look .textEnd)
  | word e => .ok (.look (.word e scope.unicode))
  | shorthand s negated => (scope.shorthand s negated span).map .ofSet
  | property name => (scope.property name span).map .ofSet

/-! ## Trees -/

mutual

/-- The pattern of a tree, and the flags that hold after it. -/
def Tree.meaning (scope : Scope) : Tree → Except Fault (Pattern × Scope)
  | .empty _ => .ok (.empty, scope)
  | .sign s span => do return (← s.meaning scope span, scope)
  | .bracket negated inner span => do return (.ofSet (← scope.bracket negated inner span), scope)
  | .flags fs _ => .ok (.empty, scope.setAll fs)
  | .group index fs body _ => do
    let (p, _) ← body.meaning (scope.setAll fs)
    match index with
    | some i => return (.group i p, scope)
    | none => return (p, scope)
  | .seq items _ => do
    let (ps, scope) ← Tree.meanings scope items
    return (.sequence ps, scope)
  | .alt choices _ => do
    let (ps, scope) ← Tree.meanings scope choices
    return (.choice ps, scope)
  | .times least most lazy body _ => do
    let (p, scope) ← body.meaning scope
    return (.repeated least most (lazy != scope.lazy) p, scope)

/-- The patterns of trees, each with the flags that hold after those before. -/
def Tree.meanings (scope : Scope) : List Tree → Except Fault (List Pattern × Scope)
  | [] => .ok ([], scope)
  | t :: ts => do
    let (p, scope) ← t.meaning scope
    let (ps, scope) ← Tree.meanings scope ts
    return (p :: ps, scope)

end

def ofText? (text : String) : Except Fault Pattern := do
  let tree ← Tree.ofText? text
  let (p, _) ← tree.meaning {}
  p.checked

end FeatureCard.Pattern
