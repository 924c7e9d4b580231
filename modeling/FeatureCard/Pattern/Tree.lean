import FeatureCard.Pattern.Basic
import FeatureCard.Pattern.Fault

/-!
# Written patterns

A pattern as it is written: what stands where, before flags give it a meaning.
-/

namespace FeatureCard.Pattern

inductive Shorthand where
  | digit
  | space
  | word
  deriving DecidableEq, Repr

inductive Flag where
  | anyCase
  /-- The signs for the ends of the text stand for the ends of lines. -/
  | lines
  | anyChar
  /-- Repetitions prefer few rounds. -/
  | lazy
  | unicode
  | anyLine
  | spaced
  deriving DecidableEq, Repr

abbrev Flags := List (Flag × Bool)

inductive Sign where
  /-- A character; `byte` if it is written as a byte in two hexadecimal digits. -/
  | letter (c : Char) (byte : Bool)
  | point
  | lineStart
  | lineEnd
  | textStart
  | textEnd
  | word (e : WordEdge)
  | shorthand (s : Shorthand) (negated : Bool)
  | property (name : Option (List Char))
  deriving DecidableEq, Repr

inductive SetOperation where
  | inter
  | diff
  | symmDiff
  deriving DecidableEq, Repr

inductive SetTree where
  | empty (span : Span)
  | letter (c : Char) (byte : Bool) (span : Span)
  | range (first last : Char × Bool) (firstSpan lastSpan : Span)
  | posix (p : Posix) (negated : Bool) (span : Span)
  | shorthand (s : Shorthand) (negated : Bool) (span : Span)
  | property (name : Option (List Char)) (span : Span)
  | bracket (negated : Bool) (inner : SetTree) (span : Span)
  | union (items : List SetTree) (span : Span)
  | combine (op : SetOperation) (s t : SetTree) (span : Span)
  deriving Repr

namespace SetTree

def span : SetTree → Span
  | empty span | letter _ _ span | posix _ _ span | shorthand _ _ span | property _ span
  | bracket _ _ span | union _ span | combine _ _ _ span => span
  | range _ _ first last => ⟨first.start, last.stop⟩

/-- Items put together. The last comes first in the list. Without any, it is empty at `place`. -/
def ofItems (place : Nat) (items : List SetTree) : SetTree :=
  match items.reverse with
  | [] => empty ⟨place, place⟩
  | [t] => t
  | t :: rest => union (t :: rest) ⟨t.span.start, (rest.getLastD t).span.stop⟩

end SetTree

inductive Tree where
  | empty (span : Span)
  | sign (s : Sign) (span : Span)
  | bracket (negated : Bool) (inner : SetTree) (span : Span)
  | flags (fs : Flags) (span : Span)
  | group (index : Option Nat) (fs : Flags) (body : Tree) (span : Span)
  | seq (items : List Tree) (span : Span)
  | alt (choices : List Tree) (span : Span)
  | times (least : Nat) (most : Option Nat) (lazy : Bool) (body : Tree) (span : Span)
  deriving Repr

namespace Tree

def span : Tree → Span
  | empty span | sign _ span | bracket _ _ span | flags _ span | group _ _ _ span | seq _ span
  | alt _ span | times _ _ _ _ span => span

def sequence (span : Span) : List Tree → Tree
  | [] => empty span
  | [t] => t
  | ts => seq ts.reverse span

def choice (span : Span) : List Tree → Tree
  | [] => empty span
  | [t] => t
  | ts => alt ts.reverse span

end Tree

/-! ## Depth -/

mutual

/-- The first part of a set, in the order of the text, that lies deeper than `left` parts allow. -/
def SetTree.tooDeep? : SetTree → (left : Nat) → Option Span
  | .bracket _ _ span, 0 | .union _ span, 0 | .combine _ _ _ span, 0 => some span
  | .bracket _ inner _, left + 1 => inner.tooDeep? left
  | .union items _, left + 1 => SetTree.anyTooDeep? items left
  | .combine _ s t _, left + 1 => s.tooDeep? left <|> t.tooDeep? left
  | .empty _, _ | .letter _ _ _, _ | .range _ _ _ _, _ | .posix _ _ _, _ | .shorthand _ _ _, _
  | .property _ _, _ => none

def SetTree.anyTooDeep? : List SetTree → (left : Nat) → Option Span
  | [], _ => none
  | t :: ts, left => t.tooDeep? left <|> SetTree.anyTooDeep? ts left

end

mutual

def Tree.tooDeep? : Tree → (left : Nat) → Option Span
  | .bracket _ _ span, 0 | .group _ _ _ span, 0 | .seq _ span, 0 | .alt _ span, 0
  | .times _ _ _ _ span, 0 => some span
  | .bracket _ inner _, left + 1 => inner.tooDeep? left
  | .group _ _ body _, left + 1 => body.tooDeep? left
  | .seq items _, left + 1 => Tree.anyTooDeep? items left
  | .alt choices _, left + 1 => Tree.anyTooDeep? choices left
  | .times _ _ _ body _, left + 1 => body.tooDeep? left
  | .empty _, _ | .sign _ _, _ | .flags _ _, _ => none

def Tree.anyTooDeep? : List Tree → (left : Nat) → Option Span
  | [], _ => none
  | t :: ts, left => t.tooDeep? left <|> Tree.anyTooDeep? ts left

end

end FeatureCard.Pattern
