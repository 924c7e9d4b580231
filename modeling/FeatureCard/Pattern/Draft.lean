import FeatureCard.Pattern.CharSet

/-!
# Sets in the making

What stands between brackets is put together piece by piece. Where both cases of letters are meant,
the cases of all scripts would have to be known. Only a set that is known to be closed under them
can do without.
-/

namespace FeatureCard.Pattern

structure Draft where
  set : CharSet := .none
  /-- The set is known to hold each letter in all its cases, or in none. -/
  closed : Bool := true
  deriving DecidableEq, Repr

namespace Draft

def ofSet (set : CharSet) : Draft := { set, closed := set.isNone }

def add (d : Draft) (first last : Char) : Draft :=
  { set := d.set.union (.between first last), closed := false }

def union (d e : Draft) : Draft :=
  if e.set.isNone ∨ d.set = e.set then d
  else { set := d.set.union e.set, closed := d.closed && e.closed }

def inter (d e : Draft) : Draft :=
  if d.set.isNone then d
  else if e.set.isNone then {}
  else { set := d.set.inter e.set, closed := d.closed && e.closed }

def diff (d e : Draft) : Draft :=
  if d.set.isNone ∨ e.set.isNone then d
  else { set := d.set.diff e.set, closed := d.closed && e.closed }

def symmDiff (d e : Draft) : Draft := (d.union e).diff (d.inter e)

def complement (d : Draft) : Draft :=
  { set := d.set.complement, closed := d.set.isNone || d.closed }

/-- The set with the letters of all scripts in all their cases, if none has to be added. -/
def close? (d : Draft) : Option Draft :=
  if d.closed ∨ d.set.isNone then some { d with closed := true } else none

def closeAscii (d : Draft) : Draft := { set := d.set.bothCases, closed := true }

end Draft

end FeatureCard.Pattern
