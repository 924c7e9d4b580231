import FeatureCard.Arithmetic

/-!
# Digits

Runs of decimal digits and the numbers that they stand for.
-/

namespace FeatureCard.Text

def digitValue (c : Char) : Nat := c.toNat - 48

def natOfDigits (ds : List Char) : Nat := ds.foldl (fun n c => n * 10 + digitValue c) 0

def spanDigits (cs : List Char) : List Char × List Char :=
  (cs.takeWhile Char.isDigit, cs.dropWhile Char.isDigit)

/-- A number of 32 bits: digits, perhaps after a plus sign. -/
def word32? (cs : List Char) : Option UInt32 :=
  let ds := match cs with
    | '+' :: ds => ds
    | ds => ds
  if ds ≠ [] ∧ ds.all Char.isDigit ∧ natOfDigits ds < word32 then some (natOfDigits ds).toUInt32
  else none

end FeatureCard.Text
