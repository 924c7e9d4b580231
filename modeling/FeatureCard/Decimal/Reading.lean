import FeatureCard.Decimal.Double
import FeatureCard.Text.Digits

/-!
# Reading decimal numbers

A number is written with digits, at most one point among or around them, and perhaps a sign and an
exponent. It stands for the double nearest to its exact value.
-/

namespace FeatureCard.Decimal

open Text (natOfDigits spanDigits)

/-- The size `digits · 10 ^ exponent`. -/
structure Magnitude where
  digits : Nat
  exponent : Int
  deriving DecidableEq, Repr

def integer? (cs : List Char) : Option Int :=
  match cs with
  | '-' :: ds => (natural? ds).map fun n => -(n : Int)
  | '+' :: ds => (natural? ds).map fun n => (n : Int)
  | ds => (natural? ds).map fun n => (n : Int)
where
  natural? (ds : List Char) : Option Nat :=
    if ds ≠ [] ∧ ds.all Char.isDigit then some (natOfDigits ds) else none

def exponent? (cs : List Char) : Option Int :=
  match cs with
  | [] => some 0
  | c :: cs => if c = 'e' ∨ c = 'E' then integer? cs else none

def spanFraction (cs : List Char) : List Char × List Char :=
  match cs with
  | '.' :: cs => spanDigits cs
  | cs => ([], cs)

/-- A number without a sign. There is a digit before or after the point. -/
def magnitude? (cs : List Char) : Option Magnitude :=
  let (whole, cs) := spanDigits cs
  let (fraction, cs) := spanFraction cs
  if whole ++ fraction = [] then none
  else (exponent? cs).map fun e => ⟨natOfDigits (whole ++ fraction), e - fraction.length⟩

/-- Powers of ten beyond these bounds are beyond all doubles. -/
def farthestPower : Int := 400

/-- The double nearest to a size. The place of its first digit settles sizes beyond all doubles. -/
def Magnitude.toDouble (m : Magnitude) : Float :=
  if m.digits = 0 then 0
  else
    let place := m.exponent + (Nat.toDigits 10 m.digits).length
    if farthestPower < place then Float.ofBits infinityBits.toUInt64
    else if place < -farthestPower then 0
    else doubleOfRat (m.digits * (10 : Rat) ^ m.exponent)

def positive? (cs : List Char) : Option Float :=
  let unsigned := match cs with
    | '+' :: cs => cs
    | cs => cs
  ((magnitude? unsigned).map Magnitude.toDouble).filter fun x => 0 < x && x.isFinite

end FeatureCard.Decimal
