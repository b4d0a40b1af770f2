import FormulaGrid.Number.Bounded
import FormulaGrid.Number.Nearest

/-!
# Decimal numbers and their numerals

* `Decimal`         a whole number times a power of ten;
* `Decimal.bits`    the bits of the nearest double, `Decimal.toFloat` that double;
* `readUnsigned?`   a numeral without a sign: digits, a point, digits, and an exponent;
* `readFloat?`      the double that a numeral with an optional sign stands for.

A numeral has a digit before or after its point.  The point, either group of digits beside it and the
exponent may be missing.
-/

namespace FormulaGrid.Number

/-- the number `coefficient * 10 ^ exponent` -/
structure Decimal where
  coefficient : Nat
  exponent : Int
  deriving DecidableEq, Repr

def Decimal.bits (d : Decimal) : Nat :=
  match d.exponent with
  | .ofNat e => nearestBits (d.coefficient * Nat.pow 10 e) 1
  | .negSucc e => nearestBits d.coefficient (Nat.pow 10 (e + 1))

def Decimal.toFloat (d : Decimal) : Float := Float.ofBits d.bits.toUInt64

theorem Decimal.bits_le (d : Decimal) : d.bits ≤ infinityBits := by
  unfold Decimal.bits
  split <;> exact nearestBits_le _ _

/-! ## numerals -/

/-- the value of a text of decimal digits -/
def digitsValue (cs : List Char) : Nat := Nat.ofDigitChars 10 cs 0

/-- the digits of an exponent; those after a value of `65536` or more do not count -/
def readScale? (cs : List Char) : Option Nat :=
  if cs.isEmpty || !cs.all Char.isDigit then none
  else some (cs.foldl (fun n c => if n < 65536 then 10 * n + digitValue c else n) 0)

/-- nothing, or `e` and a whole number -/
def readExponent? : List Char → Option Int
  | [] => some 0
  | c :: cs =>
    if c = 'e' ∨ c = 'E' then
      match cs with
      | '+' :: ds => Int.ofNat <$> readScale? ds
      | '-' :: ds => (fun n => -Int.ofNat n) <$> readScale? ds
      | ds => Int.ofNat <$> readScale? ds
    else none

/-- the digits after a point at the start of the text, and the rest -/
def takeFraction : List Char → List Char × List Char
  | '.' :: cs => (cs.takeWhile Char.isDigit, cs.dropWhile Char.isDigit)
  | cs => ([], cs)

def readUnsigned? (cs : List Char) : Option Decimal :=
  let whole := cs.takeWhile Char.isDigit
  let (fraction, rest) := takeFraction (cs.dropWhile Char.isDigit)
  if (whole ++ fraction).isEmpty then none
  else (readExponent? rest).map fun e => ⟨digitsValue (whole ++ fraction), e - fraction.length⟩

def readFloat? : List Char → Option Float
  | '-' :: cs => (readUnsigned? cs).map fun d => -d.toFloat
  | '+' :: cs => (readUnsigned? cs).map Decimal.toFloat
  | cs => (readUnsigned? cs).map Decimal.toFloat

end FormulaGrid.Number
