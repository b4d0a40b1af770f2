import FormulaGrid.Number.Shortest

/-!
# Doubles in positional notation

* `Decimal.positional`   a decimal without an exponent, however long;
* `Style`                what a writer decides about infinities and the sign of zero;
* `write`                a double in a style;
* `displayStyle`         the style of numbers that are shown, `operandStyle` of those that are put
                         into a formula.
-/

namespace FormulaGrid.Number

/-! ## positional notation -/

/-- the digits of a fraction without trailing zeros, after a point; nothing for no digits -/
def writeFraction (cs : List Char) : List Char :=
  match (cs.reverse.dropWhile (· == '0')).reverse with
  | [] => []
  | ds => '.' :: ds

/-- whole digits, and a point and a fraction if there is one -/
def Decimal.positional (d : Decimal) : List Char :=
  let digits := Nat.toDigits 10 d.coefficient
  match d.exponent with
  | .ofNat e => digits ++ List.replicate e '0'
  | .negSucc e =>
    let places := e + 1
    let padded := List.replicate (places + 1 - digits.length) '0' ++ digits
    padded.take (padded.length - places) ++ writeFraction (padded.drop (padded.length - places))

/-! ## sign and magnitude -/

/-- the sign bit is set -/
def isNegative (x : Float) : Bool := Nat.pow 2 63 ≤ x.toBits.toNat

/-- the bits without the sign: `infinityBits` for an infinity, more for NaN -/
def magnitude (x : Float) : Nat := x.toBits.toNat % Nat.pow 2 63

structure Style where
  /-- the word for an infinity -/
  infinity : List Char
  /-- zero keeps its sign -/
  signedZero : Bool

def write (style : Style) (x : Float) : List Char :=
  let m := magnitude x
  if infinityBits < m then ['N', 'a', 'N']
  else
    let body := if m = infinityBits then style.infinity else (Decimal.shortest m).positional
    if isNegative x && (style.signedZero || m != 0) then '-' :: body else body

/-- shown numbers spell infinity out and have one zero -/
def displayStyle : Style := ⟨"Infinity".toList, false⟩

/-- operands have a short infinity and two zeros -/
def operandStyle : Style := ⟨"inf".toList, true⟩

def display (x : Float) : String := String.ofList (write displayStyle x)

end FormulaGrid.Number
