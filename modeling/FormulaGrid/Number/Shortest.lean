import FormulaGrid.Number.Decimal

/-!
# The shortest decimal that reads back

* `significand`, `scale`   a finite double as a whole number times a power of two;
* `Decimal.exact`          a finite double as a decimal, exactly;
* `Decimal.shortest`       the decimal with the fewest digits whose nearest double is the given one,
                           and of two such decimals the nearer, of two equally near the greater.

Seventeen digits are enough for every double.  The exact decimal stands behind them, so that the
result reads back whether or not that is used.
-/

namespace FormulaGrid.Number

/-- the whole number that is scaled, for a double with these bits (no sign, finite) -/
def significand (bits : Nat) : Nat :=
  if bits < Nat.pow 2 52 then bits else Nat.pow 2 52 + bits % Nat.pow 2 52

/-- the power of two it is scaled by, in units of `2^-1074` -/
def scale (bits : Nat) : Nat := bits / Nat.pow 2 52 - 1

/-- the double with these bits (no sign, finite) as a decimal -/
def Decimal.exact (bits : Nat) : Decimal :=
  if 1074 ≤ scale bits then ⟨significand bits * Nat.pow 2 (scale bits - 1074), 0⟩
  else
    let places := 1074 - scale bits
    ⟨significand bits * Nat.pow 5 places, -places⟩

/-- the decimals just below and just above with `places` digits fewer, the nearer one first -/
def Decimal.shortened (d : Decimal) (places : Nat) : List Decimal :=
  let q := d.coefficient / Nat.pow 10 places
  let r := d.coefficient % Nat.pow 10 places
  let lower : Decimal := ⟨q, d.exponent + places⟩
  let upper : Decimal := ⟨q + 1, d.exponent + places⟩
  if Nat.pow 10 places ≤ 2 * r then [upper, lower] else [lower, upper]

/-- the decimal with the fewest digits that reads back -/
def Decimal.shortest (bits : Nat) : Decimal :=
  let exact := Decimal.exact bits
  let length := (Nat.toDigits 10 exact.coefficient).length
  let found := (List.range 17).findSome? fun n =>
    (exact.shortened (length - (n + 1))).find? fun d => d.bits = bits
  found.getD exact

end FormulaGrid.Number
