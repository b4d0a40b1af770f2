import FormulaGrid.Number.Bounded

/-!
# The double nearest to a quotient

* `roundQuotient`   a quotient of naturals, rounded to the nearest natural, a half to the even one;
* `nearestBits`     the bits of the double nearest to `num / den`.

All doubles from `0` upward are multiples of `2^-1074`, and their bits count them off in order: the
bits are `g * 2^52 + q`, where the double is `q * 2^g` of these units and `q < 2^53`; for `g ≥ 1`
the leading bit of `q` is dropped by the carry into `g`.  So the quotient is scaled to units, the
grid `g` is chosen by its size, and the count `q` on that grid is rounded.  A count that rounds up
to `2^53` carries into the next grid by itself, and what exceeds the largest double is cut off at
the bits of the infinity.
-/

namespace FormulaGrid.Number

/-- `num / den` to the nearest natural, halves to even -/
def roundQuotient (num den : Nat) : Nat :=
  let q := num / den
  let r := num % den
  if 2 * r < den then q else if den < 2 * r then q + 1 else q + q % 2

theorem roundQuotient_mul_right (q den : Nat) (h : 0 < den) : roundQuotient (q * den) den = q := by
  simp [roundQuotient, Nat.mul_div_cancel _ h, h]

theorem roundQuotient_scale (num den k : Nat) (hk : 0 < k) :
    roundQuotient (num * k) (den * k) = roundQuotient num den := by
  have h1 : num * k / (den * k) = num / den := Nat.mul_div_mul_right _ _ hk
  have h2 : num * k % (den * k) = num % den * k := Nat.mul_mod_mul_right _ _ _
  have h3 : 2 * (num % den * k) = 2 * (num % den) * k := by rw [Nat.mul_assoc]
  simp only [roundQuotient, h1, h2, h3, Nat.mul_lt_mul_right hk]

/-- the bits of the infinity -/
def infinityBits : Nat := 2047 * Nat.pow 2 52

/-- the grid of a value of `units` whole units: `0` is the grid of the smallest doubles -/
def gridOf (units : Nat) : Nat := units.log2 - 52

def nearestBits (num den : Nat) : Nat :=
  let units := num * Nat.pow 2 1074
  let grid := gridOf (units / den)
  min infinityBits (grid * Nat.pow 2 52 + roundQuotient units (den * Nat.pow 2 grid))

theorem nearestBits_le (num den : Nat) : nearestBits num den ≤ infinityBits := Nat.min_le_left _ _

/-- a common factor does not matter -/
theorem nearestBits_scale (num den k : Nat) (hk : 0 < k) :
    nearestBits (num * k) (den * k) = nearestBits num den := by
  have h1 : num * k * Nat.pow 2 1074 = num * Nat.pow 2 1074 * k := Nat.mul_right_comm _ _ _
  have h2 : ∀ g, den * k * Nat.pow 2 g = den * Nat.pow 2 g * k := fun g => Nat.mul_right_comm _ _ _
  simp only [nearestBits, h1, h2, Nat.mul_div_mul_right _ _ hk, roundQuotient_scale _ _ _ hk]

end FormulaGrid.Number
