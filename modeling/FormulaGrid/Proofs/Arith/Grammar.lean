import FormulaGrid.Arith.Value
import FormulaGrid.Proofs.Number.Numeral

/-!
# The grammar of arithmetic text

* `Part`           the categories `expression`, `term`, `unary`, `power` and `factor`;
* `Operand`        what stands for a value without parentheses, with the levels it may use;
* `Derives`        the texts of a category, with their values and a bound on their nesting;
* `numeral`        numbers as operands: the grammar of plain arithmetic is `Derives numeral`.

The rules are those over characters

    expression ::= term (("+" | "-") term)*
    term       ::= unary (("*" | "/") unary)*
    unary      ::= ("-" | "+") unary | power
    power      ::= factor ("**" unary)?
    factor     ::= operand | "(" expression ")"

where a repetition is written as a rule that begins with its own category, so that its value is that
of all but the last part, joined with the last part: chains fold from the left.
-/

namespace FormulaGrid.Arith

open Number

/-! ## operands -/

/-- texts and their values, where so many unary parts may still lie in each other -/
abbrev Operand := (levels : Nat) → (text : List Char) → (value : Float) → Prop

/-- a number stands for the double nearest to it -/
def numeral : Operand := fun _ text value =>
  Numeral text ∧ readFloat? text = some value

/-! ## rules -/

/-- the categories, from the loosest to the tightest -/
inductive Part where
  | expression
  | term
  | unary
  | power
  | factor
  deriving DecidableEq, Repr

/-- a text of a category with its value: on no path from the category to an operand lie more than
`levels` unary parts in each other -/
inductive Derives (operand : Operand) : Part → (levels : Nat) → List Char → Float → Prop where
  | term {n s v} : Derives operand .term n s v → Derives operand .expression n s v
  | add {n s t v w} : Derives operand .expression n s v → Derives operand .term n t w →
      Derives operand .expression n (s ++ '+' :: t) (v + w)
  | subtract {n s t v w} : Derives operand .expression n s v → Derives operand .term n t w →
      Derives operand .expression n (s ++ '-' :: t) (v - w)
  | unary {n s v} : Derives operand .unary n s v → Derives operand .term n s v
  | multiply {n s t v w} : Derives operand .term n s v → Derives operand .unary n t w →
      Derives operand .term n (s ++ '*' :: t) (v * w)
  | divide {n s t v w} : Derives operand .term n s v → Derives operand .unary n t w →
      Derives operand .term n (s ++ '/' :: t) (v / w)
  | minus {n s v} : Derives operand .unary n s v → Derives operand .unary (n + 1) ('-' :: s) (-v)
  | plus {n s v} : Derives operand .unary n s v → Derives operand .unary (n + 1) ('+' :: s) v
  | power {n s v} : Derives operand .power n s v → Derives operand .unary (n + 1) s v
  | factor {n s v} : Derives operand .factor n s v → Derives operand .power n s v
  | raise {n s t v w} : Derives operand .factor n s v → Derives operand .unary n t w →
      Derives operand .power n (s ++ '*' :: '*' :: t) (v.pow w)
  | operand {n s v} : operand n s v → Derives operand .factor n s v
  | group {n s v} : Derives operand .expression n s v →
      Derives operand .factor n ('(' :: s ++ [')']) v

section
variable {operand : Operand} {p : Part} {n m : Nat} {s : List Char} {v : Float}

theorem Derives.mono (hop : ∀ n m s v, n ≤ m → operand n s v → operand m s v)
    (h : Derives operand p n s v) (hnm : n ≤ m) : Derives operand p m s v := by
  induction h generalizing m with
  | term _ ih => exact .term (ih hnm)
  | add _ _ ihs iht => exact .add (ihs hnm) (iht hnm)
  | subtract _ _ ihs iht => exact .subtract (ihs hnm) (iht hnm)
  | unary _ ih => exact .unary (ih hnm)
  | multiply _ _ ihs iht => exact .multiply (ihs hnm) (iht hnm)
  | divide _ _ ihs iht => exact .divide (ihs hnm) (iht hnm)
  | minus _ ih =>
    obtain ⟨k, rfl⟩ := Nat.exists_eq_add_of_lt hnm
    exact .minus (ih (Nat.le_add_right _ _))
  | plus _ ih =>
    obtain ⟨k, rfl⟩ := Nat.exists_eq_add_of_lt hnm
    exact .plus (ih (Nat.le_add_right _ _))
  | power _ ih =>
    obtain ⟨k, rfl⟩ := Nat.exists_eq_add_of_lt hnm
    exact .power (ih (Nat.le_add_right _ _))
  | factor _ ih => exact .factor (ih hnm)
  | raise _ _ ihs iht => exact .raise (ihs hnm) (iht hnm)
  | operand h => exact .operand (hop _ _ _ _ hnm h)
  | group _ ih => exact .group (ih hnm)

theorem numeral_mono (n m : Nat) (s : List Char) (v : Float) (_ : n ≤ m) (h : numeral n s v) :
    numeral m s v := h

end

end FormulaGrid.Arith
