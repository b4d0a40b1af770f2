/-!
# Whole numbers within a limit

* `IntegerError`   why a text is no whole number of the range asked for;
* `readDigits`     decimal digits, with a limit on the value;
* `readNat`        an optional `+` and digits, a value up to a limit;
* `readInt`        an optional sign and digits, a value of `bits` bits with a sign.

Digits are read from the left.  At each character it is first asked whether it is a digit and then
whether the value so far is within the limit, so the first fault from the left is the one reported.

Powers are written `Nat.pow` in this module and in those about doubles, because the instance behind
`2 ^ n` depends on what else is imported.
-/

namespace FormulaGrid.Number

inductive IntegerError where
  | empty
  | invalidDigit
  | tooLarge
  | tooSmall
  deriving DecidableEq, Repr

def IntegerError.message : IntegerError → String
  | .empty => "cannot parse integer from empty string"
  | .invalidDigit => "invalid digit found in string"
  | .tooLarge => "number too large to fit in target type"
  | .tooSmall => "number too small to fit in target type"

def digitValue (c : Char) : Nat := c.toNat - '0'.toNat

/-- continue `acc` by decimal digits; a value above `limit` is the fault `overflow` -/
def readDigits (limit : Nat) (overflow : IntegerError) : Nat → List Char → Except IntegerError Nat
  | acc, [] => .ok acc
  | acc, c :: cs =>
    if c.isDigit then
      let n := 10 * acc + digitValue c
      if n ≤ limit then readDigits limit overflow n cs else .error overflow
    else .error .invalidDigit

theorem readDigits_nil (limit : Nat) (overflow : IntegerError) (acc : Nat) :
    readDigits limit overflow acc [] = .ok acc := rfl

/-- a sign is not a number on its own -/
def readMagnitude (limit : Nat) (overflow : IntegerError) (cs : List Char) :
    Except IntegerError Nat :=
  if cs.isEmpty then .error .invalidDigit else readDigits limit overflow 0 cs

/-- a number without a sign, or with the sign `+` -/
def readNat (limit : Nat) : List Char → Except IntegerError Nat
  | [] => .error .empty
  | '+' :: cs => readMagnitude limit .tooLarge cs
  | cs => readMagnitude limit .tooLarge cs

/-- a number between `-2^(bits-1)` and `2^(bits-1) - 1` -/
def readInt (bits : Nat) : List Char → Except IntegerError Int
  | [] => .error .empty
  | '+' :: cs => Int.ofNat <$> readMagnitude (Nat.pow 2 (bits - 1) - 1) .tooLarge cs
  | '-' :: cs => (fun n => -Int.ofNat n) <$> readMagnitude (Nat.pow 2 (bits - 1)) .tooSmall cs
  | cs => Int.ofNat <$> readMagnitude (Nat.pow 2 (bits - 1) - 1) .tooLarge cs

/-- the largest row, column or count: indices are words of 64 bits -/
def maxIndex : Nat := Nat.pow 2 64 - 1

end FormulaGrid.Number
