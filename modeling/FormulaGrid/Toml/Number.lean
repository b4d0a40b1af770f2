import FormulaGrid.Toml.Text

/-!
# Numbers in TOML

* `integer`   decimal with a sign, or hexadecimal, octal or binary; 64 bits with a sign;
* `float`     with a fraction or an exponent, or an infinity, or no number.

Between two digits there may be an underscore.  A decimal number has no leading zeros.  A float above
the largest one is refused, while one below the smallest is an infinity.
-/

namespace FormulaGrid.Toml

open Number (digitsValue infinityBits readFloat? readInt)

/-! ## digits -/

/-- one or more digits with single underscores between them, which are left out -/
def grouped (p : Char → Bool) : Reader Char (List Char) :=
  (Reader.satisfy p).andScan fun c =>
    ((Reader.satisfy p).orElse ((Reader.element '_').skipThen (.satisfy p))).many.map (c :: ·)

def sign : Scan Char (List Char) :=
  (Reader.satisfy fun c => c == '+' || c == '-').optional.map Option.toList

/-- a decimal number with an optional sign and without leading zeros -/
def decimal : Reader Char (List Char) :=
  sign.andRead fun s =>
    (Reader.firstOf [
      (Reader.satisfy fun c => c.isDigit && c != '0').andScan fun c =>
        ((Reader.satisfy Char.isDigit).orElse
          ((Reader.element '_').skipThen (.satisfy Char.isDigit))).many.map (c :: ·),
      (Reader.element '0').map fun c => [c]]).map (s ++ ·)

/-! ## integers -/

/-- a number in another base after its mark -/
def based (mark : Char) (base : Nat) : Reader Char Int :=
  ((Reader.elements '0' [mark]).andThen fun _ => grouped fun c => (hexValue? c).any (· < base)).filterMap
    fun cs =>
      let n : Nat := cs.foldl (fun n c => base * n + (hexValue? c).getD 0) 0
      if n < Nat.pow 2 63 then some ↑n else none

def integer : Reader Char Int :=
  .firstOf [based 'x' 16, based 'o' 8, based 'b' 2,
    decimal.filterMap fun cs => (readInt 64 cs).toOption]

/-! ## floats -/

def fraction : Reader Char (List Char) :=
  (Reader.element '.').andThen fun point => (grouped Char.isDigit).map (point :: ·)

def exponent : Reader Char (List Char) :=
  (Reader.satisfy fun c => c == 'e' || c == 'E').andThen fun e =>
    sign.andRead fun s => (grouped Char.isDigit).map fun ds => e :: s ++ ds

/-- the text of a float without its underscores -/
def floatText : Reader Char (List Char) :=
  decimal.andThen fun whole =>
    (exponent.orElse (fraction.andScan fun f => exponent.optional.map fun e => f ++ e.getD [])).map
      (whole ++ ·)

/-- a word for a float, with an optional sign -/
def floatWord : Reader Char Float :=
  sign.andRead fun s =>
    ((Reader.elements 'i' ['n', 'f']).map fun _ => Float.ofBits infinityBits.toUInt64).orElse
      ((Reader.elements 'n' ['a', 'n']).map fun _ => (0 : Float) / 0)
    |>.map fun x => if s = ['-'] then -x else x

def float : Reader Char Float :=
  (floatText.filterMap fun cs => (readFloat? cs).filter fun x => x.toBits.toNat != infinityBits).orElse
    floatWord

end FormulaGrid.Toml
