import FormulaGrid.Text.Quoted.Table

/-!
# Quoted text

* `escape`   a character as it is written between double quotes;
* `quoted`   a text between double quotes.

The quote and the backslash get a backslash, four control characters have a letter, and what cannot
be seen on its own is written as its code point in hexadecimal digits.  A single quote stays.
-/

namespace FormulaGrid.Text

/-- the character melts into the one before it -/
def isCombining (c : Char) : Bool :=
  extendingRanges.contains c.toNat && !soundMarkRanges.contains c.toNat

def isVisible (c : Char) : Bool :=
  if c.toNat < 0x80 then 0x20 ≤ c.toNat && c.toNat < 0x7f
  else !unprintableRanges.contains c.toNat && !fillerRanges.contains c.toNat && !isCombining c

def escape (c : Char) : List Char :=
  match c with
  | '"' => ['\\', '"']
  | '\\' => ['\\', '\\']
  | '\t' => ['\\', 't']
  | '\n' => ['\\', 'n']
  | '\r' => ['\\', 'r']
  | '\x00' => ['\\', '0']
  | c => if isVisible c then [c] else ['\\', 'u', '{'] ++ Nat.toDigits 16 c.toNat ++ ['}']

def quoted (cs : List Char) : List Char := '"' :: cs.flatMap escape ++ ['"']

end FormulaGrid.Text
