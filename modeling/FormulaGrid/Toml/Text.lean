import FormulaGrid.Number.Decimal
import FormulaGrid.Reading.Reader

/-!
# Blanks, comments and strings in TOML

* `spaces`, `newline`, `comment`, `gaps`   what may stand between the parts of a document;
* `basicString`, `literalString`           strings on one line, in double and in single quotes;
* `string`                                 any string, those over several lines included.

A run of quotes inside a string over several lines ends it if there are three or more: the last
three close it, and up to two before them belong to it.
-/

namespace FormulaGrid.Toml

open Number (digitValue)

/-! ## between the parts -/

/-- blanks within a line -/
def isSpace (c : Char) : Bool := c == ' ' || c == '\t'

/-- any character but control characters, of which the tab is allowed -/
def isPlain (c : Char) : Bool := c == '\t' || 0x20 ≤ c.toNat && c.toNat != 0x7f

def spaces : Scan Char (List Char) := .takeWhile isSpace

def newline : Reader Char Char := (Reader.element '\n').orElse ((Reader.element '\r').skipThen (.element '\n'))

def comment : Reader Char Unit := (Reader.element '#').andScan fun _ => (Scan.takeWhile isPlain).map fun _ => ()

def gaps : Scan Char (List Unit) :=
  (Reader.firstOf [(Reader.satisfy isSpace).map fun _ => (), newline.map fun _ => (), comment]).many

/-! ## escapes -/

def hexValue? (c : Char) : Option Nat :=
  if c.isDigit then some (digitValue c)
  else if 'a' ≤ c ∧ c ≤ 'f' then some (c.toNat - 'a'.toNat + 10)
  else if 'A' ≤ c ∧ c ≤ 'F' then some (c.toNat - 'A'.toNat + 10)
  else none

/-- a number of exactly so many hexadecimal digits, after `acc` -/
def hexDigits : (count : Nat) → (acc : Nat) → Reader Char Nat
  | 0, _ => .fail
  | 1, acc => (Reader.satisfy fun _ => true).filterMap fun c => (hexValue? c).map (16 * acc + ·)
  | count + 1, acc =>
    ((Reader.satisfy fun _ => true).filterMap hexValue?).andThen fun d =>
      hexDigits count (16 * acc + d)

def charOf? (n : Nat) : Option Char := if n.isValidChar then some (Char.ofNat n) else none

/-- an escaped character, from its backslash on -/
def escaped : Reader Char Char :=
  (Reader.element '\\').andThen fun _ => (Reader.satisfy fun _ => true).andThenOr fun c =>
    match c with
    | 'b' => .inl '\x08'
    | 'f' => .inl '\x0c'
    | 'n' => .inl '\n'
    | 'r' => .inl '\r'
    | 't' => .inl '\t'
    | '"' => .inl '"'
    | '\\' => .inl '\\'
    | 'u' => .inr ((hexDigits 4 0).filterMap charOf?)
    | 'U' => .inr ((hexDigits 8 0).filterMap charOf?)
    | _ => .inr .fail

/-! ## strings on one line -/

/-- a character in double quotes that stands for itself -/
def isBasic (c : Char) : Bool := isPlain c && c != '"' && c != '\\'

/-- a character in single quotes -/
def isLiteral (c : Char) : Bool := isPlain c && c != '\''

def basicString : Reader Char String :=
  (Reader.element '"').andThen fun _ =>
    ((Reader.satisfy isBasic).orElse escaped).many.andRead fun cs =>
      (Reader.element '"').map fun _ => String.ofList cs

def literalString : Reader Char String :=
  (Reader.element '\'').andThen fun _ =>
    (Scan.takeWhile isLiteral).andRead fun cs =>
      (Reader.element '\'').map fun _ => String.ofList cs

/-! ## strings over several lines -/

def quotes (quote : Char) : Reader Char Nat := (Reader.element quote).many1.map List.length

/-- one or two quotes, which belong to the string -/
def innerQuotes (quote : Char) : Reader Char (List Char) :=
  (quotes quote).filterMap fun n => if n < 3 then some (List.replicate n quote) else none

/-- three quotes, with up to two before them that belong to the string -/
def closingQuotes (quote : Char) : Reader Char (List Char) :=
  (quotes quote).filterMap fun n =>
    if 3 ≤ n ∧ n ≤ 5 then some (List.replicate (n - 3) quote) else none

/-- a backslash at the end of a line, with the blanks and line ends after it -/
def continuation : Reader Char (List Char) :=
  (Reader.element '\\').andThen fun _ => spaces.skipThen newline |>.andScan fun _ =>
    ((Reader.satisfy isSpace).orElse newline).many.map fun _ => []

/-- a string over several lines, made of `pieces` and of its quotes -/
def longString (quote : Char) (pieces : List (Reader Char (List Char))) : Reader Char String :=
  (Reader.elements quote [quote, quote]).andThen fun _ => newline.optional.andRead fun _ =>
    (Reader.firstOf (innerQuotes quote :: newline.map (fun c => [c]) :: pieces)).many.andRead fun cs =>
      (closingQuotes quote).map fun last => String.ofList (cs.flatten ++ last)

def longBasicString : Reader Char String :=
  longString '"' [(Reader.satisfy isBasic).map fun c => [c], continuation, escaped.map fun c => [c]]

def longLiteralString : Reader Char String :=
  longString '\'' [(Reader.satisfy isLiteral).map fun c => [c]]

def string : Reader Char String :=
  .firstOf [longBasicString, basicString, longLiteralString, literalString]

end FormulaGrid.Toml
