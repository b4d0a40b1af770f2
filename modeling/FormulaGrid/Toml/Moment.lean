import FormulaGrid.Toml.Text

/-!
# Dates and times in TOML

* `date`, `time`, `offset`   the parts of a moment;
* `moment`                   a date, a time, or a date and a time with an optional offset.

Only the form is checked: the parts are within their ranges, and the month has the day.
-/

namespace FormulaGrid.Toml

open Number (digitsValue)

def twoDigits (least greatest : Nat) : Reader Char Nat :=
  ((Reader.satisfy Char.isDigit).andThen fun a =>
    (Reader.satisfy Char.isDigit).map fun b => digitsValue [a, b]).filterMap
      fun n => if least ≤ n ∧ n ≤ greatest then some n else none

def year : Reader Char Nat :=
  (twoDigits 0 99).andThen fun century => (twoDigits 0 99).map fun rest => 100 * century + rest

def daysIn (year month : Nat) : Nat :=
  if month = 2 then
    if year % 4 = 0 ∧ (year % 100 ≠ 0 ∨ year % 400 = 0) then 29 else 28
  else if month = 4 ∨ month = 6 ∨ month = 9 ∨ month = 11 then 30
  else 31

def date : Reader Char Unit :=
  (year.followedBy (.element '-')).andThen fun y =>
    ((twoDigits 1 12).followedBy (.element '-')).andThen fun m =>
      (twoDigits 1 31).filterMap fun d => if d ≤ daysIn y m then some () else none

/-- hours, minutes and seconds, of which there may be 60, with an optional fraction -/
def time : Reader Char Unit :=
  ((twoDigits 0 23).followedBy (.element ':')).skipThen <|
    ((twoDigits 0 59).followedBy (.element ':')).skipThen <|
      (twoDigits 0 60).andScan fun _ =>
        ((Reader.element '.').skipThen (Reader.satisfy Char.isDigit).many1).optional.map fun _ => ()

def offset : Reader Char Unit :=
  ((Reader.satisfy fun c => c == 'Z' || c == 'z').map fun _ => ()).orElse <|
    (Reader.satisfy fun c => c == '+' || c == '-').skipThen <|
      ((twoDigits 0 23).followedBy (.element ':')).skipThen ((twoDigits 0 59).map fun _ => ())

def timeOfDay : Reader Char Unit :=
  (Reader.satisfy fun c => c == 'T' || c == 't' || c == ' ').skipThen <|
    time.andScan fun _ => offset.optional.map fun _ => ()

def moment : Reader Char Unit :=
  (date.andScan fun _ => timeOfDay.optional.map fun _ => ()).orElse time

end FormulaGrid.Toml
