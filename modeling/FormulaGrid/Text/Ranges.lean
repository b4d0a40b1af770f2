/-!
# Sets of code points as tables of ranges

* `Ranges`            a table of closed ranges of code points;
* `Ranges.contains`   membership of a code point.
-/

namespace FormulaGrid.Text

abbrev Ranges := List (Nat × Nat)

/-- some range of the table holds `n` -/
def Ranges.contains (t : Ranges) (n : Nat) : Bool :=
  t.any fun r => r.1 ≤ n && n ≤ r.2

end FormulaGrid.Text
