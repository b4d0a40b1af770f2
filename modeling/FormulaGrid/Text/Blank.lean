import FormulaGrid.Text.Ranges

/-!
# Blank characters, trimming, and the first word of a line

* `isBlank`     the white-space characters of Unicode (`White_Space`), 25 in all;
* `trimStart`, `trimEnd`, `trim`   a text without the blanks at its ends;
* `splitWord`   the first word of a text, and what follows ONE blank after it.

Texts are lists of characters here and in all modules that take texts apart.
-/

namespace FormulaGrid.Text

/-! ## blanks -/

/-- the code points with the property `White_Space` -/
def blankRanges : Ranges :=
  [(0x09, 0x0d), (0x20, 0x20), (0x85, 0x85), (0xa0, 0xa0), (0x1680, 0x1680), (0x2000, 0x200a),
   (0x2028, 0x2029), (0x202f, 0x202f), (0x205f, 0x205f), (0x3000, 0x3000)]

/-- white space; the zero-width space and the byte order mark are not -/
def isBlank (c : Char) : Bool := blankRanges.contains c.toNat

/-! ## trimming -/

def trimStart (cs : List Char) : List Char := cs.dropWhile isBlank

def trimEnd (cs : List Char) : List Char := (cs.reverse.dropWhile isBlank).reverse

/-- without the blanks at either end -/
def trim (cs : List Char) : List Char := trimEnd (trimStart cs)

theorem trimStart_cons (c : Char) (cs : List Char) :
    trimStart (c :: cs) = if isBlank c then trimStart cs else c :: cs := by
  cases h : isBlank c <;> simp [trimStart, List.dropWhile, h]

theorem trimEnd_append_singleton (cs : List Char) (c : Char) :
    trimEnd (cs ++ [c]) = if isBlank c then trimEnd cs else cs ++ [c] := by
  cases h : isBlank c <;> simp [trimEnd, h]

/-! ## words -/

/-- the first word, and the text after the one blank that ends it (further blanks stay) -/
def splitWord (cs : List Char) : List Char × List Char :=
  let text := trimStart cs
  (text.takeWhile (!isBlank ·), (text.dropWhile (!isBlank ·)).drop 1)

end FormulaGrid.Text
