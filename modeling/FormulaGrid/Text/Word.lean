import FormulaGrid.Text.Word.Table

/-!
# Words inside a text

* `isWord`   the characters that words are made of: letters, marks, digits, `_` and its kind;
* `runs`     a text cut wherever a word begins or ends.

A word boundary lies between two neighbours of which exactly one is a word character, and at either
end of the text next to a word character.  So a stretch that begins and ends at boundaries and has
none inside is one run of `runs`.
-/

namespace FormulaGrid.Text

/-- a character that continues a word -/
def isWord (c : Char) : Bool :=
  if c.toNat < 0x80 then c.isAlphanum || c == '_' else wordRanges.contains c.toNat

/-- the longest stretches of word characters and of other characters, in order -/
def runs (cs : List Char) : List (List Char) := cs.splitBy fun a b => isWord a == isWord b

theorem isWord_of_isAlphanum (c : Char) (h : c.isAlphanum) : isWord c := by
  have hc : c.toNat < 0x80 := by
    delta Char.isAlphanum Char.isAlpha Char.isUpper Char.isLower Char.isDigit at h
    simp only [Bool.or_eq_true, decide_eq_true_eq, UInt32.le_iff_toNat_le] at h
    have e : c.toNat = c.val.toNat := rfl
    simp at h
    omega
  simp [isWord, hc, h]

end FormulaGrid.Text
