import Mathlib.Algebra.Group.Nat.Defs
import FormulaGrid.Number.Bounded

/-!
# Words of 64 bits

* `checkedMul?`, `checkedAdd?`   the product and the sum of two words, nothing if they overflow;
* `saturatingAdd`    the sum of a word and a word with a sign, the nearest word if it is none;
* `checkedMul?_eq_some_iff`, `checkedAdd?_eq_some_iff`, `toNat_saturatingAdd`   the three in exact integers.

They are computed in words: sums and products wrap, and an overflow is told apart from them.
-/

namespace FormulaGrid.Number

/-- the product of two words, if it is a word -/
def checkedMul? (a b : UInt64) : Option UInt64 :=
  if a.toBitVec.umulOverflow b.toBitVec then none else some (a * b)

theorem checkedMul?_eq_some_iff (a b n : UInt64) : checkedMul? a b = some n ↔ n.toNat = a.toNat * b.toNat := by
  have hmul : (a * b).toNat = a.toNat * b.toNat % 2 ^ 64 := UInt64.toNat_mul a b
  have hoverflow : a.toBitVec.umulOverflow b.toBitVec = decide (2 ^ 64 ≤ a.toNat * b.toNat) := rfl
  rw [checkedMul?, hoverflow]
  by_cases h : 2 ^ 64 ≤ a.toNat * b.toNat
  · rw [if_pos (decide_eq_true h)]
    refine ⟨fun hn => (nomatch hn), fun hn => ?_⟩
    have hlt : n.toNat < 2 ^ 64 := n.toNat_lt
    omega
  · rw [if_neg (by rwa [decide_eq_true_eq]), Option.some.injEq, ← UInt64.toNat_inj, hmul,
      Nat.mod_eq_of_lt (by omega), eq_comm]

/-- the sum of two words, if it is a word -/
def checkedAdd? (a b : UInt64) : Option UInt64 :=
  if a.toBitVec.uaddOverflow b.toBitVec then none else some (a + b)

theorem checkedAdd?_eq_some_iff (a b n : UInt64) : checkedAdd? a b = some n ↔ n.toNat = a.toNat + b.toNat := by
  have hadd : (a + b).toNat = (a.toNat + b.toNat) % 2 ^ 64 := UInt64.toNat_add a b
  have hoverflow : a.toBitVec.uaddOverflow b.toBitVec = decide (2 ^ 64 ≤ a.toNat + b.toNat) := rfl
  rw [checkedAdd?, hoverflow]
  by_cases h : 2 ^ 64 ≤ a.toNat + b.toNat
  · rw [if_pos (decide_eq_true h)]
    refine ⟨fun hn => (nomatch hn), fun hn => ?_⟩
    have hlt : n.toNat < 2 ^ 64 := n.toNat_lt
    omega
  · rw [if_neg (by rwa [decide_eq_true_eq]), Option.some.injEq, ← UInt64.toNat_inj, hadd,
      Nat.mod_eq_of_lt (by omega), eq_comm]

/-- the sum of a word and a word with a sign, or the nearest word -/
def saturatingAdd (a : UInt64) (d : Int64) : UInt64 :=
  let carry := a.toBitVec.uaddOverflow d.toUInt64.toBitVec
  -- an offset below zero is a large word, and it has a carry unless the sum is below zero, too
  if carry = decide (d < 0) then a + d.toUInt64
  else if carry then UInt64.ofNat maxIndex
  else 0

/-- the offsets below zero are the words of the upper half -/
theorem toNat_toUInt64_offset (d : Int64) :
    (d.toUInt64.toNat : Int) = if d < 0 then d.toInt + (2 ^ 64 : Nat) else d.toInt := by
  have hbits : d.toUInt64.toNat = d.toBitVec.toNat := rfl
  have hint : d.toBitVec.toInt = d.toInt := rfl
  have hneg : d < 0 ↔ d.toInt < 0 := Int64.lt_iff_toInt_lt
  have hlt := d.toBitVec.isLt
  rw [BitVec.toInt_eq_toNat_cond] at hint
  simp only [hneg, hbits]
  split at hint <;> split <;> omega

theorem toNat_saturatingAdd (a : UInt64) (d : Int64) :
    ((saturatingAdd a d).toNat : Int) = max 0 (min (a.toNat + d.toInt) maxIndex) := by
  have hadd : (a + d.toUInt64).toNat = (a.toNat + d.toUInt64.toNat) % 2 ^ 64 := UInt64.toNat_add a _
  have hcarry : a.toBitVec.uaddOverflow d.toUInt64.toBitVec = decide (2 ^ 64 ≤ a.toNat + d.toUInt64.toNat) := rfl
  have hoffset := toNat_toUInt64_offset d
  have hneg : d < 0 ↔ d.toInt < 0 := Int64.lt_iff_toInt_lt
  have hword : a.toNat < 2 ^ 64 := a.toNat_lt
  have hlarge : d.toUInt64.toNat < 2 ^ 64 := d.toUInt64.toNat_lt
  have hlow := d.le_toInt
  have hmax : maxIndex = 2 ^ 64 - 1 := rfl
  simp only [saturatingAdd, hcarry, decide_eq_decide, decide_eq_true_eq]
  by_cases hd : d < 0 <;> by_cases hsum : 2 ^ 64 ≤ a.toNat + d.toUInt64.toNat
  · -- the carry takes the sum back into the words
    rw [if_pos (iff_of_true hsum hd), hadd]
    rw [if_pos hd] at hoffset
    omega
  · rw [if_neg fun h => hsum (h.mpr hd), if_neg hsum]
    rw [if_pos hd] at hoffset
    show (0 : Int) = _
    omega
  · rw [if_neg fun h => hd (h.mp hsum), if_pos hsum]
    rw [if_neg hd] at hoffset
    show (maxIndex : Int) = _
    omega
  · rw [if_pos (iff_of_false hsum hd), hadd]
    rw [if_neg hd] at hoffset
    omega

end FormulaGrid.Number
