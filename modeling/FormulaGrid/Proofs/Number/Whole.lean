import FormulaGrid.Number.Bounded
import FormulaGrid.Proofs.Number.ReadBack

/-!
# Whole numbers, read and written

* `readDigits_eq_ok_iff`, `readNat_eq_ok_iff`   which digits are read, and the value they have;
* `toDigits_digitsValue`   digits without the zeros in front are those of their value;
* `integerText`     a whole number with its sign, if it is below zero;
* `InRange`         the numbers of a given number of bits with a sign;
* `readInt_integerText`   a number in range is read from its text;
* `inRange_of_readInt`    only numbers in range are read.
-/

namespace FormulaGrid.Number

/-! ## digits -/

section
variable (limit : Nat) (overflow : IntegerError) (ds : List Char)

theorem le_ofDigitChars (acc : Nat) : acc ≤ Nat.ofDigitChars 10 ds acc := by
  have hone : 1 * acc ≤ 10 ^ ds.length * acc := Nat.mul_le_mul_right acc (Nat.pow_pos (by decide))
  rw [Nat.ofDigitChars_eq_ofDigitChars_zero]
  omega

theorem readDigits_eq_ok_iff (acc n : Nat) (hacc : acc ≤ limit) :
    readDigits limit overflow acc ds = .ok n ↔
      ds.all Char.isDigit ∧ Nat.ofDigitChars 10 ds acc = n ∧ n ≤ limit := by
  induction ds generalizing acc with
  | nil =>
    rw [readDigits_nil, Nat.ofDigitChars_nil, Except.ok.injEq]
    constructor
    · rintro rfl
      exact ⟨rfl, rfl, hacc⟩
    · exact fun h => h.2.1
  | cons c cs ih =>
    rw [readDigits, List.all_cons, Nat.ofDigitChars_cons]
    by_cases hd : c.isDigit
    · rw [if_pos hd, hd, Bool.true_and]
      by_cases hle : 10 * acc + digitValue c ≤ limit
      · simp only [if_pos hle]
        exact ih _ hle
      · -- the value only grows with the digits that follow
        simp only [if_neg hle]
        refine ⟨fun h => (nomatch h), fun ⟨_, hn, hmax⟩ => absurd ?_ hle⟩
        exact Nat.le_trans (le_ofDigitChars cs _) (hn ▸ hmax)
    · rw [if_neg hd, Bool.eq_false_iff.mpr hd, Bool.false_and]
      exact ⟨fun h => (nomatch h), fun h => (nomatch h.1)⟩

theorem readMagnitude_eq_ok_iff (n : Nat) : readMagnitude limit overflow ds = .ok n ↔
    ds ≠ [] ∧ ds.all Char.isDigit ∧ digitsValue ds = n ∧ n ≤ limit := by
  cases ds with
  | nil => exact ⟨fun h => (nomatch h), fun h => absurd rfl h.1⟩
  | cons c cs =>
    show readDigits limit overflow 0 (c :: cs) = .ok n ↔ _
    rw [readDigits_eq_ok_iff limit overflow _ 0 n (Nat.zero_le limit)]
    exact (and_iff_right (List.cons_ne_nil c cs)).symm

theorem readNat_eq_ok_iff (hd : ds.all Char.isDigit) (n : Nat) :
    readNat limit ds = .ok n ↔ ds ≠ [] ∧ digitsValue ds = n ∧ n ≤ limit := by
  have hread : ds ≠ [] → readNat limit ds = readMagnitude limit .tooLarge ds := by
    intro hne
    unfold readNat
    split
    · exact absurd rfl hne
    · exact absurd (List.all_eq_true.mp hd '+' List.mem_cons_self) (by decide)
    · rfl
  by_cases hne : ds = []
  · rw [hne]
    exact ⟨fun h => (nomatch h), fun h => absurd rfl h.1⟩
  · rw [hread hne, readMagnitude_eq_ok_iff]
    exact and_congr_right fun _ => and_iff_right hd

end

/-! ## digits of a value -/

theorem digitChar_of_isDigit (c : Char) (h : c.isDigit) :
    c.toNat - '0'.toNat < 10 ∧ Nat.digitChar (c.toNat - '0'.toNat) = c := by
  obtain ⟨hlow, hhigh⟩ := Char.isDigit_iff_toNat.mp h
  have hzero : '0'.toNat = 48 := rfl
  have hnine : '9'.toNat = 57 := rfl
  have hlt : c.toNat - '0'.toNat < 10 := by omega
  refine ⟨hlt, Char.toNat_inj.mp ?_⟩
  rw [Nat.toNat_digitChar_of_lt_ten hlt]
  omega

/-- digits behind those of a number that is not zero go on with it -/
theorem toDigits_ofDigitChars (cs : List Char) (hd : cs.all Char.isDigit) (acc : Nat) (hacc : 0 < acc) :
    Nat.toDigits 10 (Nat.ofDigitChars 10 cs acc) = Nat.toDigits 10 acc ++ cs := by
  induction cs generalizing acc with
  | nil => rw [Nat.ofDigitChars_nil, List.append_nil]
  | cons c cs ih =>
    rw [List.all_cons, Bool.and_eq_true] at hd
    obtain ⟨hlt, hchar⟩ := digitChar_of_isDigit c hd.1
    have hnext : Nat.toDigits 10 (10 * acc + (c.toNat - '0'.toNat)) = Nat.toDigits 10 acc ++ [c] := by
      rw [← Nat.toDigits_append_toDigits (by decide) hacc hlt, Nat.toDigits_of_lt_base hlt, hchar]
    rw [Nat.ofDigitChars_cons, ih hd.2 _ (by omega), hnext, List.append_assoc, List.singleton_append]

theorem toDigits_digitsValue (cs : List Char) (hd : cs.all Char.isDigit) (hpos : 0 < digitsValue cs) :
    Nat.toDigits 10 (digitsValue cs) = cs.dropWhile (· == '0') := by
  induction cs with
  | nil => exact absurd hpos (Nat.lt_irrefl 0)
  | cons c cs ih =>
    rw [List.all_cons, Bool.and_eq_true] at hd
    obtain ⟨hlt, hchar⟩ := digitChar_of_isDigit c hd.1
    have hvalue : digitsValue (c :: cs) = Nat.ofDigitChars 10 cs (c.toNat - '0'.toNat) := by
      rw [digitsValue, Nat.ofDigitChars_cons, Nat.mul_zero, Nat.zero_add]
    by_cases hc : c = '0'
    · subst hc
      rw [hvalue] at hpos ⊢
      rw [List.dropWhile_cons_of_pos (by rfl)]
      exact ih hd.2 hpos
    · have hne : c.toNat - '0'.toNat ≠ 0 := fun e => hc (by rw [← hchar, e]; rfl)
      rw [List.dropWhile_cons_of_neg (by simpa using hc), hvalue,
        toDigits_ofDigitChars cs hd.2 _ (Nat.pos_of_ne_zero hne), Nat.toDigits_of_lt_base hlt, hchar,
        List.singleton_append]

/-! ## numbers with a sign -/

/-- the digits of a number, after a sign if it is below zero -/
def integerText : Int → List Char
  | .ofNat n => Nat.toDigits 10 n
  | .negSucc n => '-' :: Nat.toDigits 10 (n + 1)

/-- the number has `bits` bits, its sign among them -/
def InRange (bits : Nat) (n : Int) : Prop := -(2 ^ (bits - 1) : Nat) ≤ n ∧ n ≤ (2 ^ (bits - 1) - 1 : Nat)

instance (bits : Nat) (n : Int) : Decidable (InRange bits n) := inferInstanceAs (Decidable (_ ∧ _))

theorem readMagnitude_toDigits (limit : Nat) (overflow : IntegerError) (n : Nat) (h : n ≤ limit) :
    readMagnitude limit overflow (Nat.toDigits 10 n) = .ok n := by
  rw [readMagnitude_eq_ok_iff]
  exact ⟨Nat.toDigits_ne_nil, all_isDigit_toDigits n, digitsValue_toDigits n, h⟩

theorem readInt_integerText (bits : Nat) (n : Int) (h : InRange bits n) :
    readInt bits (integerText n) = .ok n := by
  obtain ⟨hlow, hhigh⟩ := h
  cases n with
  | ofNat n =>
    have hle : n ≤ 2 ^ (bits - 1) - 1 := Int.ofNat_le.mp hhigh
    have hhead : ∀ c cs, Nat.toDigits 10 n = c :: cs → c.isDigit := fun c cs e =>
      List.all_eq_true.mp (all_isDigit_toDigits n) c (e ▸ List.mem_cons_self)
    show readInt bits (Nat.toDigits 10 n) = _
    unfold readInt
    rw [Nat.pow_eq]
    split
    · next e => exact absurd e Nat.toDigits_ne_nil
    · next e => exact absurd (hhead _ _ e) (by decide)
    · next e => exact absurd (hhead _ _ e) (by decide)
    · rw [readMagnitude_toDigits _ _ n hle]
      rfl
  | negSucc n =>
    have hle : n + 1 ≤ 2 ^ (bits - 1) := by omega
    show (fun n => -Int.ofNat n) <$> readMagnitude (2 ^ (bits - 1)) .tooSmall (Nat.toDigits 10 (n + 1)) = _
    rw [readMagnitude_toDigits _ _ (n + 1) hle]
    rfl

theorem exists_of_map_ok {α β ε : Type} (f : α → β) (result : Except ε α) (value : β)
    (h : result.map f = .ok value) : ∃ a, result = .ok a ∧ f a = value := by
  cases result with
  | error cause => cases h
  | ok a => exact ⟨a, rfl, Except.ok.inj h⟩

theorem inRange_of_readInt (bits : Nat) (cs : List Char) (n : Int) (h : readInt bits cs = .ok n) :
    InRange bits n := by
  have hbound : ∀ limit overflow ds m, readMagnitude limit overflow ds = .ok m → m ≤ limit :=
    fun limit overflow ds m hm => ((readMagnitude_eq_ok_iff limit overflow ds m).mp hm).2.2.2
  have hpos := Nat.two_pow_pos (bits - 1)
  unfold readInt at h
  rw [Nat.pow_eq] at h
  unfold InRange
  generalize 2 ^ (bits - 1) = limit at hpos h ⊢
  split at h
  · cases h
  all_goals
    obtain ⟨m, hm, rfl⟩ := exists_of_map_ok _ _ _ h
    have hle := hbound _ _ _ m hm
    simp only [Int.ofNat_eq_natCast]
    omega

end FormulaGrid.Number
