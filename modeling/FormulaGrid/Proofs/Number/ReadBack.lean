import FormulaGrid.Proofs.Number.Double
import FormulaGrid.Proofs.Number.Numeral

/-!
# Written numbers read back

* `nearestBits_of_units`   a quotient with as many units as a double is nearest to that double;
* `bits_exact`           the exact decimal of a double is nearest to that double;
* `bits_shortest`        so is the one that is written;
* `positional_read`      what is written is a numeral, and what is read from it has the same bits;
* `magnitudeText`        the text of a finite double without its sign;
* `write_nan`, `write_infinite`, `write_finite`   what is written, by the kind of number.

The decimal that is read is not the one that was written: zeros were added in front of it or behind
it, or taken away at the end of its fraction.  `nearestBits_scale` says that this does not matter.
-/

namespace FormulaGrid.Number

/-! ## units -/

theorem log2_mul_two_pow (n k : Nat) (h : n ≠ 0) : (n * 2 ^ k).log2 = n.log2 + k := by
  induction k with
  | zero => rw [Nat.pow_zero, Nat.mul_one, Nat.add_zero]
  | succ k ih =>
    have hne : n * 2 ^ k ≠ 0 := Nat.mul_ne_zero h (Nat.ne_of_gt (Nat.two_pow_pos k))
    rw [Nat.pow_succ', Nat.mul_left_comm, Nat.log2_two_mul hne, ih, Nat.add_assoc]

theorem significand_eq (bits : Nat) :
    significand bits = if bits < 2 ^ 52 then bits else 2 ^ 52 + bits % 2 ^ 52 := rfl

theorem scale_eq (bits : Nat) : scale bits = bits / 2 ^ 52 - 1 := rfl

theorem scale_mul_add_significand (bits : Nat) : scale bits * 2 ^ 52 + significand bits = bits := by
  rw [scale_eq, significand_eq]
  split <;> omega

/-- the grid of a double is that of its units -/
theorem gridOf_units (bits : Nat) : gridOf (significand bits * 2 ^ scale bits) = scale bits := by
  rw [gridOf, significand_eq, scale_eq]
  by_cases hs : bits < 2 ^ 52
  · have h0 : bits / 2 ^ 52 = 0 := Nat.div_eq_of_lt hs
    have hlog : bits.log2 ≤ 52 := by
      rcases Nat.eq_zero_or_pos bits with rfl | hp
      · decide
      · exact Nat.le_of_lt ((Nat.log2_lt (by omega)).mpr hs)
    rw [if_pos hs, h0, Nat.zero_sub, Nat.pow_zero, Nat.mul_one]
    omega
  · have hlt : bits % 2 ^ 52 < 2 ^ 52 := Nat.mod_lt _ (by decide)
    have hlog : (2 ^ 52 + bits % 2 ^ 52).log2 = 52 :=
      (Nat.log2_eq_iff (by omega)).mpr ⟨by omega, by omega⟩
    rw [if_neg hs, log2_mul_two_pow _ _ (by omega), hlog, Nat.add_sub_cancel_left]

theorem nearestBits_eq (num den : Nat) : nearestBits num den =
    min infinityBits (gridOf (num * 2 ^ 1074 / den) * 2 ^ 52 +
      roundQuotient (num * 2 ^ 1074) (den * 2 ^ gridOf (num * 2 ^ 1074 / den))) := by
  -- stated for every exponent, because `2 ^ 1074` is too large to be compared by its value
  have hpow : ∀ k, Nat.pow 2 k = 2 ^ k := fun _ => rfl
  simp only [nearestBits, hpow, -Nat.reducePow]

/-- a finite double is `significand * 2 ^ scale` units of `2 ^ -1074` -/
theorem nearestBits_of_units (bits num den : Nat) (h : bits < infinityBits) (hd : 0 < den)
    (hu : num * 2 ^ 1074 = significand bits * 2 ^ scale bits * den) : nearestBits num den = bits := by
  have hgrid : gridOf (num * 2 ^ 1074 / den) = scale bits := by
    rw [hu, Nat.mul_div_cancel _ hd, gridOf_units]
  have hround : num * 2 ^ 1074 = significand bits * (den * 2 ^ scale bits) := by
    rw [hu, Nat.mul_assoc, Nat.mul_comm (2 ^ scale bits) den]
  have hpos : 0 < den * 2 ^ scale bits := Nat.mul_pos hd (Nat.two_pow_pos _)
  rw [nearestBits_eq, hgrid, hround, roundQuotient_mul_right _ _ hpos, scale_mul_add_significand]
  exact Nat.min_eq_right (Nat.le_of_lt h)

/-! ## the exact decimal -/

theorem bits_ofNat (c e : Nat) : (Decimal.mk c (.ofNat e)).bits = nearestBits (c * 10 ^ e) 1 := by
  show nearestBits (c * Nat.pow 10 e) 1 = _
  rw [Nat.pow_eq]

theorem bits_negSucc (c e : Nat) : (Decimal.mk c (.negSucc e)).bits = nearestBits c (10 ^ (e + 1)) := by
  show nearestBits c (Nat.pow 10 (e + 1)) = _
  rw [Nat.pow_eq]

theorem bits_neg_exponent (c k : Nat) : (Decimal.mk c (-k)).bits = nearestBits c (10 ^ k) := by
  cases k with
  | zero =>
    show (Decimal.mk c (.ofNat 0)).bits = _
    rw [bits_ofNat, Nat.pow_zero, Nat.mul_one]
  | succ k => exact bits_negSucc c k

theorem bits_exact (bits : Nat) (h : bits < infinityBits) : (Decimal.exact bits).bits = bits := by
  unfold Decimal.exact
  by_cases hs : 1074 ≤ scale bits
  · have hpow : ∀ k, k ≤ scale bits → 2 ^ scale bits = 2 ^ (scale bits - k) * 2 ^ k := fun k hk =>
      (Nat.pow_sub_mul_pow 2 hk).symm
    have hscale := hpow 1074 hs
    rw [if_pos hs]
    show (Decimal.mk (significand bits * 2 ^ (scale bits - 1074)) (.ofNat 0)).bits = bits
    rw [bits_ofNat, Nat.pow_zero, Nat.mul_one]
    apply nearestBits_of_units bits _ _ h Nat.one_pos
    rw [hscale, Nat.mul_one, Nat.mul_assoc]
  · have hten : 10 ^ (1074 - scale bits) = 2 ^ (1074 - scale bits) * 5 ^ (1074 - scale bits) := by
      rw [← Nat.mul_pow]
    have hscale : 2 ^ 1074 = 2 ^ scale bits * 2 ^ (1074 - scale bits) := by
      rw [← Nat.pow_add, Nat.add_sub_cancel' (by omega)]
    rw [if_neg hs]
    show (Decimal.mk (significand bits * 5 ^ (1074 - scale bits)) (-(1074 - scale bits : Nat))).bits = bits
    rw [bits_neg_exponent, hten, nearestBits_scale _ _ _ (Nat.pow_pos (by decide))]
    apply nearestBits_of_units bits _ _ h (Nat.two_pow_pos _)
    rw [hscale, Nat.mul_assoc]

theorem bits_shortest (bits : Nat) (h : bits < infinityBits) : (Decimal.shortest bits).bits = bits := by
  unfold Decimal.shortest
  simp only
  cases hf : (List.range 17).findSome? fun n => ((Decimal.exact bits).shortened
      ((Nat.toDigits 10 (Decimal.exact bits).coefficient).length - (n + 1))).find?
        fun d => d.bits = bits with
  | none => exact bits_exact bits h
  | some d =>
    obtain ⟨n, _, hn⟩ := List.exists_of_findSome?_eq_some hf
    have hd := List.find?_some hn
    exact of_decide_eq_true hd

/-! ## positional notation -/

theorem digitsValue_toDigits (n : Nat) : digitsValue (Nat.toDigits 10 n) = n :=
  Nat.ofDigitChars_ten_toDigits

theorem digitsValue_append (a b : List Char) :
    digitsValue (a ++ b) = 10 ^ b.length * digitsValue a + digitsValue b := by
  rw [digitsValue, Nat.ofDigitChars_append, Nat.ofDigitChars_eq_ofDigitChars_zero]
  rfl

theorem digitsValue_zeros_append (k : Nat) (cs : List Char) :
    digitsValue (List.replicate k '0' ++ cs) = digitsValue cs := by
  have hzero : digitsValue (List.replicate k '0') = 0 := by
    rw [digitsValue, Nat.ofDigitChars_replicate_zero, Nat.mul_zero]
  rw [digitsValue_append, hzero, Nat.mul_zero, Nat.zero_add]

theorem digitsValue_append_zeros (k : Nat) (cs : List Char) :
    digitsValue (cs ++ List.replicate k '0') = 10 ^ k * digitsValue cs := by
  have hzero : digitsValue (List.replicate k '0') = 0 := by
    rw [digitsValue, Nat.ofDigitChars_replicate_zero, Nat.mul_zero]
  rw [digitsValue_append, hzero, List.length_replicate, Nat.add_zero]

theorem all_isDigit_toDigits (n : Nat) : (Nat.toDigits 10 n).all Char.isDigit :=
  List.all_eq_true.mpr fun _ hc => Nat.isDigit_of_mem_toDigits (by decide) (by decide) hc

theorem all_isDigit_zeros (k : Nat) : (List.replicate k '0').all Char.isDigit :=
  List.all_eq_true.mpr fun _ hc => by
    rw [List.eq_of_mem_replicate hc]
    decide

/-- digits are those of a shorter text and zeros -/
theorem exists_writeFraction (cs : List Char) : ∃ fs k, cs = fs ++ List.replicate k '0' ∧
    writeFraction cs = if fs = [] then [] else '.' :: fs := by
  refine ⟨(cs.reverse.dropWhile (· == '0')).reverse, (cs.reverse.takeWhile (· == '0')).length, ?_, ?_⟩
  · have hzeros : cs.reverse.takeWhile (· == '0')
        = List.replicate (cs.reverse.takeWhile (· == '0')).length '0' := by
      apply List.eq_replicate_of_mem
      intro c hc
      exact eq_of_beq (List.all_eq_true.mp List.all_takeWhile c hc)
    rw [← List.reverse_replicate, ← hzeros, ← List.reverse_append, List.takeWhile_append_dropWhile,
      List.reverse_reverse]
  · unfold writeFraction
    split
    · next h => rw [if_pos h]
    · next h => rw [if_neg h]

/-- a decimal with places is written with digits before the point, and zeros may be taken away after it -/
theorem exists_positional (c e : Nat) : ∃ ws fs k, ws ≠ [] ∧ ws.all Char.isDigit ∧ fs.all Char.isDigit ∧
    e + 1 = fs.length + k ∧ c = digitsValue (ws ++ fs) * 10 ^ k ∧
    (Decimal.mk c (.negSucc e)).positional = ws ++ if fs = [] then [] else '.' :: fs := by
  -- the padded digits have at least one more than there are places, so some stand before the point
  have hpad : ∃ padded : List Char, padded.all Char.isDigit ∧ digitsValue padded = c ∧
      e + 1 < padded.length ∧ (Decimal.mk c (.negSucc e)).positional =
        padded.take (padded.length - (e + 1)) ++ writeFraction (padded.drop (padded.length - (e + 1))) := by
    refine ⟨List.replicate (e + 1 + 1 - (Nat.toDigits 10 c).length) '0' ++ Nat.toDigits 10 c, ?_, ?_, ?_, rfl⟩
    · rw [List.all_append, all_isDigit_zeros, all_isDigit_toDigits, Bool.and_true]
    · rw [digitsValue_zeros_append, digitsValue_toDigits]
    · rw [List.length_append, List.length_replicate]
      omega
  obtain ⟨padded, hall, hvalue, hlen, htext⟩ := hpad
  obtain ⟨fs, k, hfs, hwrite⟩ := exists_writeFraction (padded.drop (padded.length - (e + 1)))
  generalize hw : padded.take (padded.length - (e + 1)) = ws at htext
  have hsplit : padded = ws ++ (fs ++ List.replicate k '0') := by
    rw [← hfs, ← hw, List.take_append_drop]
  have hplaces : e + 1 = fs.length + k := by
    have h := congrArg List.length hfs
    rw [List.length_drop, List.length_append, List.length_replicate] at h
    omega
  rw [hsplit, List.all_append, List.all_append, Bool.and_eq_true, Bool.and_eq_true] at hall
  refine ⟨ws, fs, k, ?_, hall.1, hall.2.1, hplaces, ?_, by rw [htext, hwrite]⟩
  · rintro rfl
    have h := congrArg List.length hsplit
    rw [List.nil_append, List.length_append, List.length_replicate] at h
    omega
  · rw [← hvalue, hsplit, ← List.append_assoc, digitsValue_append_zeros, Nat.mul_comm]

theorem positional_read_whole (c e : Nat) : Numeral (Decimal.mk c (.ofNat e)).positional ∧
    ∃ d', readUnsigned? (Decimal.mk c (.ofNat e)).positional = some d' ∧
      d'.bits = (Decimal.mk c (.ofNat e)).bits := by
  have hall : (Nat.toDigits 10 c ++ List.replicate e '0').all Char.isDigit := by
    rw [List.all_append, all_isDigit_toDigits, all_isDigit_zeros, Bool.and_true]
  have hne : Nat.toDigits 10 c ++ List.replicate e '0' ≠ [] := by
    simp [Nat.toDigits_ne_nil]
  refine ⟨.whole _ hne hall, _, readUnsigned?_whole _ hne hall, ?_⟩
  show (Decimal.mk (digitsValue (Nat.toDigits 10 c ++ List.replicate e '0')) 0).bits = _
  rw [digitsValue_append_zeros, digitsValue_toDigits]
  show (Decimal.mk (10 ^ e * c) (.ofNat 0)).bits = _
  rw [bits_ofNat, bits_ofNat, Nat.pow_zero, Nat.mul_one, Nat.mul_comm]

theorem positional_read_places (c e : Nat) : Numeral (Decimal.mk c (.negSucc e)).positional ∧
    ∃ d', readUnsigned? (Decimal.mk c (.negSucc e)).positional = some d' ∧
      d'.bits = (Decimal.mk c (.negSucc e)).bits := by
  obtain ⟨ws, fs, k, hws, hwhole, hfraction, hplaces, hc, htext⟩ := exists_positional c e
  -- the zeros that were taken away are a common factor
  have hbits : (Decimal.mk c (.negSucc e)).bits = nearestBits (digitsValue (ws ++ fs)) (10 ^ fs.length) := by
    rw [bits_negSucc, hplaces, Nat.pow_add, hc, nearestBits_scale _ _ _ (Nat.pow_pos (by decide))]
  rw [htext, hbits]
  by_cases hf : fs = []
  · subst hf
    rw [if_pos rfl, List.append_nil]
    refine ⟨.whole ws hws hwhole, _, readUnsigned?_whole ws hws hwhole, ?_⟩
    exact bits_neg_exponent (digitsValue ws) 0
  · rw [if_neg hf]
    refine ⟨.point ws fs hws hwhole hfraction, _,
      readUnsigned?_point ws fs (Or.inl hws) hwhole hfraction, ?_⟩
    exact bits_neg_exponent _ _

/-- **What is written is a numeral, and the decimal that is read from it has the same bits.** -/
theorem positional_read (d : Decimal) : Numeral d.positional ∧
    ∃ d', readUnsigned? d.positional = some d' ∧ d'.bits = d.bits := by
  obtain ⟨c, exponent⟩ := d
  cases exponent with
  | ofNat e => exact positional_read_whole c e
  | negSucc e => exact positional_read_places c e

/-! ## doubles -/

def magnitudeText (x : Float) : List Char := (Decimal.shortest (magnitude x)).positional

theorem numeral_magnitudeText (x : Float) : Numeral (magnitudeText x) := (positional_read _).1

theorem readFloat?_magnitudeText (x : Float) (hf : x.isFinite = true) :
    readFloat? (magnitudeText x) = some (Float.ofBits (magnitude x).toUInt64) := by
  obtain ⟨d', hread, hbits⟩ := (positional_read (Decimal.shortest (magnitude x))).2
  rw [(numeral_magnitudeText x).readFloat?_eq, magnitudeText, hread, Option.map_some, Decimal.toFloat,
    hbits, bits_shortest _ ((isFinite_iff x).mp hf)]

/-! ## what is written, by the kind of number -/

theorem write_nan (style : Style) (x : Float) (h : x.isNaN = true) : write style x = ['N', 'a', 'N'] :=
  if_pos ((isNaN_iff x).mp h)

theorem write_infinite (style : Style) (x : Float) (hm : magnitude x = infinityBits) :
    write style x = if isNegative x = true then '-' :: style.infinity else style.infinity := by
  have hlt : ¬ infinityBits < magnitude x := by rw [hm]; exact Nat.lt_irrefl _
  have hne : (magnitude x != 0) = true := by rw [hm]; rfl
  simp only [write, if_neg hlt, if_pos hm, hne, Bool.or_true, Bool.and_true]

theorem write_finite (style : Style) (x : Float) (hf : x.isFinite = true) : write style x =
    if (isNegative x && (style.signedZero || magnitude x != 0)) = true then '-' :: magnitudeText x
    else magnitudeText x := by
  have hm := (isFinite_iff x).mp hf
  have hlt : ¬ infinityBits < magnitude x := Nat.not_lt.mpr (Nat.le_of_lt hm)
  simp only [write, if_neg hlt, if_neg (Nat.ne_of_lt hm)]
  rfl

theorem write_operandStyle (x : Float) (hf : x.isFinite = true) :
    write operandStyle x = if isNegative x then '-' :: magnitudeText x else magnitudeText x := by
  have hsign : (isNegative x && (operandStyle.signedZero || magnitude x != 0)) = isNegative x :=
    Bool.and_true _
  rw [write_finite operandStyle x hf, hsign]

end FormulaGrid.Number
