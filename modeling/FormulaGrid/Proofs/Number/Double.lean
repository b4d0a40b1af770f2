import Mathlib.Algebra.Group.Nat.Defs
import FormulaGrid.Number.Written

/-!
# Doubles and their bits

* `packed s e m`    the 64 bits with a sign, an exponent field and a fraction field;
* `fields s e m`    the double with these bits, taken apart;
* `fields_cases`    the kinds of doubles, told by their fields;
* `ofBits_toBits`   a double is given by its bits;
* `ofBits_magnitude`, `neg_ofBits_magnitude`   a finite double is the one with the bits of its
                    magnitude, or that with the other sign;
* `toBits_ofBits`   bits are those of their double, unless they are those of a NaN;
* `isFinite_iff`, `isNaN_iff`, `lt_zero_iff`, `eq_neg_zero_iff`   what finiteness, being no number, the
                    comparison with zero and the zero below zero say about sign and magnitude.
-/

namespace FormulaGrid.Number
open Float.Model Float.Model.UnpackedFloat

/-! ## fields -/

def packed (s : Sign) (e : BitVec 11) (m : BitVec 52) : BitVec 64 :=
  packComponents Format.binary64 s e m

theorem toNat_packed (s : Sign) (e : BitVec 11) (m : BitVec 52) :
    (packed s e m).toNat = s.toBitVec.toNat * 2 ^ 63 + e.toNat * 2 ^ 52 + m.toNat := by
  have he := e.isLt
  have hm := m.isLt
  unfold packed packComponents
  rw [BitVec.toNat_append, BitVec.toNat_append, ← Nat.shiftLeft_add_eq_or_of_lt hm,
    ← Nat.shiftLeft_add_eq_or_of_lt he, Nat.shiftLeft_eq, Nat.shiftLeft_eq]
  omega

theorem exists_packed (b : BitVec 64) : ∃ s e m, b = packed s e m := by
  have hb := b.isLt
  have hsign : ∃ s : Sign, s.toBitVec.toNat = b.toNat / 2 ^ 63 := by
    have h : b.toNat / 2 ^ 63 = 0 ∨ b.toNat / 2 ^ 63 = 1 := by omega
    rcases h with h | h
    · exact ⟨.positive, h.symm⟩
    · exact ⟨.negative, h.symm⟩
  obtain ⟨s, hs⟩ := hsign
  refine ⟨s, BitVec.ofNat 11 (b.toNat / 2 ^ 52), BitVec.ofNat 52 b.toNat, ?_⟩
  apply BitVec.eq_of_toNat_eq
  rw [toNat_packed, BitVec.toNat_ofNat, BitVec.toNat_ofNat, hs]
  omega

theorem unpackSign_packed (s : Sign) (e : BitVec 11) (m : BitVec 52) :
    unpackSign (packComponents Format.binary64 s e m) = s.toBitVec := by
  have he := e.isLt
  have hm := m.isLt
  have hs := s.toBitVec.isLt
  have hn : (packComponents Format.binary64 s e m).toNat = _ := toNat_packed s e m
  apply BitVec.eq_of_toNat_eq
  delta unpackSign
  simp only [BitVec.toNat_cast, BitVec.extractLsb_toNat, hn, Nat.shiftRight_eq_div_pow]
  omega

theorem ofBitVec_toBitVec (s : Sign) : Sign.ofBitVec s.toBitVec = s := by
  cases s <;> rfl

/-- the double with the given fields: the largest exponent field is that of infinities and NaN, the
smallest that of zeros and of the doubles without a leading bit -/
def fields (s : Sign) (e : BitVec 11) (m : BitVec 52) : UnpackedFloat :=
  if e = -1#11 then
    if m = 0#52 then .infinity s else .notANumber
  else if e = 0#11 then
    if hm : m = 0#52 then .zero s
    else .finite s m.toNat (-1074) (by simpa [BitVec.toNat_pos, BitVec.pos_iff_ne_zero] using hm)
  else .finite s (2 ^ 52 + m.toNat) (e.toNat - 1075) (by omega)

/-- fields are those of an infinity, of NaN, of a zero or of another finite double -/
theorem fields_cases (s : Sign) (e : BitVec 11) (m : BitVec 52) :
    (e = -1#11 ∧ m = 0#52 ∧ fields s e m = .infinity s) ∨
    (e = -1#11 ∧ m ≠ 0#52 ∧ fields s e m = .notANumber) ∨
    (e = 0#11 ∧ m = 0#52 ∧ fields s e m = .zero s) ∨
    (e ≠ -1#11 ∧ ¬ (e = 0#11 ∧ m = 0#52) ∧ ∃ q x hq, fields s e m = .finite s q x hq) := by
  unfold fields
  by_cases he : e = -1#11
  · by_cases hm : m = 0#52
    · exact Or.inl ⟨he, hm, by rw [if_pos he, if_pos hm]⟩
    · exact Or.inr (Or.inl ⟨he, hm, by rw [if_pos he, if_neg hm]⟩)
  · right
    right
    rw [if_neg he]
    by_cases hz : e = 0#11
    · rw [if_pos hz]
      by_cases hm : m = 0#52
      · exact Or.inl ⟨hz, hm, dif_pos hm⟩
      · exact Or.inr ⟨he, fun h => hm h.2, _, _, _, dif_neg hm⟩
    · exact Or.inr ⟨he, fun h => hz h.1, _, _, _, if_neg hz⟩

theorem finite_congr (s : Sign) (p q : Nat) (x y : Int) (hp : 0 < p) (hq : 0 < q) (hpq : p = q)
    (hxy : x = y) : UnpackedFloat.finite s p x hp = .finite s q y hq := by
  subst hpq hxy
  rfl

theorem unpack_eq_fields (b : BitVec Format.binary64.numBits) : UnpackedFloat.unpack Format.binary64 b =
    fields (Sign.ofBitVec (unpackSign b)) (unpackExponent b) (unpackMantissa b) := by
  have happ : ∀ m : BitVec 52, (1#1 ++ m).toNat = 2 ^ 52 + m.toNat := by
    intro m
    rw [BitVec.toNat_append, ← Nat.shiftLeft_add_eq_or_of_lt m.isLt]
    rfl
  unfold UnpackedFloat.unpack fields
  by_cases he : (unpackExponent b : BitVec 11) = -1#11
  · rw [if_pos he, if_pos he]
  · rw [if_neg he, if_neg he]
    by_cases hz : (unpackExponent b : BitVec 11) = 0#11
    · rw [if_pos hz, if_pos hz]
      by_cases hm : (unpackMantissa b : BitVec 52) = 0#52
      · rw [dif_pos hm, dif_pos hm]
      · rw [dif_neg hm, dif_neg hm]
        apply finite_congr _ _ _ _ _ _ _ rfl
        rw [hz]
        rfl
    · rw [if_neg hz, if_neg hz]
      exact finite_congr _ _ _ _ _ _ _ (happ _) rfl

theorem unpack_packed (s : Sign) (e : BitVec 11) (m : BitVec 52) :
    UnpackedFloat.unpack Format.binary64 (packed s e m) = fields s e m := by
  unfold packed
  rw [unpack_eq_fields, unpackSign_packed, ofBitVec_toBitVec, unpackExponent_packComponents,
    unpackMantissa_packComponents]

theorem pack_finite (s : Sign) (q : Nat) (x : Int) (hq : 0 < q) :
    UnpackedFloat.pack Format.binary64 (.finite s q x hq) =
      if 2 ^ 11 ≤ (x + 1023 + 52).toNat + 1 then packedInfinity Format.binary64 s
      else if q.log2 + 1 = 53 then packed s (BitVec.ofNat 11 (x + 1023 + 52).toNat) (BitVec.ofNat 52 q)
      else packed s 0#11 (BitVec.ofNat 52 q) := rfl

/-- packing gives the fields back, but for NaN, which has one form only -/
theorem pack_fields (s : Sign) (e : BitVec 11) (m : BitVec 52) (h : e = -1#11 → m = 0#52) :
    UnpackedFloat.pack Format.binary64 (fields s e m) = packed s e m := by
  have hlt := m.isLt
  have hle := e.isLt
  unfold fields
  by_cases he : e = -1#11
  · obtain rfl := h he
    rw [if_pos he, if_pos rfl, he]
    rfl
  · have he' : e.toNat ≠ 2047 := fun e' => he (BitVec.eq_of_toNat_eq e')
    rw [if_neg he]
    by_cases hz : e = 0#11
    · rw [if_pos hz]
      by_cases hm : m = 0#52
      · rw [dif_pos hm, hz, hm]
        rfl
      · have hm0 : m.toNat ≠ 0 := fun e' => hm (BitVec.eq_of_toNat_eq e')
        have hlog : m.toNat.log2 < 52 := (Nat.log2_lt hm0).mpr hlt
        have hsub : ¬ m.toNat.log2 + 1 = 53 := by omega
        rw [dif_neg hm, pack_finite, if_neg (by decide), if_neg hsub, hz, BitVec.ofNat_toNat,
          BitVec.setWidth_eq]
    · have hz' : e.toNat ≠ 0 := fun e' => hz (BitVec.eq_of_toNat_eq e')
      have hlog : (2 ^ 52 + m.toNat).log2 + 1 = 53 := by
        rw [Nat.succ_inj, Nat.log2_eq_iff (by omega)]
        omega
      have hm : BitVec.ofNat 52 (2 ^ 52 + m.toNat) = m := by
        apply BitVec.eq_of_toNat_eq
        rw [BitVec.toNat_ofNat]
        omega
      have hexp : ((e.toNat : Int) - 1075 + 1023 + 52).toNat = e.toNat := by omega
      have hle' : ¬ 2 ^ 11 ≤ e.toNat + 1 := by omega
      rw [if_neg hz, pack_finite, hexp, if_neg hle', if_pos hlog, hm, BitVec.ofNat_toNat,
        BitVec.setWidth_eq]

theorem neg_fields (s : Sign) (e : BitVec 11) (m : BitVec 52) :
    (fields s e m).neg = fields (-s) e m := by
  unfold fields
  by_cases he : e = -1#11
  · rw [if_pos he, if_pos he]
    by_cases hm : m = 0#52
    · rw [if_pos hm, if_pos hm]
      rfl
    · rw [if_neg hm, if_neg hm]
      rfl
  · rw [if_neg he, if_neg he]
    by_cases hz : e = 0#11
    · rw [if_pos hz, if_pos hz]
      by_cases hm : m = 0#52
      · rw [dif_pos hm, dif_pos hm]
        rfl
      · rw [dif_neg hm, dif_neg hm]
        rfl
    · rw [if_neg hz, if_neg hz]
      rfl

/-! ## doubles -/

theorem toBits_inj (x y : Float) (h : x.toBits = y.toBits) : x = y := by
  obtain ⟨a, ha⟩ := x
  obtain ⟨b, hb⟩ := y
  obtain rfl : a = b := h
  rfl

/-- every double has fields, and its NaN has the fields of the one NaN -/
theorem exists_fields (x : Float) : ∃ s e m, x.toBits.toBitVec = packed s e m ∧
    x.toModel.unpack = fields s e m ∧
    (e = -1#11 → m ≠ 0#52 → packed s e m = packedNaN Format.binary64) := by
  obtain ⟨s, e, m, h⟩ := exists_packed x.toBits.toBitVec
  refine ⟨s, e, m, h, ?_, fun he hm => ?_⟩
  · show UnpackedFloat.unpack Format.binary64 x.toBits.toBitVec = _
    rw [h]
    exact unpack_packed s e m
  · have hv : Format.binary64.Valid x.toBits.toBitVec := x.toModel.valid
    rw [h] at hv
    apply hv.eq_packedNaN
    · show unpackExponent (packComponents Format.binary64 s e m) = _
      rw [unpackExponent_packComponents]
      exact he
    · show unpackMantissa (packComponents Format.binary64 s e m) ≠ _
      rw [unpackMantissa_packComponents]
      exact hm

theorem ofBits_toBits (x : Float) : Float.ofBits x.toBits = x := by
  obtain ⟨s, e, m, h, _, hnan⟩ := exists_fields x
  apply toBits_inj
  apply UInt64.toBitVec_inj.mp
  show UnpackedFloat.pack Format.binary64
    (UnpackedFloat.unpack Format.binary64 x.toBits.toBitVec) = x.toBits.toBitVec
  rw [h, unpack_packed]
  by_cases hc : e = -1#11 → m = 0#52
  · exact pack_fields s e m hc
  · obtain ⟨he, hm⟩ := Classical.not_imp.mp hc
    rw [hnan he hm, fields, if_pos he, if_neg hm]
    rfl

theorem toBits_zero : (0 : Float).toBits.toBitVec = packed .positive 0#11 0#52 := by decide +kernel

theorem toBits_neg_ofBits (b : UInt64) (s : Sign) (e : BitVec 11) (m : BitVec 52)
    (hb : b.toBitVec = packed s e m) (h : e = -1#11 → m = 0#52) :
    (-(Float.ofBits b)).toBits.toBitVec = packed (-s) e m := by
  show UnpackedFloat.pack Format.binary64 (UnpackedFloat.unpack Format.binary64
    (UnpackedFloat.pack Format.binary64 (UnpackedFloat.unpack Format.binary64 b.toBitVec))).neg = _
  rw [hb, unpack_packed, pack_fields s e m h, unpack_packed, neg_fields]
  exact pack_fields (-s) e m h

/-! ## sign and magnitude -/

section
variable (x : Float) (s : Sign) (e : BitVec 11) (m : BitVec 52)

theorem toNat_toBits (h : x.toBits.toBitVec = packed s e m) :
    x.toBits.toNat = s.toBitVec.toNat * 2 ^ 63 + e.toNat * 2 ^ 52 + m.toNat := by
  rw [← toNat_packed, ← h]
  rfl

theorem magnitude_eq (h : x.toBits.toBitVec = packed s e m) :
    magnitude x = e.toNat * 2 ^ 52 + m.toNat := by
  have he := e.isLt
  have hm := m.isLt
  rw [magnitude, Nat.pow_eq, toNat_toBits x s e m h]
  omega

theorem isNegative_iff (h : x.toBits.toBitVec = packed s e m) :
    isNegative x = true ↔ s = .negative := by
  have he := e.isLt
  have hm := m.isLt
  rw [isNegative, toNat_toBits x s e m h, decide_eq_true_eq]
  cases s with
  | negative => simp [Sign.toBitVec]; omega
  | positive => simp [Sign.toBitVec]; omega

theorem isFinite_fields : (fields s e m).isFinite = true ↔ e ≠ -1#11 := by
  rcases fields_cases s e m with ⟨he, _, h⟩ | ⟨he, _, h⟩ | ⟨he, _, h⟩ | ⟨he, _, _, _, _, h⟩
  · exact iff_of_false (by rw [h]; nofun) fun hne => hne he
  · exact iff_of_false (by rw [h]; nofun) fun hne => hne he
  · exact iff_of_true (by rw [h]; rfl) (by rw [he]; decide)
  · exact iff_of_true (by rw [h]; rfl) he

theorem isNaN_fields : (fields s e m).isNaN = true ↔ e = -1#11 ∧ m ≠ 0#52 := by
  rcases fields_cases s e m with ⟨_, hm, h⟩ | ⟨he, hm, h⟩ | ⟨_, hm, h⟩ | ⟨he, _, _, _, _, h⟩
  · exact iff_of_false (by rw [h]; nofun) fun hne => hne.2 hm
  · exact iff_of_true (by rw [h]; rfl) ⟨he, hm⟩
  · exact iff_of_false (by rw [h]; nofun) fun hne => hne.2 hm
  · exact iff_of_false (by rw [h]; nofun) fun hne => he hne.1

end

theorem infinityBits_lt_iff (e : BitVec 11) (m : BitVec 52) :
    infinityBits < e.toNat * 2 ^ 52 + m.toNat ↔ e = -1#11 ∧ m ≠ 0#52 := by
  have he := e.isLt
  have hm := m.isLt
  have h1 : e = -1#11 ↔ e.toNat = 2047 := BitVec.toNat_inj.symm
  have h2 : m = 0#52 ↔ m.toNat = 0 := BitVec.toNat_inj.symm
  rw [ne_eq, h1, h2, infinityBits, Nat.pow_eq]
  omega

/-- NaN lies beyond the infinities -/
theorem isNaN_iff (x : Float) : x.isNaN = true ↔ infinityBits < magnitude x := by
  obtain ⟨s, e, m, h, hu, _⟩ := exists_fields x
  have hnan : x.isNaN = (fields s e m).isNaN := congrArg UnpackedFloat.isNaN hu
  rw [hnan, isNaN_fields, magnitude_eq x s e m h, infinityBits_lt_iff]

theorem magnitude_le_iff (x : Float) : magnitude x ≤ infinityBits ↔ x.isNaN = false := by
  rw [← Nat.not_lt, ← isNaN_iff, Bool.not_eq_true]

theorem isFinite_iff (x : Float) : x.isFinite = true ↔ magnitude x < infinityBits := by
  obtain ⟨s, e, m, h, hu, _⟩ := exists_fields x
  have he := e.isLt
  have hm := m.isLt
  have hfin : x.isFinite = (fields s e m).isFinite := congrArg UnpackedFloat.isFinite hu
  have hne : e ≠ -1#11 ↔ e.toNat ≠ 2047 := not_congr BitVec.toNat_inj.symm
  rw [hfin, isFinite_fields, hne, magnitude_eq x s e m h, infinityBits, Nat.pow_eq]
  omega

theorem isNaN_of_isFinite (x : Float) (h : x.isFinite = true) : x.isNaN = false :=
  (magnitude_le_iff x).mp (Nat.le_of_lt ((isFinite_iff x).mp h))

/-- what is neither finite nor NaN is infinite -/
theorem magnitude_eq_infinityBits (x : Float) (hn : x.isNaN = false) (hf : x.isFinite = false) :
    magnitude x = infinityBits := by
  have hle : ¬ magnitude x < infinityBits := mt (isFinite_iff x).mpr (Bool.eq_false_iff.mp hf)
  exact Nat.le_antisymm ((magnitude_le_iff x).mpr hn) (Nat.not_lt.mp hle)

theorem compare_finite_zero (s : Sign) (q : Nat) (x : Int) (hq : 0 < q) :
    (UnpackedFloat.finite s q x hq).compare (.zero .positive) = some .lt ↔ s = .negative := by
  cases s with
  | negative => exact ⟨fun _ => rfl, fun _ => rfl⟩
  | positive => exact ⟨nofun, nofun⟩

/-- a finite double below zero in the order of doubles has its sign set and is no zero -/
theorem lt_zero_iff (x : Float) (hf : x.isFinite = true) :
    x < 0 ↔ isNegative x = true ∧ magnitude x ≠ 0 := by
  obtain ⟨s, e, m, h, hu, _⟩ := exists_fields x
  have he : e ≠ -1#11 := (isFinite_fields s e m).mp ((congrArg UnpackedFloat.isFinite hu).symm.trans hf)
  have hzero : (0 : Float).toModel.unpack = .zero .positive := by
    show UnpackedFloat.unpack Format.binary64 (0 : Float).toBits.toBitVec = _
    rw [toBits_zero, unpack_packed]
    rfl
  have hlt : x < 0 ↔ (fields s e m).compare (.zero .positive) = some .lt := by
    show decide (x.toModel < (0 : Float).toModel) = true ↔ _
    rw [decide_eq_true_iff]
    show (x.toModel.unpack.compare (0 : Float).toModel.unpack == some .lt) = true ↔ _
    rw [hu, hzero, beq_iff_eq]
  have hmag : magnitude x ≠ 0 ↔ ¬ (e = 0#11 ∧ m = 0#52) := by
    have h1 : e = 0#11 ↔ e.toNat = 0 := BitVec.toNat_inj.symm
    have h2 : m = 0#52 ↔ m.toNat = 0 := BitVec.toNat_inj.symm
    rw [magnitude_eq x s e m h, h1, h2]
    omega
  rw [hlt, isNegative_iff x s e m h, hmag]
  rcases fields_cases s e m with ⟨he', _⟩ | ⟨he', _⟩ | ⟨hz, hm, hfields⟩ | ⟨_, hne, _, _, _, hfields⟩
  · exact absurd he' he
  · exact absurd he' he
  · rw [hfields]
    exact ⟨nofun, fun h => absurd ⟨hz, hm⟩ h.2⟩
  · rw [hfields, compare_finite_zero]
    exact ⟨fun hs => ⟨hs, hne⟩, fun h => h.1⟩

theorem toNat_toUInt64 (n : Nat) (h : n ≤ infinityBits) : n.toUInt64.toNat = n := by
  have hi : infinityBits < 2 ^ 64 := by decide
  exact Nat.mod_eq_of_lt (Nat.lt_of_le_of_lt h hi)

theorem ofBits_magnitude (x : Float) (hs : isNegative x = false) :
    Float.ofBits (magnitude x).toUInt64 = x := by
  have hb := x.toBits.toNat_lt
  have hn : magnitude x = x.toBits.toNat := by
    rw [isNegative, Nat.pow_eq, decide_eq_false_iff_not] at hs
    rw [magnitude, Nat.pow_eq]
    omega
  rw [hn]
  have hu : x.toBits.toNat.toUInt64 = x.toBits := UInt64.ofNat_toNat
  rw [hu]
  exact ofBits_toBits x

/-- the bits without a sign that an exponent and a fraction make up, if they are those of no NaN -/
theorem toBitVec_toUInt64 (n : Nat) (e : BitVec 11) (m : BitVec 52) (h : n ≤ infinityBits)
    (hn : n = e.toNat * 2 ^ 52 + m.toNat) :
    n.toUInt64.toBitVec = packed .positive e m ∧ (e = -1#11 → m = 0#52) := by
  constructor
  · apply BitVec.eq_of_toNat_eq
    rw [UInt64.toNat_toBitVec, toNat_toUInt64 n h, toNat_packed, hn]
    simp [Sign.toBitVec]
  · refine fun he => Decidable.byContradiction fun hm => ?_
    rw [hn] at h
    exact Nat.not_lt.mpr h ((infinityBits_lt_iff e m).mpr ⟨he, hm⟩)

theorem neg_ofBits_magnitude_of_not_nan (x : Float) (hn : x.isNaN = false) (hs : isNegative x = true) :
    -(Float.ofBits (magnitude x).toUInt64) = x := by
  obtain ⟨s, e, m, h, _, _⟩ := exists_fields x
  obtain rfl := (isNegative_iff x s e m h).mp hs
  obtain ⟨hb, hfields⟩ := toBitVec_toUInt64 _ e m ((magnitude_le_iff x).mpr hn) (magnitude_eq x _ e m h)
  have hneg := toBits_neg_ofBits _ .positive e m hb hfields
  apply toBits_inj
  apply UInt64.toBitVec_inj.mp
  rw [h, hneg]
  rfl

theorem neg_ofBits_magnitude (x : Float) (hf : x.isFinite = true) (hs : isNegative x = true) :
    -(Float.ofBits (magnitude x).toUInt64) = x :=
  neg_ofBits_magnitude_of_not_nan x (isNaN_of_isFinite x hf) hs

/-- whole numbers up to the bits of the infinity are the bits of no NaN, with either sign -/
theorem isNaN_ofBits_of_le (n : Nat) (h : n ≤ infinityBits) :
    (Float.ofBits n.toUInt64).isNaN = false ∧ (-Float.ofBits n.toUInt64).isNaN = false := by
  have hsplit : ∃ (e : BitVec 11) (m : BitVec 52), n = e.toNat * 2 ^ 52 + m.toNat := by
    refine ⟨BitVec.ofNat 11 (n / 2 ^ 52), BitVec.ofNat 52 n, ?_⟩
    rw [BitVec.toNat_ofNat, BitVec.toNat_ofNat]
    rw [infinityBits, Nat.pow_eq] at h
    omega
  obtain ⟨e, m, hn⟩ := hsplit
  obtain ⟨hb, hfields⟩ := toBitVec_toUInt64 n e m h hn
  have hnot : ∀ x : Float, ∀ s, x.toBits.toBitVec = packed s e m → x.isNaN = false := by
    intro x s hx
    rwa [← magnitude_le_iff, magnitude_eq x s e m hx, ← hn]
  have hpos : (Float.ofBits n.toUInt64).toBits.toBitVec = packed .positive e m := by
    show UnpackedFloat.pack Format.binary64 (UnpackedFloat.unpack Format.binary64 n.toUInt64.toBitVec) = _
    rw [hb, unpack_packed]
    exact pack_fields .positive e m hfields
  have hneg := toBits_neg_ofBits n.toUInt64 .positive e m hb hfields
  exact ⟨hnot _ _ hpos, hnot _ _ hneg⟩

/-- the bits of a double are those it was made of, unless it is NaN, which has one form only -/
theorem toBits_ofBits (b : UInt64) (h : (Float.ofBits b).isNaN = false) : (Float.ofBits b).toBits = b := by
  obtain ⟨s, e, m, hb⟩ := exists_packed b.toBitVec
  have hbits : (Float.ofBits b).toBits.toBitVec = UnpackedFloat.pack Format.binary64 (fields s e m) := by
    show UnpackedFloat.pack Format.binary64 (UnpackedFloat.unpack Format.binary64 b.toBitVec) = _
    rw [hb, unpack_packed]
  apply UInt64.toBitVec_inj.mp
  rw [hbits, hb]
  refine pack_fields s e m fun he => Decidable.byContradiction fun hm => ?_
  have hnan : (Float.ofBits b).isNaN = (UnpackedFloat.unpack Format.binary64 (packedNaN Format.binary64)).isNaN := by
    show (UnpackedFloat.unpack Format.binary64 (Float.ofBits b).toBits.toBitVec).isNaN = _
    rw [hbits, fields, if_pos he, if_neg hm]
    rfl
  rw [h] at hnan
  exact absurd hnan (by decide)

theorem toBits_neg_zero : (-0 : Float).toBits.toBitVec = packed .negative 0#11 0#52 := by
  have h := toBits_neg_ofBits (0 : Float).toBits .positive _ _ toBits_zero (by decide)
  rwa [ofBits_toBits] at h

/-- of the two zeros, the one below zero is that with a sign -/
theorem eq_neg_zero_iff (x : Float) : x = -0 ↔ isNegative x = true ∧ magnitude x = 0 := by
  constructor
  · rintro rfl
    exact ⟨(isNegative_iff _ _ _ _ toBits_neg_zero).mpr rfl, magnitude_eq _ _ _ _ toBits_neg_zero⟩
  · rintro ⟨hs, hm⟩
    obtain ⟨s, e, m, h, _, _⟩ := exists_fields x
    obtain rfl := (isNegative_iff x s e m h).mp hs
    rw [magnitude_eq x _ e m h] at hm
    have he : e = 0#11 := BitVec.eq_of_toNat_eq (show e.toNat = 0 by omega)
    have hm : m = 0#52 := BitVec.eq_of_toNat_eq (show m.toNat = 0 by omega)
    apply toBits_inj
    apply UInt64.toBitVec_inj.mp
    rw [h, he, hm, toBits_neg_zero]

end FormulaGrid.Number
