import FormulaGrid.Number.Decimal

/-!
# The texts of numbers

* `Numeral`                  `[0-9]+ ("." [0-9]*)?` and `"." [0-9]+`;
* `readUnsigned?_whole`, `readUnsigned?_point`   the decimals that they stand for;
* `Numeral.exists_decimal`, `Numeral.readFloat?_eq`    a numeral stands for the double nearest to its decimal.
-/

namespace FormulaGrid.Number

inductive Numeral : List Char → Prop where
  | whole (ds : List Char) : ds ≠ [] → ds.all Char.isDigit → Numeral ds
  | point (ds fs : List Char) : ds ≠ [] → ds.all Char.isDigit → fs.all Char.isDigit →
      Numeral (ds ++ '.' :: fs)
  | fraction (fs : List Char) : fs ≠ [] → fs.all Char.isDigit → Numeral ('.' :: fs)

theorem Numeral.head (text : List Char) (h : Numeral text) :
    ∃ c cs, text = c :: cs ∧ (c.isDigit ∨ c = '.') := by
  have hdigits : ∀ ds : List Char, ds ≠ [] → ds.all Char.isDigit → ∀ rest, ∃ c cs,
      ds ++ rest = c :: cs ∧ (c.isDigit ∨ c = '.') := by
    intro ds hne hd rest
    obtain ⟨c, cs, rfl⟩ := List.exists_cons_of_ne_nil hne
    exact ⟨c, cs ++ rest, rfl, Or.inl (List.all_eq_true.mp hd c List.mem_cons_self)⟩
  cases h with
  | whole _ hne hd => simpa using hdigits text hne hd []
  | point ds fs hne hd _ => exact hdigits ds hne hd _
  | fraction fs _ _ => exact ⟨'.', fs, rfl, Or.inr rfl⟩

theorem Numeral.ne_point (text : List Char) (h : Numeral text) : text ≠ ['.'] := by
  cases h with
  | whole _ _ hd =>
    rintro rfl
    exact absurd hd (by decide)
  | point ds fs hne _ _ => simp [List.append_eq_cons_iff, hne]
  | fraction fs hne _ => simpa using hne

theorem Numeral.mem (text : List Char) (h : Numeral text) (c : Char) (hc : c ∈ text) :
    c.isDigit ∨ c = '.' := by
  have hdigits : ∀ ds : List Char, ds.all Char.isDigit → c ∈ ds → c.isDigit ∨ c = '.' := fun ds hd h =>
    Or.inl (List.all_eq_true.mp hd c h)
  cases h with
  | whole _ _ hd => exact hdigits text hd hc
  | point ds fs _ hd hf =>
    rcases List.mem_append.mp hc with hc | hc
    · exact hdigits ds hd hc
    · rcases List.mem_cons.mp hc with rfl | hc
      · exact Or.inr rfl
      · exact hdigits fs hf hc
  | fraction fs _ hf =>
    rcases List.mem_cons.mp hc with rfl | hc
    · exact Or.inr rfl
    · exact hdigits fs hf hc

theorem Numeral.of_mem_point (text : List Char) (h : Numeral text) (hp : '.' ∈ text) : ∃ ds fs, text = ds ++ '.' :: fs ∧
    ds.all Char.isDigit ∧ fs.all Char.isDigit ∧ (ds ≠ [] ∨ fs ≠ []) := by
  cases h with
  | whole _ _ hd => exact absurd (List.all_eq_true.mp hd '.' hp) (by decide)
  | point ds fs hne hd hf => exact ⟨ds, fs, rfl, hd, hf, Or.inl hne⟩
  | fraction fs hne hf => exact ⟨[], fs, rfl, rfl, hf, Or.inr hne⟩

/-! ## their values -/

theorem takeWhile_digits_append (ds rest : List Char) (h : ds.all Char.isDigit) :
    (ds ++ rest).takeWhile Char.isDigit = ds ++ rest.takeWhile Char.isDigit :=
  List.takeWhile_append_of_pos (List.all_eq_true.mp h)

theorem dropWhile_digits_append (ds rest : List Char) (h : ds.all Char.isDigit) :
    (ds ++ rest).dropWhile Char.isDigit = rest.dropWhile Char.isDigit :=
  List.dropWhile_append_of_pos (List.all_eq_true.mp h)

theorem takeWhile_digits (ds : List Char) (h : ds.all Char.isDigit) :
    ds.takeWhile Char.isDigit = ds := by
  simpa using takeWhile_digits_append ds [] h

theorem dropWhile_digits (ds : List Char) (h : ds.all Char.isDigit) :
    ds.dropWhile Char.isDigit = [] := by
  simpa using dropWhile_digits_append ds [] h

theorem readUnsigned?_whole (ds : List Char) (hne : ds ≠ []) (hd : ds.all Char.isDigit) :
    readUnsigned? ds = some ⟨digitsValue ds, 0⟩ := by
  unfold readUnsigned?
  rw [takeWhile_digits ds hd, dropWhile_digits ds hd]
  simp [takeFraction, readExponent?, hne]

theorem readUnsigned?_point (ds fs : List Char) (hne : ds ≠ [] ∨ fs ≠ [])
    (hd : ds.all Char.isDigit) (hf : fs.all Char.isDigit) :
    readUnsigned? (ds ++ '.' :: fs) = some ⟨digitsValue (ds ++ fs), -fs.length⟩ := by
  have hpoint : ('.' :: fs).dropWhile Char.isDigit = '.' :: fs :=
    List.dropWhile_cons_of_neg (by decide)
  have hpoint' : ('.' :: fs).takeWhile Char.isDigit = [] :=
    List.takeWhile_cons_of_neg (by decide)
  have hne' : ¬ (ds = [] ∧ fs = []) := fun ⟨hds, hfs⟩ => hne.elim (· hds) (· hfs)
  unfold readUnsigned?
  rw [takeWhile_digits_append ds _ hd, dropWhile_digits_append ds _ hd, hpoint, hpoint']
  simp [takeFraction, takeWhile_digits fs hf, dropWhile_digits fs hf, readExponent?, hne']

theorem Numeral.exists_decimal (text : List Char) (h : Numeral text) : ∃ d, readUnsigned? text = some d := by
  cases h with
  | whole _ hne hd => exact ⟨_, readUnsigned?_whole _ hne hd⟩
  | point ds fs hne hd hf => exact ⟨_, readUnsigned?_point ds fs (Or.inl hne) hd hf⟩
  | fraction fs hne hf => exact ⟨_, readUnsigned?_point [] fs (Or.inr hne) rfl hf⟩

theorem Numeral.readFloat?_eq (text : List Char) (h : Numeral text) :
    readFloat? text = (readUnsigned? text).map Decimal.toFloat := by
  obtain ⟨c, cs, rfl, hc⟩ := h.head
  unfold readFloat?
  split
  · next e =>
    rw [(List.cons.inj e).1] at hc
    exact absurd hc (by decide)
  · next e =>
    rw [(List.cons.inj e).1] at hc
    exact absurd hc (by decide)
  · rfl

end FormulaGrid.Number
