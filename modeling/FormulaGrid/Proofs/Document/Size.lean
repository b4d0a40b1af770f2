import FormulaGrid.Proofs.Document.Runs
import FormulaGrid.Proofs.Number.Word
import FormulaGrid.Proofs.Sheet.Writes

/-!
# The size of a grid

* `fitsInWords`      a size within the limit, as it is found out in words;
* `Settings.validate_eq_ok_iff`, `Settings.validate_eq_error_iff`   the settings that are refused, and why;
* `ofSettings_eq_ok_iff`, `ofSettings_eq_error_iff`   a document is made of all others, and so the sheet is never
                     the one that refuses a size;
* `IsNew`            a document as it is made of settings;
* `size_guards_agree`   the settings and the sheet refuse the same sizes.
-/

namespace FormulaGrid

open Number (checkedMul? checkedMul?_eq_some_iff)

/-! ## the limit -/

/-- the product of two words is within the limit, and it does not overflow -/
def fitsInWords (rows cols : UInt64) : Bool := (checkedMul? rows cols).any (· ≤ UInt64.ofNat maxCells)

/-- **A product that overflows is not taken for a small one.** -/
theorem fitsInWords_iff (rows cols : UInt64) :
    fitsInWords rows cols = true ↔ rows.toNat * cols.toNat ≤ maxCells := by
  have hmax : (UInt64.ofNat maxCells).toNat = maxCells := rfl
  have hlimit : maxCells < 2 ^ 64 := by decide
  rw [fitsInWords, Option.any_eq_true]
  constructor
  · rintro ⟨n, hn, hle⟩
    rw [decide_eq_true_eq, UInt64.le_iff_toNat_le, hmax, (checkedMul?_eq_some_iff rows cols n).mp hn] at hle
    exact hle
  · intro hle
    have hword : (UInt64.ofNat (rows.toNat * cols.toNat)).toNat = rows.toNat * cols.toNat :=
      UInt64.toNat_ofNat_of_lt (Nat.lt_of_le_of_lt hle hlimit)
    refine ⟨_, (checkedMul?_eq_some_iff rows cols _).mpr hword, ?_⟩
    rw [decide_eq_true_eq, UInt64.le_iff_toNat_le, hmax, hword]
    exact hle

theorem Sheet.exists_blank?_iff (rows cols : Nat) :
    (∃ sheet, Sheet.blank? rows cols = .ok sheet) ↔ rows * cols ≤ maxCells := by
  constructor
  · rintro ⟨sheet, h⟩
    exact ((sheet.blank?_eq_ok_iff rows cols).mp h).1
  · intro hsize
    exact ⟨_, (Sheet.blank?_eq_ok_iff _ rows cols).mpr ⟨hsize, rfl⟩⟩

/-! ## settings -/

section
variable (settings : Settings)

theorem Settings.validate_eq_ok_iff : settings.validate = .ok () ↔
    1 ≤ settings.rows ∧ 1 ≤ settings.cols ∧ settings.rows * settings.cols ≤ maxCells := by
  unfold validate
  split
  · next hempty => exact ⟨fun h => (nomatch h), fun h => absurd hempty (by omega)⟩
  · next hne =>
    split
    · next hsize => exact ⟨fun _ => ⟨by omega, by omega, hsize⟩, fun _ => rfl⟩
    · next hsize => exact ⟨fun h => (nomatch h), fun h => absurd h.2.2 hsize⟩

/-- settings are refused for a grid without cells first, and then for one with too many -/
theorem Settings.validate_eq_error_iff (cause : SettingsError) : settings.validate = .error cause ↔
    (settings.rows = 0 ∨ settings.cols = 0) ∧
      cause = .invalidDimensions settings.rows settings.cols .empty ∨
    ¬ (settings.rows = 0 ∨ settings.cols = 0) ∧ ¬ settings.rows * settings.cols ≤ maxCells ∧
      cause = .invalidDimensions settings.rows settings.cols .tooManyCells := by
  unfold validate
  split
  · next hempty =>
    rw [Except.error.injEq]
    exact ⟨fun h => .inl ⟨hempty, h.symm⟩, fun h => (h.resolve_right fun h => h.1 hempty).2.symm⟩
  · next hne =>
    split
    · next hsize => exact ⟨fun h => (nomatch h), fun h => absurd hsize (h.resolve_left fun h => hne h.1).2.1⟩
    · next hsize =>
      rw [Except.error.injEq]
      exact ⟨fun h => .inr ⟨hne, hsize, h.symm⟩, fun h => (h.resolve_left fun h => hne h.1).2.2.symm⟩

end

/-! ## documents -/

namespace Document

section
variable (settings : Settings)

theorem ofSettings_of_validate_ok (h : settings.validate = .ok ()) :
    ofSettings settings = .ok (ofSheet (Sheet.blank settings.rows settings.cols) settings.clickToEdit) := by
  have hsize := ((settings.validate_eq_ok_iff).mp h).2.2
  have hnew : new? settings.rows settings.cols settings.clickToEdit = .ok _ :=
    (new?_eq_ok_iff _ _ _ _).mpr ⟨hsize, rfl⟩
  rw [ofSettings, h]
  simp only [hnew]

theorem ofSettings_of_validate_error (fault : SettingsError) (h : settings.validate = .error fault) :
    ofSettings settings = .error (.settings fault) := by
  rw [ofSettings, h]

theorem ofSettings_eq_ok_iff (document : Document) : ofSettings settings = .ok document ↔
    settings.validate = .ok () ∧
      document = ofSheet (Sheet.blank settings.rows settings.cols) settings.clickToEdit := by
  cases h : settings.validate with
  | ok =>
    rw [ofSettings_of_validate_ok settings h, Except.ok.injEq]
    exact ⟨fun e => ⟨rfl, e.symm⟩, fun e => e.2.symm⟩
  | error fault =>
    rw [ofSettings_of_validate_error settings fault h]
    exact ⟨fun e => (nomatch e), fun e => (nomatch e.1)⟩

/-- the sheet has no error of its own to add -/
theorem ofSettings_eq_error_iff (cause : DocumentError) : ofSettings settings = .error cause ↔
    ∃ fault, settings.validate = .error fault ∧ cause = .settings fault := by
  cases h : settings.validate with
  | ok =>
    rw [ofSettings_of_validate_ok settings h]
    exact ⟨fun e => (nomatch e), fun ⟨_, e, _⟩ => (nomatch e)⟩
  | error fault =>
    rw [ofSettings_of_validate_error settings fault h, Except.error.injEq]
    constructor
    · intro e
      exact ⟨fault, rfl, e.symm⟩
    · rintro ⟨_, ⟨⟩, rfl⟩
      rfl

/-- a document as it is made: blank, with `A1` selected, and nothing edited -/
structure IsNew (document : Document) : Prop where
  holds : document.sheet.Holds settings.rows settings.cols fun _ _ => ""
  clickToEdit_eq : document.clickToEdit = settings.clickToEdit
  selection_eq : document.selection = ⟨0, 0⟩
  editing_eq : document.editing = false
  buffer_eq : document.buffer = ""

theorem isNew_ofSheet_blank :
    IsNew settings (ofSheet (Sheet.blank settings.rows settings.cols) settings.clickToEdit) where
  holds := Sheet.holds_blank settings.rows settings.cols
  clickToEdit_eq := rfl
  selection_eq := rfl
  editing_eq := rfl
  buffer_eq := rfl

end

/-- **The guards of the settings and of the sheet agree.** A document is made if and only if the settings ask for at
least one cell and for a million at most, however large the sides are, and it is a new one of that size. Otherwise
it is the settings that are refused, and their size is named; the sheet refuses none that they have passed. In words,
where a product may overflow, both come to the same. -/
theorem size_guards_agree (settings : Settings) :
    ((∃ document, ofSettings settings = .ok document) ↔
      1 ≤ settings.rows ∧ 1 ≤ settings.cols ∧ settings.rows * settings.cols ≤ 1000000) ∧
    (∀ document, ofSettings settings = .ok document → IsNew settings document) ∧
    (∀ cause, ofSettings settings = .error cause →
      ∃ fault, cause = .settings (.invalidDimensions settings.rows settings.cols fault)) ∧
    (settings.rows ≠ 0 → settings.cols ≠ 0 →
      (settings.validate = .ok () ↔ ∃ sheet, Sheet.blank? settings.rows settings.cols = .ok sheet)) ∧
    ∀ rows cols : UInt64, settings.rows = rows.toNat → settings.cols = cols.toNat →
      (settings.validate = .ok () ↔ rows ≠ 0 ∧ cols ≠ 0 ∧ fitsInWords rows cols) ∧
      ((∃ sheet, Sheet.blank? settings.rows settings.cols = .ok sheet) ↔ fitsInWords rows cols) := by
  have hvalid := settings.validate_eq_ok_iff
  have hsheet := Sheet.exists_blank?_iff settings.rows settings.cols
  refine ⟨?_, ?_, ?_, ?_, ?_⟩
  · refine Iff.trans ⟨?_, ?_⟩ hvalid
    · rintro ⟨document, h⟩
      exact ((ofSettings_eq_ok_iff settings document).mp h).1
    · intro h
      exact ⟨_, ofSettings_of_validate_ok settings h⟩
  · intro document h
    obtain ⟨_, rfl⟩ := (ofSettings_eq_ok_iff settings document).mp h
    exact isNew_ofSheet_blank settings
  · intro cause h
    obtain ⟨fault, hfault, rfl⟩ := (ofSettings_eq_error_iff settings cause).mp h
    obtain ⟨_, rfl⟩ | ⟨_, _, rfl⟩ := (settings.validate_eq_error_iff fault).mp hfault
    · exact ⟨.empty, rfl⟩
    · exact ⟨.tooManyCells, rfl⟩
  · intro hrows hcols
    rw [hvalid, hsheet]
    exact ⟨fun h => h.2.2, fun h => ⟨Nat.pos_of_ne_zero hrows, Nat.pos_of_ne_zero hcols, h⟩⟩
  · intro rows cols hrows hcols
    have hwords := fitsInWords_iff rows cols
    rw [← hrows, ← hcols] at hwords
    have hzero : ∀ n : UInt64, n ≠ 0 ↔ 1 ≤ n.toNat := fun n => by
      rw [Ne, ← UInt64.toNat_inj, UInt64.toNat_zero, Nat.one_le_iff_ne_zero]
    rw [hvalid, hsheet, hwords, hzero, hzero, hrows, hcols]
    exact ⟨Iff.rfl, Iff.rfl⟩

/-- the sides are such that their product wraps to zero -/
theorem wrapped_size_is_refused :
    let settings : Settings := ⟨4294967296, 4294967296, .reclick⟩
    (4294967296 : UInt64) * 4294967296 = 0 ∧ fitsInWords 4294967296 4294967296 = false ∧
      (∃ cause, ofSettings settings = .error cause) ∧ ∀ cause, ofSettings settings = .error cause →
        ∃ fault, cause = .settings (.invalidDimensions 4294967296 4294967296 fault) := by
  intro settings
  obtain ⟨hmade, _, hrefused, _, hwords⟩ := size_guards_agree settings
  have hlarge : ¬ ∃ document, ofSettings settings = .ok document := fun h => absurd (hmade.mp h).2.2 (by decide)
  refine ⟨by decide, ?_, ?_, hrefused⟩
  · have hsheet := (hwords 4294967296 4294967296 rfl rfl).2
    exact Bool.eq_false_iff.mpr fun h => absurd ((Sheet.exists_blank?_iff _ _).mp (hsheet.mpr h)) (by decide)
  · cases h : ofSettings settings with
    | ok document => exact absurd ⟨document, h⟩ hlarge
    | error cause => exact ⟨cause, rfl⟩

end Document

end FormulaGrid
