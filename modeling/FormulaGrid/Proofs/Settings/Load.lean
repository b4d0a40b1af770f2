import FormulaGrid.Proofs.Document.Size
import FormulaGrid.Settings.Load

/-!
# Settings that are loaded

* `Fault`            what keeps a file from being used, the first cause in the order of reading;
* `Accepted`         the settings that a file holds, if there is no fault;
* `readSettings_eq_error_iff`, `readSettings_eq_ok_iff`   what is read of the bytes of a file;
* `Reports`          a warning that names the fault;
* `loadSettings_usable`   the settings that are loaded are valid, and no fault passes in silence.

How settings are read from a text is left open here: `ofText` may be any function.
-/

namespace FormulaGrid

variable (ofText : String → Except TomlError Settings)

/-! ## the bytes of a file -/

theorem fromUTF8?_eq_some_iff (bytes : ByteArray) (text : String) :
    String.fromUTF8? bytes = some text ↔ text.toUTF8 = bytes := by
  rw [String.fromUTF8?]
  constructor
  · intro h
    obtain ⟨hvalid, htext⟩ := Option.dite_none_right_eq_some.mp h
    rw [← Option.some.inj htext]
    rfl
  · rintro rfl
    exact dif_pos text.isValidUTF8

/-- the first thing that is wrong with the bytes of a file -/
inductive Fault (bytes : ByteArray) : LoadError → Prop where
  | tooLarge : maxFileSize < bytes.size → Fault bytes (.tooLarge bytes.size)
  | notUtf8 : bytes.size ≤ maxFileSize → (∀ text : String, text.toUTF8 ≠ bytes) → Fault bytes .notUtf8
  | toml {text : String} {cause} : bytes.size ≤ maxFileSize → text.toUTF8 = bytes →
      ofText text = .error cause → Fault bytes (.toml cause)
  | settings {text : String} {settings cause} : bytes.size ≤ maxFileSize → text.toUTF8 = bytes →
      ofText text = .ok settings → settings.validate = .error cause → Fault bytes (.settings cause)

/-- the file can be read, is small enough and in UTF-8, and its text is accepted with settings that are valid -/
def Accepted (file : FileState) (settings : Settings) : Prop :=
  ∃ bytes, file = .readable bytes ∧ bytes.size ≤ 1048576 ∧ ∃ text : String, text.toUTF8 = bytes ∧
    ofText text = .ok settings ∧ settings.validate = .ok ()

section
variable {ofText} {bytes : ByteArray}

theorem Accepted.readSettings_eq {settings : Settings} (h : Accepted ofText (.readable bytes) settings) :
    readSettings ofText bytes = .ok settings := by
  obtain ⟨_, ⟨⟩, hsize, text, htext, hok, hvalid⟩ := h
  have hsmall : ¬ maxFileSize < bytes.size := Nat.not_lt.mpr hsize
  have hread := (fromUTF8?_eq_some_iff bytes text).mpr htext
  simp only [readSettings, if_neg hsmall, hread, hok, hvalid]

theorem Fault.readSettings_eq {cause : LoadError} (h : Fault ofText bytes cause) :
    readSettings ofText bytes = .error cause := by
  cases h with
  | tooLarge hlarge => rw [readSettings, if_pos hlarge]
  | notUtf8 hsize hno =>
    have hread : String.fromUTF8? bytes = none := by
      by_contra hsome
      obtain ⟨text, htext⟩ := Option.ne_none_iff_exists'.mp hsome
      exact hno text ((fromUTF8?_eq_some_iff bytes text).mp htext)
    simp only [readSettings, if_neg (Nat.not_lt.mpr hsize), hread]
  | toml hsize htext hcause =>
    have hread := (fromUTF8?_eq_some_iff bytes _).mpr htext
    simp only [readSettings, if_neg (Nat.not_lt.mpr hsize), hread, hcause]
  | settings hsize htext hok hcause =>
    have hread := (fromUTF8?_eq_some_iff bytes _).mpr htext
    simp only [readSettings, if_neg (Nat.not_lt.mpr hsize), hread, hok, hcause]

end

section
variable (bytes : ByteArray)

/-- each check is made only where those before it have passed -/
theorem accepted_or_fault :
    (∃ settings, Accepted ofText (.readable bytes) settings) ∨ ∃ cause, Fault ofText bytes cause := by
  by_cases hsize : bytes.size ≤ maxFileSize
  · by_cases hutf : ∃ text : String, text.toUTF8 = bytes
    · obtain ⟨text, htext⟩ := hutf
      cases hread : ofText text with
      | error cause => exact .inr ⟨_, .toml hsize htext hread⟩
      | ok settings =>
        cases hvalid : settings.validate with
        | error cause => exact .inr ⟨_, .settings hsize htext hread hvalid⟩
        | ok => exact .inl ⟨settings, bytes, rfl, hsize, text, htext, hread, hvalid⟩
    · exact .inr ⟨_, .notUtf8 hsize fun text htext => hutf ⟨text, htext⟩⟩
  · exact .inr ⟨_, .tooLarge (Nat.lt_of_not_le hsize)⟩

theorem readSettings_eq_ok_iff (settings : Settings) :
    readSettings ofText bytes = .ok settings ↔ Accepted ofText (.readable bytes) settings := by
  refine ⟨fun h => ?_, fun h => h.readSettings_eq⟩
  obtain ⟨settings', haccepted⟩ | ⟨cause, hfault⟩ := accepted_or_fault ofText bytes
  · rw [haccepted.readSettings_eq, Except.ok.injEq] at h
    exact h ▸ haccepted
  · rw [hfault.readSettings_eq] at h
    cases h

theorem readSettings_eq_error_iff (cause : LoadError) :
    readSettings ofText bytes = .error cause ↔ Fault ofText bytes cause := by
  refine ⟨fun h => ?_, fun h => h.readSettings_eq⟩
  obtain ⟨settings, haccepted⟩ | ⟨cause', hfault⟩ := accepted_or_fault ofText bytes
  · rw [haccepted.readSettings_eq] at h
    cases h
  · rw [hfault.readSettings_eq, Except.error.injEq] at h
    exact h ▸ hfault

end

/-! ## files -/

/-- a warning about the file at a path: it is missing, or it is ignored since it cannot be read or for a fault -/
inductive Reports (path : String) : FileState → Warning → Prop where
  | notFound : Reports path .missing (.notFound path)
  | unreadable (reason : String) : Reports path (.unreadable reason) (.ignored path (.unreadable reason))
  | ignored {bytes cause} : Fault ofText bytes cause → Reports path (.readable bytes) (.ignored path cause)

section
variable (path : String) (file : FileState)

theorem loadSettingsWith_of_accepted {settings : Settings} (h : Accepted ofText file settings) (asked : Bool) :
    loadSettingsWith ofText path asked file = (settings, none) := by
  obtain ⟨bytes, rfl, _⟩ := id h
  simp only [loadSettingsWith, h.readSettings_eq]

theorem loadSettingsWith_of_not_accepted (h : ¬ ∃ settings, Accepted ofText file settings) :
    ∃ warning, loadSettingsWith ofText path true file = ({}, some warning) ∧ Reports ofText path file warning := by
  cases file with
  | missing => exact ⟨_, rfl, .notFound⟩
  | unreadable reason => exact ⟨_, rfl, .unreadable reason⟩
  | readable bytes =>
    obtain ⟨cause, hfault⟩ := (accepted_or_fault ofText bytes).resolve_left h
    refine ⟨.ignored path cause, ?_, .ignored hfault⟩
    simp only [loadSettingsWith, hfault.readSettings_eq]

end

/-- **What is loaded can be used, and no fault passes in silence.** Of a file that was asked for, the settings are those
that it holds, without a warning, if it can be read, has no more than 1048576 bytes, is UTF-8, and its text is accepted
with valid settings. Otherwise they are the default ones, and one warning names the first thing that is wrong. They are
valid in either case, and so a document can be made of them. -/
theorem loadSettings_usable (path : String) (file : FileState) :
    let loaded := loadSettingsWith ofText path true file
    loaded.1.validate = .ok () ∧
    (loaded.2 = none ↔ ∃ settings, Accepted ofText file settings) ∧
    (∀ settings, Accepted ofText file settings → loaded.1 = settings) ∧
    ((¬ ∃ settings, Accepted ofText file settings) → loaded.1 = ⟨10, 5, .reclick⟩ ∧
      ∃ warning, loaded.2.toList = [warning] ∧ Reports ofText path file warning) ∧
    ∃ document, Document.ofSettings loaded.1 = .ok document := by
  intro loaded
  by_cases haccepted : ∃ settings, Accepted ofText file settings
  · obtain ⟨settings, hsettings⟩ := haccepted
    have hloaded : loaded = (settings, none) := loadSettingsWith_of_accepted ofText path file hsettings true
    obtain ⟨_, _, _, _, _, _, hvalid⟩ := id hsettings
    rw [hloaded]
    refine ⟨hvalid, ⟨fun _ => ⟨settings, hsettings⟩, fun _ => rfl⟩, fun other hother => ?_,
      fun hno => absurd ⟨settings, hsettings⟩ hno, _, Document.ofSettings_of_validate_ok settings hvalid⟩
    have hagain : loaded = (other, none) := loadSettingsWith_of_accepted ofText path file hother true
    exact congrArg Prod.fst (hloaded.symm.trans hagain)
  · obtain ⟨warning, hloaded, hreports⟩ := loadSettingsWith_of_not_accepted ofText path file haccepted
    have hvalid : Settings.validate {} = .ok () := rfl
    change loaded = _ at hloaded
    rw [hloaded]
    refine ⟨hvalid, ⟨fun h => (nomatch h), fun h => absurd h haccepted⟩,
      fun other hother => absurd ⟨other, hother⟩ haccepted, fun _ => ⟨rfl, warning, rfl, hreports⟩,
      _, Document.ofSettings_of_validate_ok {} hvalid⟩

/-- a file with settings that are valid, and one with settings that are not -/
theorem loadSettings_three_rows_or_none :
    let three := "[grid]\nrows = 3\n".toUTF8
    let none := "[grid]\nrows = 0\n".toUTF8
    Accepted Settings.ofToml (.readable three) ⟨3, 5, .reclick⟩ ∧
      (loadSettings "config.toml" true (.readable three)).1 = ⟨3, 5, .reclick⟩ ∧
      (¬ ∃ settings, Accepted Settings.ofToml (.readable none) settings) ∧
      (loadSettings "config.toml" true (.readable none)).1 = ⟨10, 5, .reclick⟩ := by
  have hthree : Settings.ofToml "[grid]\nrows = 3\n" = .ok ⟨3, 5, .reclick⟩ := by decide +kernel
  have hnone : Settings.ofToml "[grid]\nrows = 0\n" = .ok ⟨0, 5, .reclick⟩ := by decide +kernel
  intro three none
  have haccepted : Accepted Settings.ofToml (.readable three) ⟨3, 5, .reclick⟩ :=
    ⟨three, rfl, by decide, _, rfl, hthree, by decide⟩
  have hrefused : ¬ ∃ settings, Accepted Settings.ofToml (.readable none) settings := by
    rintro ⟨settings, _, ⟨⟩, _, text, htext, hok, hvalid⟩
    obtain rfl : text = "[grid]\nrows = 0\n" := String.toByteArray_inj.mp htext
    rw [hnone, Except.ok.injEq] at hok
    rw [← hok] at hvalid
    cases hvalid
  obtain ⟨_, _, hheld, _⟩ := loadSettings_usable Settings.ofToml "config.toml" (.readable three)
  obtain ⟨_, _, _, hdefault, _⟩ := loadSettings_usable Settings.ofToml "config.toml" (.readable none)
  exact ⟨haccepted, hheld _ haccepted, hrefused, (hdefault hrefused).1⟩

end FormulaGrid
