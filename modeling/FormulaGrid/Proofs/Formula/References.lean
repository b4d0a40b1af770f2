import FormulaGrid.Formula.Reference
import FormulaGrid.Proofs.Text.Runs

/-!
# References inside a text

* `references`   the reference tokens of a text, in order;
* `substituteWith_cons`, `substituteWith_word_append`, `substituteWith_append_cons`   substitution
                 goes through a text word by word, and the parts of a text around an operator are
                 substituted on their own;
* `references_trim`   blanks at the ends hide no reference and make none.
-/

namespace FormulaGrid.Formula

open Arith Text

/-! ## characters of arithmetic -/

/-- a property of the digits and of the other characters of arithmetic -/
theorem of_isAllowed (p : Char → Bool) (c : Char) (h : isAllowed c) (hd : c.isDigit → p c)
    (hops : ['-', '+', '*', '/', '.', '(', ')'].all p) : p c := by
  rw [isAllowed, Bool.or_eq_true] at h
  rcases h with h | h
  · exact hd h
  · exact List.all_eq_true.mp hops c (List.contains_iff_mem.mp h)

theorem isUpper_of_isDigit (c : Char) (h : c.isDigit) : c.isUpper = false := by
  apply Bool.eq_false_iff.mpr
  intro hu
  have hA : 'A'.val.toNat ≤ c.toNat := UInt32.le_iff_toNat_le.mp (of_decide_eq_true hu).1
  have h9 := (Char.isDigit_iff_toNat.mp h).2
  have hlt : '9'.toNat < 'A'.val.toNat := by decide
  omega

theorem isUpper_of_isAllowed (c : Char) (h : isAllowed c) : c.isUpper = false := by
  have e := of_isAllowed (!Char.isUpper ·) c h (fun hd => by rw [isUpper_of_isDigit c hd]; rfl) (by decide)
  rwa [Bool.not_eq_true'] at e

theorem isBlank_of_isAllowed (c : Char) (h : isAllowed c) : isBlank c = false := by
  have hdigit : c.isDigit → (!isBlank c) = true := by
    intro hd
    rw [isBlank_of_isWord c (isWord_of_isDigit c hd)]
    rfl
  have e := of_isAllowed (!isBlank ·) c h hdigit (by decide)
  rwa [Bool.not_eq_true'] at e

/-! ## words that are references -/

theorem referenceParts?_inv (word letters digits : List Char)
    (h : referenceParts? word = some (letters, digits)) : letters ≠ [] ∧ digits ≠ [] ∧
      (∀ c ∈ letters, c.isUpper) ∧ ∀ c ∈ digits, c.isDigit := by
  unfold referenceParts? at h
  simp only [Option.ite_none_right_eq_some, Bool.and_eq_true, Bool.not_eq_true',
    List.isEmpty_eq_false_iff, Option.some.injEq, Prod.mk.injEq] at h
  obtain ⟨⟨⟨hl, hd⟩, hdigits⟩, rfl, rfl⟩ := h
  exact ⟨hl, hd, List.all_eq_true.mp List.all_takeWhile, List.all_eq_true.mp hdigits⟩

theorem isWord_of_reference (word letters digits : List Char)
    (h : referenceParts? word = some (letters, digits)) : word ≠ [] ∧ ∀ c ∈ word, isWord c := by
  obtain ⟨hne, _, hl, hd⟩ := referenceParts?_inv word letters digits h
  have e := referenceParts?_append word letters digits h
  constructor
  · rintro rfl
    exact hne (List.append_eq_nil_iff.mp e).1
  · intro c hc
    rw [← e] at hc
    rcases List.mem_append.mp hc with hc | hc
    · exact isWord_of_isUpper c (hl c hc)
    · exact isWord_of_isDigit c (hd c hc)

theorem referenceParts?_cons (c : Char) (cs : List Char) (h : c.isUpper = false) :
    referenceParts? (c :: cs) = none := by
  unfold referenceParts?
  rw [List.takeWhile_cons_of_neg (by simp [h])]
  rfl

theorem isUpper_of_not_isWord (c : Char) (h : isWord c = false) : c.isUpper = false := by
  by_contra hu
  rw [Bool.not_eq_false] at hu
  rw [isWord_of_isUpper c hu] at h
  cases h

theorem isDigit_of_not_isWord (c : Char) (h : isWord c = false) : c.isDigit = false := by
  apply Bool.eq_false_iff.mpr
  intro hd
  rw [isWord_of_isDigit c hd] at h
  cases h

/-! ## the references of a text -/

/-- the letters and the digits of the reference tokens -/
def references (cs : List Char) : List (List Char × List Char) :=
  (runs cs).flatMap fun run => (referenceParts? run).toList

theorem references_byRun :
    RunByRun (fun run => (referenceParts? run).toList) (fun _ => []) where
  nil := rfl
  cons c s hc hs := by
    cases s with
    | nil => rw [referenceParts?_cons c [] (isUpper_of_not_isWord c hc)]; rfl
    | cons d s =>
      have hd := hs d List.mem_cons_self
      rw [referenceParts?_cons c _ (isUpper_of_not_isWord c hc),
        referenceParts?_cons d _ (isUpper_of_not_isWord d hd)]
      rfl

theorem references_cons (c : Char) (cs : List Char) (hc : isWord c = false) :
    references (c :: cs) = references cs := references_byRun.flatMap_cons c cs hc

theorem references_append_cons (s : List Char) (c : Char) (cs : List Char) (hc : isWord c = false) :
    references (s ++ c :: cs) = references s ++ references cs :=
  references_byRun.flatMap_append_cons s c cs hc

theorem references_word_append (w cs : List Char) (hne : w ≠ []) (hw : ∀ c ∈ w, isWord c)
    (hcs : OtherFirst cs) : references (w ++ cs) = (referenceParts? w).toList ++ references cs := by
  rw [references, runs_word_append w cs hne hw hcs, List.flatMap_cons]
  rfl

theorem references_trimStart (cs : List Char) : references (trimStart cs) = references cs := by
  induction cs with
  | nil => rfl
  | cons c cs ih =>
    rw [trimStart_cons]
    split
    · next hc => rw [ih, references_cons c cs (isWord_of_isBlank c hc)]
    · rfl

theorem references_append_blank (cs : List Char) (c : Char) (hc : isBlank c) :
    references (cs ++ [c]) = references cs := by
  rw [references_append_cons cs c [] (isWord_of_isBlank c hc)]
  exact List.append_nil _

theorem references_trimEnd (cs : List Char) : references (trimEnd cs) = references cs := by
  induction cs using List.reverseRecOn with
  | nil => rfl
  | append_singleton cs c ih =>
    rw [trimEnd_append_singleton]
    split
    · next hc => rw [ih, references_append_blank cs c hc]
    · rfl

theorem references_trim (cs : List Char) : references (trim cs) = references cs := by
  rw [trim, references_trimEnd, references_trimStart]

/-! ## substitution -/

section
variable (value : (letters digits : List Char) → Float)

theorem substituteRun_cons (c : Char) (s : List Char) (hc : c.isUpper = false) :
    substituteRun value (c :: s) = c :: s := by
  rw [substituteRun, referenceParts?_cons c s hc]

theorem substituteRun_byRun : RunByRun (substituteRun value) (fun c => [c]) where
  nil := rfl
  cons c s hc hs := by
    rw [substituteRun_cons value c s (isUpper_of_not_isWord c hc)]
    cases s with
    | nil => rfl
    | cons d s => rw [substituteRun_cons value d s (isUpper_of_not_isWord d (hs d List.mem_cons_self))]; rfl

theorem substituteWith_cons (c : Char) (cs : List Char) (hc : isWord c = false) :
    substituteWith value (c :: cs) = c :: substituteWith value cs :=
  (substituteRun_byRun value).flatMap_cons c cs hc

theorem substituteWith_append_cons (s : List Char) (c : Char) (cs : List Char) (hc : isWord c = false) :
    substituteWith value (s ++ c :: cs) = substituteWith value s ++ c :: substituteWith value cs :=
  (substituteRun_byRun value).flatMap_append_cons s c cs hc

theorem substituteWith_word_append (w cs : List Char) (hne : w ≠ []) (hw : ∀ c ∈ w, isWord c)
    (hcs : OtherFirst cs) :
    substituteWith value (w ++ cs) = substituteRun value w ++ substituteWith value cs := by
  rw [substituteWith, runs_word_append w cs hne hw hcs, List.flatMap_cons]
  rfl

theorem substituteWith_reference (word letters digits : List Char)
    (h : referenceParts? word = some (letters, digits)) :
    substituteWith value word = operandText (value letters digits) := by
  obtain ⟨hne, hw⟩ := isWord_of_reference word letters digits h
  have e := substituteWith_word_append value word [] hne hw OtherFirst.nil
  rw [List.append_nil, substituteWith_nil, List.append_nil] at e
  rw [e, substituteRun, h]

theorem substituteWith_eq_self (cs : List Char) (h : ∀ c ∈ cs, c.isUpper = false) :
    substituteWith value cs = cs := by
  induction cs using text_induction with
  | nil => rfl
  | other c cs hc ih =>
    rw [substituteWith_cons value c cs hc, ih fun d hd => h d (List.mem_cons_of_mem c hd)]
  | word w cs hne hw hcs ih =>
    obtain ⟨c, w, rfl⟩ := List.exists_cons_of_ne_nil hne
    rw [substituteWith_word_append value _ cs hne hw hcs, substituteRun_cons value c w (h c List.mem_cons_self),
      ih fun d hd => h d (List.mem_append_right _ hd)]

end

/-- a grid of one cell -/
def single (text : String) : Source := ⟨1, 1, fun _ _ => some text⟩

/-- only the values of the references in a text count -/
theorem substituteWith_congr (f g : (letters digits : List Char) → Float) (cs : List Char)
    (h : ∀ r ∈ references cs, f r.1 r.2 = g r.1 r.2) : substituteWith f cs = substituteWith g cs := by
  unfold substituteWith
  apply List.flatMap_congr
  intro run hrun
  unfold substituteRun
  split
  · next letters digits hr =>
    have hmem : (letters, digits) ∈ references cs :=
      List.mem_flatMap.mpr ⟨run, hrun, by rw [hr]; exact List.mem_singleton_self _⟩
    rw [h _ hmem]
  · rfl

theorem substituteWith_of_no_references (value : (letters digits : List Char) → Float) (cs : List Char)
    (h : references cs = []) : substituteWith value cs = cs := by
  have hrun : ∀ run ∈ runs cs, substituteRun value run = run := by
    intro run hmem
    have hnone := List.flatMap_eq_nil_iff.mp h run hmem
    unfold substituteRun
    split
    · next letters digits hparts =>
      rw [hparts] at hnone
      cases hnone
    · rfl
  rw [substituteWith, List.flatMap_congr hrun, List.flatMap_id', flatten_runs]

end FormulaGrid.Formula
