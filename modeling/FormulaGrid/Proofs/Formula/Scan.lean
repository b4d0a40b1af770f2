import FormulaGrid.Proofs.Arith.Complete
import FormulaGrid.Proofs.Formula.Fusion
import FormulaGrid.Proofs.Text.Cut

/-!
# References found from the left

* `IsReference`       capital letters and digits, one or more of each;
* `StandsBetween`     such letters and digits with a word boundary on either side;
* `Scanned`           a text read from the left, where each reference that is met gives way to its value;
* `scanned_iff`       this is substitution;
* `Replaces`          what becomes of one part of the cut of a text;
* `references_substituteWith`   substitution leaves no references and makes none;
* `substitute_exact`  substitution replaces the references of a text and nothing else, once and for all.

`substituteWith` looks at the runs of a text.  A scan from the left knows nothing of runs: it tries each place
in turn and goes on behind what it has found.  Inside a word it finds nothing, for there is no boundary, and at
the start of a word it finds the whole word or nothing.
-/

namespace FormulaGrid.Formula

open Arith Number Text

/-! ## references -/

/-- one or more capital letters and one or more digits -/
structure IsReference (letters digits : List Char) : Prop where
  letters_ne_nil : letters ≠ []
  digits_ne_nil : digits ≠ []
  isUpper : ∀ c ∈ letters, c.isUpper
  isDigit : ∀ c ∈ digits, c.isDigit

section
variable {letters digits : List Char}

theorem IsReference.isWord (h : IsReference letters digits) : ∀ c ∈ letters ++ digits, isWord c :=
  List.forall_mem_append.mpr
    ⟨fun c hc => isWord_of_isUpper c (h.isUpper c hc), fun c hc => isWord_of_isDigit c (h.isDigit c hc)⟩

theorem IsReference.ne_nil (h : IsReference letters digits) : letters ++ digits ≠ [] :=
  List.append_ne_nil_of_left_ne_nil h.letters_ne_nil digits

theorem referenceParts?_eq_some_iff (word : List Char) :
    referenceParts? word = some (letters, digits) ↔ word = letters ++ digits ∧ IsReference letters digits := by
  constructor
  · intro h
    obtain ⟨hl, hd, hupper, hdigit⟩ := referenceParts?_inv word letters digits h
    exact ⟨(referenceParts?_append word letters digits h).symm, hl, hd, hupper, hdigit⟩
  · rintro ⟨rfl, hl, hd, hupper, hdigit⟩
    obtain ⟨d, ds, rfl⟩ := List.exists_cons_of_ne_nil hd
    have hnot := isUpper_of_isDigit d (hdigit d List.mem_cons_self)
    have htake : (letters ++ d :: ds).takeWhile Char.isUpper = letters := by
      rw [List.takeWhile_append_of_pos hupper, List.takeWhile_cons_of_neg (by simp [hnot]), List.append_nil]
    have hdrop : (letters ++ d :: ds).dropWhile Char.isUpper = d :: ds := by
      rw [List.dropWhile_append_of_pos hupper, List.dropWhile_cons_of_neg (by simp [hnot])]
    simp only [referenceParts?, htake, hdrop, List.all_eq_true.mpr hdigit]
    simp [hl]

theorem referenceParts?_eq_none_iff (word : List Char) :
    referenceParts? word = none ↔ ∀ letters digits, IsReference letters digits → word ≠ letters ++ digits := by
  rw [Option.eq_none_iff_forall_ne_some]
  constructor
  · exact fun h letters digits href e => h (letters, digits) ((referenceParts?_eq_some_iff word).mpr ⟨e, href⟩)
  · rintro h ⟨letters, digits⟩ hp
    obtain ⟨e, href⟩ := (referenceParts?_eq_some_iff word).mp hp
    exact h letters digits href e

theorem mem_references_iff (cs : List Char) :
    (letters, digits) ∈ references cs ↔ IsReference letters digits ∧ letters ++ digits ∈ runs cs := by
  rw [references, List.mem_flatMap]
  constructor
  · rintro ⟨run, hrun, hparts⟩
    obtain ⟨rfl, h⟩ := (referenceParts?_eq_some_iff run).mp (Option.mem_toList.mp hparts)
    exact ⟨h, hrun⟩
  · rintro ⟨h, hrun⟩
    exact ⟨_, hrun, Option.mem_toList.mpr ((referenceParts?_eq_some_iff _).mpr ⟨rfl, h⟩)⟩

end

/-! ## a scan from the left -/

/-- a reference between two texts, as a whole word -/
structure StandsBetween (before letters digits after : List Char) : Prop extends IsReference letters digits where
  starts : Boundary before (letters ++ digits)
  ends : Boundary (letters ++ digits) after

/-- the text `rest`, behind `before`, becomes `out`: at each place a reference that begins there gives way to
its value, and the scan goes on behind it; a character where none begins is kept -/
inductive Scanned (value : (letters digits : List Char) → Float) : (before rest out : List Char) → Prop where
  | done {before} : Scanned value before [] []
  | keep {before c rest out} :
      (∀ letters digits after, StandsBetween before letters digits after →
        c :: rest ≠ letters ++ digits ++ after) →
      Scanned value (before ++ [c]) rest out → Scanned value before (c :: rest) (c :: out)
  | replace {before letters digits after rest out} : rest = letters ++ digits ++ after →
      StandsBetween before letters digits after → Scanned value (before ++ (letters ++ digits)) after out →
      Scanned value before rest (operandText (value letters digits) ++ out)

section
variable {value : (letters digits : List Char) → Float} {before letters digits after : List Char}

theorem StandsBetween.otherFirst (h : StandsBetween before letters digits after) : OtherFirst after :=
  (boundary_iff_otherFirst _ _ (OfKind.last h.isWord h.ne_nil)).mp h.ends

/-- a word is found as a whole -/
theorem StandsBetween.eq_word (h : StandsBetween before letters digits after) (w cs : List Char)
    (hw : ∀ c ∈ w, isWord c) (hcs : OtherFirst cs) (e : w ++ cs = letters ++ digits ++ after) :
    w = letters ++ digits ∧ cs = after :=
  word_append_inj _ _ _ _ hw h.isWord hcs h.otherFirst e

/-- nothing is found behind a word character that goes on -/
theorem StandsBetween.not_inside (h : StandsBetween before letters digits after)
    (hbefore : before.getLast?.any isWord = true) : False := by
  have hstarts := h.starts
  rw [Boundary, hbefore, OfKind.head h.isWord h.ne_nil] at hstarts
  exact hstarts rfl

/-- the rest of a word is kept -/
theorem Scanned.inside (w : List Char) {rest out : List Char} (hw : ∀ c ∈ w, isWord c)
    (hbefore : before.getLast?.any isWord = true) (h : Scanned value (before ++ w) rest out) :
    Scanned value before (w ++ rest) (w ++ out) := by
  induction w generalizing before with
  | nil => rwa [List.append_nil] at h
  | cons c w ih =>
    obtain ⟨hc, hw⟩ := List.forall_mem_cons.mp hw
    refine .keep (fun _ _ _ hb _ => hb.not_inside hbefore) (ih hw ?_ ?_)
    · rw [List.getLast?_concat]
      exact hc
    · rwa [List.append_assoc, List.singleton_append]

/-- **Substitution is a scan**, from any place that is not inside a word. -/
theorem scanned_substituteWith (cs : List Char) (hseam : before.getLast?.any isWord = false ∨ OtherFirst cs) :
    Scanned value before cs (substituteWith value cs) := by
  induction cs using text_induction generalizing before with
  | nil => exact .done
  | other c cs hc ih =>
    rw [substituteWith_cons value c cs hc]
    refine .keep (fun letters digits after hb e => ?_) (ih (Or.inl ?_))
    · have hhead := OfKind.head hb.isWord hb.ne_nil
      obtain ⟨d, ds, hword⟩ := List.exists_cons_of_ne_nil hb.ne_nil
      rw [hword] at e hhead
      rw [← (List.cons.inj e).1] at hhead
      exact absurd hhead (by simp [hc])
    · rw [List.getLast?_concat]
      exact hc
  | word w cs hne hw hcs ih =>
    have hbefore : before.getLast?.any isWord = false := by
      refine hseam.resolve_right fun hother => ?_
      rw [otherFirst_iff, List.head?_append_of_ne_nil w hne, OfKind.head hw hne] at hother
      cases hother
    rw [substituteWith_word_append value w cs hne hw hcs, substituteRun]
    cases hp : referenceParts? w with
    | some parts =>
      obtain ⟨rfl, href⟩ := (referenceParts?_eq_some_iff w).mp hp
      refine .replace rfl ⟨href, ?_, ?_⟩ (ih (Or.inr hcs))
      · rw [Boundary, hbefore, OfKind.head hw hne]
        exact Bool.false_ne_true
      · exact (boundary_iff_otherFirst _ _ (OfKind.last hw hne)).mpr hcs
    | none =>
      obtain ⟨c, w, rfl⟩ := List.exists_cons_of_ne_nil hne
      obtain ⟨hc, hrest⟩ := List.forall_mem_cons.mp hw
      refine .keep (fun letters digits after hb e => ?_) (Scanned.inside w hrest ?_ ?_)
      · obtain ⟨hword, _⟩ := hb.eq_word (c :: w) cs hw hcs e
        exact (referenceParts?_eq_none_iff _).mp hp letters digits hb.toIsReference hword
      · rw [List.getLast?_concat]
        exact hc
      · exact ih (Or.inr hcs)

/-- a scan has one result -/
theorem Scanned.unique {rest out out' : List Char} (h : Scanned value before rest out)
    (h' : Scanned value before rest out') : out = out' := by
  induction h generalizing out' with
  | done =>
    cases h' with
    | done => rfl
    | replace e hb _ => exact absurd (List.append_eq_nil_iff.mp e.symm).1 hb.ne_nil
  | keep hnone _ ih =>
    cases h' with
    | keep _ h' => rw [ih h']
    | replace e hb _ => exact absurd e (hnone _ _ _ hb)
  | replace e hb _ ih =>
    cases h' with
    | done => exact absurd (List.append_eq_nil_iff.mp e.symm).1 hb.ne_nil
    | keep hnone _ => exact absurd e (hnone _ _ _ hb)
    | replace e' hb' h' =>
      obtain ⟨hword, rfl⟩ := hb'.eq_word _ _ hb.isWord hb.otherFirst (e.symm.trans e')
      have hparts := ((referenceParts?_eq_some_iff _).mpr ⟨rfl, hb.toIsReference⟩).symm.trans
        ((referenceParts?_eq_some_iff _).mpr ⟨hword, hb'.toIsReference⟩)
      obtain ⟨rfl, rfl⟩ := Prod.mk.inj (Option.some.inj hparts)
      rw [ih h']

end

section
variable (value : (letters digits : List Char) → Float)

theorem scanned_iff (cs out : List Char) : Scanned value [] cs out ↔ out = substituteWith value cs := by
  have hscan : Scanned value [] cs (substituteWith value cs) := scanned_substituteWith cs (Or.inl rfl)
  constructor
  · exact fun h => h.unique hscan
  · rintro rfl
    exact hscan

/-! ## what becomes of the parts -/

/-- a part of the cut of a text that is a reference gives way to its value, any other part stays -/
inductive Replaces : (part out : List Char) → Prop where
  | reference {letters digits} : IsReference letters digits →
      Replaces (letters ++ digits) (operandText (value letters digits))
  | kept {part} : (∀ letters digits, IsReference letters digits → part ≠ letters ++ digits) → Replaces part part

theorem replaces_substituteRun (part : List Char) : Replaces value part (substituteRun value part) := by
  rw [substituteRun]
  cases hp : referenceParts? part with
  | some parts =>
    obtain ⟨rfl, href⟩ := (referenceParts?_eq_some_iff part).mp hp
    exact .reference href
  | none => exact .kept ((referenceParts?_eq_none_iff part).mp hp)

/-! ## no references are left -/

theorem references_append (s cs : List Char) (hcs : OtherFirst cs) :
    references (s ++ cs) = references s ++ references cs := by
  cases cs with
  | nil => rw [List.append_nil, show references [] = [] from rfl, List.append_nil]
  | cons c cs => rw [references_append_cons s c cs (hcs c rfl), references_cons c cs (hcs c rfl)]

theorem references_eq_nil (cs : List Char) (h : ∀ c ∈ cs, c.isUpper = false) : references cs = [] := by
  rw [List.eq_nil_iff_forall_not_mem]
  rintro ⟨letters, digits⟩ hmem
  obtain ⟨href, hrun⟩ := (mem_references_iff cs).mp hmem
  obtain ⟨c, ls, rfl⟩ := List.exists_cons_of_ne_nil href.letters_ne_nil
  have hc : c ∈ cs := by
    rw [← flatten_runs cs]
    exact List.mem_flatten.mpr ⟨_, hrun, List.mem_cons_self⟩
  have hupper := href.isUpper c List.mem_cons_self
  rw [h c hc] at hupper
  cases hupper

theorem operandText_of_not_finite (x : Float) (h : x.isFinite = false) :
    ∃ w ∈ nonFiniteWords, operandText x = w ∨ operandText x = '(' :: w ++ [')'] := by
  refine ⟨_, write_mem_nonFiniteWords x h, ?_⟩
  by_cases hlt : x < 0
  · exact Or.inr (if_pos hlt)
  · exact Or.inl (if_neg hlt)

/-- a value is written without capital letters, but for those of the word that is no number -/
theorem references_operandText (x : Float) : references (operandText x) = [] := by
  cases hf : x.isFinite with
  | true =>
    have hall := List.all_eq_true.mp (derives_unary_operandText x hf 0).all_isAllowed
    exact references_eq_nil _ fun c hc => isUpper_of_isAllowed c (hall c hc)
  | false =>
    have hwords : ∀ w ∈ nonFiniteWords, references w = [] ∧ references ('(' :: w ++ [')']) = [] := by
      decide +kernel
    obtain ⟨w, hw, e | e⟩ := operandText_of_not_finite x hf
    · rw [e, (hwords w hw).1]
    · rw [e, (hwords w hw).2]

/-- **Substitution leaves no references and makes none.** -/
theorem references_substituteWith (cs : List Char) : references (substituteWith value cs) = [] := by
  induction cs using text_induction with
  | nil => rfl
  | other c cs hc ih => rw [substituteWith_cons value c cs hc, references_cons c _ hc, ih]
  | word w cs hne hw hcs ih =>
    have hother : OtherFirst (substituteWith value cs) := by
      cases cs with
      | nil => exact OtherFirst.nil
      | cons c cs =>
        rw [substituteWith_cons value c cs (hcs c rfl)]
        exact OtherFirst.cons c _ (hcs c rfl)
    rw [substituteWith_word_append value w cs hne hw hcs, references_append _ _ hother, ih, List.append_nil,
      substituteRun]
    cases hp : referenceParts? w with
    | some parts => exact references_operandText _
    | none =>
      have hself := references_word_append w [] hne hw OtherFirst.nil
      rwa [List.append_nil, hp] at hself

end

/-- **Substitution replaces the references of a text and nothing else.** The text has one cut into words and
what stands between them, and substitution puts together what becomes of its parts: values for references, and
all other parts as they were.  It is also what a scan from the left makes of the text.  What it makes has no
references in its own cut, so that a second substitution, against any source, changes nothing. -/
theorem substitute_exact (source : Source) (cs : List Char) :
    (∃ parts outs, (∀ other, Cut cs other ↔ other = parts) ∧
      List.Forall₂ (Replaces (resolve source)) parts outs ∧ substitute source cs = outs.flatten) ∧
    (∀ out, Scanned (resolve source) [] cs out ↔ out = substitute source cs) ∧
    (∀ parts, Cut (substitute source cs) parts →
      ∀ letters digits, IsReference letters digits → letters ++ digits ∉ parts) ∧
    ∀ other : Source, substitute other (substitute source cs) = substitute source cs := by
  have hnone : references (substitute source cs) = [] := references_substituteWith (resolve source) cs
  refine ⟨⟨runs cs, (runs cs).map (substituteRun (resolve source)), cut_iff cs, ?_, ?_⟩,
    scanned_iff (resolve source) cs, ?_, fun other => substituteWith_of_no_references _ _ hnone⟩
  · exact List.forall₂_map_right_iff.mpr (List.forall₂_same.mpr fun part _ => replaces_substituteRun _ part)
  · exact List.flatMap_def
  · intro parts hcut letters digits href hmem
    rw [(cut_iff _ _).mp hcut] at hmem
    have hin := (mem_references_iff _).mpr ⟨href, hmem⟩
    rw [hnone] at hin
    cases hin

/-- words that only contain references stay, and a second source with another value changes nothing -/
theorem substitute_beside_longer_words :
    substitute (single "-Infinity") "A1*éA1+A1A1".toList = "(-inf)*éA1+A1A1".toList ∧
    ['A'] ++ ['1'] ∉ runs "(-inf)*éA1+A1A1".toList ∧
    substitute (single "7") "(-inf)*éA1+A1A1".toList = "(-inf)*éA1+A1A1".toList := by
  have hout : substitute (single "-Infinity") "A1*éA1+A1A1".toList = "(-inf)*éA1+A1A1".toList := by decide +kernel
  obtain ⟨_, _, hnone, hagain⟩ := substitute_exact (single "-Infinity") "A1*éA1+A1A1".toList
  rw [hout] at hnone hagain
  have href : IsReference ['A'] ['1'] := ((referenceParts?_eq_some_iff ['A', '1']).mp rfl).2
  exact ⟨hout, hnone _ (cut_runs _) ['A'] ['1'] href, hagain (single "7")⟩

end FormulaGrid.Formula
