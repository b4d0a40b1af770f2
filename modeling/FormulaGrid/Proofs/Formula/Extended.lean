import FormulaGrid.Proofs.Arith.Complete
import FormulaGrid.Proofs.Formula.Operand
import FormulaGrid.Proofs.Formula.References

/-!
# Arithmetic with references

* `operand`            numbers, and references with the values that they resolve to;
* `Expressible`        no reference of the text has a value that arithmetic text cannot express;
* `ApartFromPoints`    no reference of the text stands beside a point;
* `derives_substitute` a text that is derived with references is derived without them after
                       substitution, with the same value.
-/

namespace FormulaGrid.Formula

open Arith Number Text

/-! ## references as operands -/

/-- numbers, and references; a value below zero takes two levels, for its sign and for what the sign
stands before -/
def operand (source : Source) : Operand := fun n text v =>
  numeral n text v ∨ ∃ letters digits, referenceParts? text = some (letters, digits) ∧
    resolve source letters digits = v ∧ (v < 0 → 2 ≤ n)

/-- the references of the text have finite values other than the zero below zero -/
def Expressible (source : Source) (cs : List Char) : Prop := ∀ r ∈ references cs,
  (resolve source r.1 r.2).isFinite = true ∧ resolve source r.1 r.2 ≠ -0

section
variable {source : Source} {s t : List Char} {c : Char}

theorem Expressible.append_cons (h : Expressible source (s ++ c :: t)) (hc : isWord c = false) :
    Expressible source s ∧ Expressible source t := by
  rw [Expressible, references_append_cons s c t hc] at h
  exact ⟨fun r hr => h r (List.mem_append_left _ hr), fun r hr => h r (List.mem_append_right _ hr)⟩

theorem Expressible.cons (h : Expressible source (c :: t)) (hc : isWord c = false) : Expressible source t := by
  rwa [Expressible, references_cons c t hc] at h

theorem Expressible.word_append (h : Expressible source (s ++ t)) (hs : ∀ c ∈ s, isWord c)
    (ht : OtherFirst t) : Expressible source t := by
  by_cases hne : s = []
  · rwa [hne, List.nil_append] at h
  · rw [Expressible, references_word_append s t hne hs ht] at h
    exact fun r hr => h r (List.mem_append_right _ hr)

theorem Expressible.reference {letters digits : List Char} (h : Expressible source (s ++ t)) (ht : OtherFirst t)
    (hp : referenceParts? s = some (letters, digits)) :
    (resolve source letters digits).isFinite = true ∧ resolve source letters digits ≠ -0 := by
  obtain ⟨hne, hs⟩ := isWord_of_reference s letters digits hp
  rw [Expressible, references_word_append s t hne hs ht, hp] at h
  exact h (letters, digits) List.mem_cons_self

end

/-- no reference of the text stands in front of a point or behind one -/
def ApartFromPoints (cs : List Char) : Prop := (runs cs).IsChain fun a b =>
  ((referenceParts? a).isSome → b.head? ≠ some '.') ∧ ((referenceParts? b).isSome → a.getLast? ≠ some '.')

section
variable {w s : List Char} {c : Char}

theorem ApartFromPoints.cons (h : ApartFromPoints (c :: s)) (hc : isWord c = false) :
    ApartFromPoints s := by
  unfold ApartFromPoints at h ⊢
  rcases runs_cons c s hc with e | ⟨t, rest, hne, ht, es, e⟩
  · rw [e] at h
    exact h.tail
  · -- the run has lost a character at its start, but its end is the same, and it is no reference
    obtain ⟨d, t, rfl⟩ := List.exists_cons_of_ne_nil hne
    rw [e] at h
    rw [es]
    cases rest with
    | nil => exact List.isChain_singleton _
    | cons b rest =>
      rw [List.isChain_cons_cons] at h ⊢
      refine ⟨⟨fun hr => ?_, fun hb => ?_⟩, h.2⟩
      · rw [referenceParts?_cons d t (isUpper_of_not_isWord d (ht d List.mem_cons_self))] at hr
        cases hr
      · have hlast := h.1.2 hb
        rwa [List.getLast?_cons_cons] at hlast

theorem ApartFromPoints.word_append (h : ApartFromPoints (w ++ s)) (hw : ∀ c ∈ w, isWord c)
    (hs : OtherFirst s) : ApartFromPoints s := by
  by_cases hne : w = []
  · rwa [hne, List.nil_append] at h
  · rw [ApartFromPoints, runs_word_append w s hne hw hs] at h
    exact h.tail

theorem ApartFromPoints.in_front (h : ApartFromPoints (w ++ '.' :: s)) (hw : ∀ c ∈ w, isWord c) :
    referenceParts? w = none := by
  by_cases hne : w = []
  · rw [hne]
    rfl
  · have hrun : ∃ t rest, runs ('.' :: s) = ('.' :: t) :: rest := by
      rcases runs_cons '.' s (by decide) with e | ⟨t, rest, _, _, _, e⟩
      · exact ⟨[], _, e⟩
      · exact ⟨t, rest, e⟩
    obtain ⟨t, rest, e⟩ := hrun
    rw [ApartFromPoints, runs_word_append w _ hne hw (OtherFirst.cons '.' s (by decide)), e,
      List.isChain_cons_cons] at h
    exact Option.not_isSome_iff_eq_none.mp fun hr => h.1.1 hr rfl

theorem ApartFromPoints.behind (h : ApartFromPoints ('.' :: (w ++ s))) (hw : ∀ c ∈ w, isWord c)
    (hs : OtherFirst s) : referenceParts? w = none := by
  by_cases hne : w = []
  · rw [hne]
    rfl
  · have hword : ∀ c ∈ (w ++ s).head?, isWord c = !false := by
      intro c hc
      rw [List.head?_append_of_ne_nil w hne] at hc
      exact hw c (List.mem_of_mem_head? hc)
    have e := runs_append false ['.'] (w ++ s) (List.cons_ne_nil _ _)
      (List.forall_mem_singleton.mpr (by decide)) hword
    rw [List.singleton_append, runs_word_append w s hne hw hs] at e
    rw [ApartFromPoints, e, List.isChain_cons_cons] at h
    exact Option.not_isSome_iff_eq_none.mp fun hr => h.1.2 hr rfl

end

/-! ## substitution -/

/-- **What is derived with references is derived after substitution.** -/
theorem derives_substitute {source : Source} {p : Part} {n : Nat} {s : List Char} {v : Float}
    (h : Derives (operand source) p n s v) (hexp : Expressible source s) :
    Derives numeral p n (substitute source s) v := by
  have hsplit : ∀ (c : Char) (s t : List Char), isWord c = false →
      substitute source (s ++ c :: t) = substitute source s ++ c :: substitute source t := fun c s t hc =>
    substituteWith_append_cons _ s c t hc
  have hcons : ∀ (c : Char) (t : List Char), isWord c = false →
      substitute source (c :: t) = c :: substitute source t := fun c t hc =>
    substituteWith_cons _ c t hc
  induction h with
  | term _ ih => exact .term (ih hexp)
  | add _ _ ihs iht =>
    obtain ⟨hs, ht⟩ := hexp.append_cons (by decide)
    rw [hsplit '+' _ _ (by decide)]
    exact .add (ihs hs) (iht ht)
  | subtract _ _ ihs iht =>
    obtain ⟨hs, ht⟩ := hexp.append_cons (by decide)
    rw [hsplit '-' _ _ (by decide)]
    exact .subtract (ihs hs) (iht ht)
  | unary _ ih => exact .unary (ih hexp)
  | multiply _ _ ihs iht =>
    obtain ⟨hs, ht⟩ := hexp.append_cons (by decide)
    rw [hsplit '*' _ _ (by decide)]
    exact .multiply (ihs hs) (iht ht)
  | divide _ _ ihs iht =>
    obtain ⟨hs, ht⟩ := hexp.append_cons (by decide)
    rw [hsplit '/' _ _ (by decide)]
    exact .divide (ihs hs) (iht ht)
  | minus _ ih =>
    rw [hcons '-' _ (by decide)]
    exact .minus (ih (hexp.cons (by decide)))
  | plus _ ih =>
    rw [hcons '+' _ (by decide)]
    exact .plus (ih (hexp.cons (by decide)))
  | power _ ih => exact .power (ih hexp)
  | factor _ ih => exact .factor (ih hexp)
  | raise _ _ ihs iht =>
    obtain ⟨hs, ht⟩ := hexp.append_cons (by decide)
    rw [hsplit '*' _ _ (by decide), hcons '*' _ (by decide)]
    exact .raise (ihs hs) (iht (ht.cons (by decide)))
  | @operand n s v h =>
    rcases h with h | ⟨letters, digits, hp, rfl, hn⟩
    · have hkeep : substitute source s = s := by
        apply substituteWith_eq_self
        intro c hc
        rcases h.1.mem _ c hc with hd | rfl
        · exact isUpper_of_isDigit c hd
        · decide
      rw [hkeep]
      exact .operand h
    · obtain ⟨hf, hz⟩ := Expressible.reference (t := []) (by rwa [List.append_nil]) OtherFirst.nil hp
      rw [substitute, substituteWith_reference _ s letters digits hp]
      exact derives_operandText _ hf n hz hn
  | group _ ih =>
    have hp := Expressible.cons (c := '(') hexp (by decide)
    rw [List.cons_append, hcons '(' _ (by decide), hsplit ')' _ _ (by decide)]
    exact .group (ih (hp.append_cons (by decide)).1)

end FormulaGrid.Formula
