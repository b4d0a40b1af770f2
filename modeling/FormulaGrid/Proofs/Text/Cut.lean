import FormulaGrid.Proofs.Text.Runs

/-!
# The cut of a text at its word boundaries

* `Boundary`   a word ends or begins between two texts;
* `Cut`        parts that make up a text, each of one kind of characters, with a boundary between neighbours;
* `cut_iff`    every text has one such cut, which is `runs`.
-/

namespace FormulaGrid.Text

/-- a word character stands on one side only -/
def Boundary (before after : List Char) : Prop := before.getLast?.any isWord ≠ after.head?.any isWord

/-- all characters of a text are word characters, or none is, as `kind` says -/
def OfKind (kind : Bool) (part : List Char) : Prop := ∀ c ∈ part, isWord c = kind

/-- the longest stretches of word characters and of other characters, in order -/
structure Cut (cs : List Char) (parts : List (List Char)) : Prop where
  flatten_eq : parts.flatten = cs
  ne_nil : ∀ part ∈ parts, part ≠ []
  ofKind : ∀ part ∈ parts, ∃ kind, OfKind kind part
  boundaries : parts.IsChain Boundary

/-! ## ends of parts -/

section
variable {kind : Bool} {part : List Char}

theorem OfKind.head (h : OfKind kind part) (hne : part ≠ []) : part.head?.any isWord = kind := by
  obtain ⟨c, cs, rfl⟩ := List.exists_cons_of_ne_nil hne
  exact h c List.mem_cons_self

theorem OfKind.last (h : OfKind kind part) (hne : part ≠ []) : part.getLast?.any isWord = kind := by
  rw [List.getLast?_eq_some_getLast hne]
  exact h _ (List.getLast_mem hne)

end

theorem otherFirst_iff (cs : List Char) : OtherFirst cs ↔ cs.head?.any isWord = false := by
  cases cs with
  | nil => exact ⟨fun _ => rfl, fun _ => OtherFirst.nil⟩
  | cons c cs => exact ⟨fun h => h c rfl, fun h => OtherFirst.cons c cs h⟩

/-- behind a word character a boundary is the end of the word -/
theorem boundary_iff_otherFirst (before after : List Char) (h : before.getLast?.any isWord = true) :
    Boundary before after ↔ OtherFirst after := by
  rw [otherFirst_iff, Boundary, h, ne_comm, ne_eq, Bool.not_eq_true]

/-- the word at the start of a text, and what follows it, are those of the text -/
theorem word_append_inj (w w' cs cs' : List Char) (hw : ∀ c ∈ w, isWord c) (hw' : ∀ c ∈ w', isWord c)
    (hcs : OtherFirst cs) (hcs' : OtherFirst cs') (h : w ++ cs = w' ++ cs') : w = w' ∧ cs = cs' := by
  have htake : ∀ w cs : List Char, (∀ c ∈ w, isWord c) → OtherFirst cs → (w ++ cs).takeWhile isWord = w := by
    intro w cs hw hcs
    rw [List.takeWhile_append_of_pos hw]
    cases cs with
    | nil => exact List.append_nil w
    | cons c cs => rw [List.takeWhile_cons_of_neg (by simp [hcs c rfl]), List.append_nil]
  have e : w = w' := by rw [← htake w cs hw hcs, h, htake w' cs' hw' hcs']
  subst e
  exact ⟨rfl, List.append_cancel_left h⟩

/-! ## one cut -/

/-- neighbours that are alike are all alike -/
theorem ofKind_of_isChain (part : List Char) (h : part.IsChain fun a b => isWord a == isWord b) :
    ∃ kind, OfKind kind part := by
  induction part with
  | nil => exact ⟨true, fun _ h => by cases h⟩
  | cons c part ih =>
    cases part with
    | nil => exact ⟨isWord c, List.forall_mem_singleton.mpr rfl⟩
    | cons d part =>
      obtain ⟨hcd, htail⟩ := List.isChain_cons_cons.mp h
      obtain ⟨kind, hkind⟩ := ih htail
      refine ⟨kind, List.forall_mem_cons.mpr ⟨?_, hkind⟩⟩
      rw [eq_of_beq hcd]
      exact hkind d List.mem_cons_self

theorem cut_runs (cs : List Char) : Cut cs (runs cs) where
  flatten_eq := flatten_runs cs
  ne_nil part h := List.ne_nil_of_mem_splitBy h
  ofKind part h := ofKind_of_isChain part (List.isChain_of_mem_splitBy h)
  boundaries := by
    refine (List.isChain_getLast_head_splitBy _ cs).imp fun a b hab => ?_
    obtain ⟨ha, hb, hdiffer⟩ := hab
    rw [Boundary, List.getLast?_eq_some_getLast ha, List.head?_eq_some_head hb]
    exact ne_of_beq_false hdiffer

theorem runs_flatten (parts : List (List Char)) (h : Cut parts.flatten parts) : runs parts.flatten = parts := by
  obtain ⟨_, hne, hkind, hboundaries⟩ := h
  induction parts with
  | nil => rfl
  | cons part parts ih =>
    obtain ⟨hpart, hparts⟩ := List.forall_mem_cons.mp hne
    obtain ⟨⟨kind, hk⟩, hkinds⟩ := List.forall_mem_cons.mp hkind
    have hnext : ∀ c ∈ parts.flatten.head?, isWord c = !kind := by
      cases parts with
      | nil => exact fun _ h => by cases h
      | cons next parts =>
        obtain ⟨d, ds, rfl⟩ := List.exists_cons_of_ne_nil (hparts next List.mem_cons_self)
        have hdiffer := (List.isChain_cons_cons.mp hboundaries).1
        rw [Boundary, hk.last hpart] at hdiffer
        rintro _ ⟨⟩
        exact (Bool.eq_not_of_ne hdiffer.symm)
    rw [List.flatten_cons, runs_append kind part _ hpart hk hnext, ih rfl hparts hkinds hboundaries.tail]

/-- **A text is cut in one way only.** -/
theorem cut_iff (cs : List Char) (parts : List (List Char)) : Cut cs parts ↔ parts = runs cs := by
  constructor
  · intro h
    obtain rfl := h.flatten_eq
    exact (runs_flatten parts h).symm
  · rintro rfl
    exact cut_runs cs

end FormulaGrid.Text
