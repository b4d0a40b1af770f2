import Mathlib.Data.List.SplitBy
import FormulaGrid.Proofs.Text.Blanks
import FormulaGrid.Text.Word

/-!
# Texts as words and other characters

* `OtherFirst`       no word goes on at the start of the text;
* `runs_append`      characters of one kind in front of one of the other kind are a run;
* `text_induction`   a text is empty, or another character and a text, or a word and a text that
                     does not go on with it;
* `RunByRun`         what is made of a run of other characters is made of them one by one.

`runs` cuts a text at once.  What is proved of texts goes through them character by character outside
words and word by word.
-/

namespace FormulaGrid.Text

/-! ## kinds of characters -/

theorem isWord_of_isDigit (c : Char) (h : c.isDigit) : isWord c := by
  apply isWord_of_isAlphanum
  show (c.isAlpha || c.isDigit) = true
  rw [h, Bool.or_true]

theorem isWord_of_isUpper (c : Char) (h : c.isUpper) : isWord c := by
  apply isWord_of_isAlphanum
  show (c.isUpper || c.isLower || c.isDigit) = true
  rw [h, Bool.true_or, Bool.true_or]

theorem isWord_of_isBlank (c : Char) (h : isBlank c) : isWord c = false := by
  have hother := of_isBlank (!isWord ·) (by decide +kernel) c h
  rwa [Bool.not_eq_true'] at hother

theorem isBlank_of_isWord (c : Char) (h : isWord c) : isBlank c = false := by
  apply Bool.eq_false_iff.mpr
  intro hb
  rw [isWord_of_isBlank c hb] at h
  cases h

/-! ## runs -/

/-- the text does not begin with a word character -/
def OtherFirst (cs : List Char) : Prop := ∀ c ∈ cs.head?, isWord c = false

theorem OtherFirst.nil : OtherFirst [] := fun _ h => by cases h

theorem OtherFirst.cons (c : Char) (cs : List Char) (h : isWord c = false) : OtherFirst (c :: cs) := by
  rintro _ ⟨⟩
  exact h

theorem head_dropWhile (p : Char → Bool) (cs : List Char) :
    ∀ c ∈ (cs.dropWhile p).head?, p c = false := by
  intro c hc
  have h := List.head?_dropWhile_not p cs
  rw [Option.mem_def.mp hc] at h
  exact h

theorem otherFirst_dropWhile (cs : List Char) : OtherFirst (cs.dropWhile isWord) :=
  head_dropWhile isWord cs

theorem flatten_runs (cs : List Char) : (runs cs).flatten = cs := List.flatten_splitBy _ cs

theorem runs_append (kind : Bool) (s cs : List Char) (hne : s ≠ []) (hs : ∀ c ∈ s, isWord c = kind)
    (hcs : ∀ c ∈ cs.head?, isWord c = !kind) : runs (s ++ cs) = s :: runs cs := by
  have hrun : runs s = [s] := by
    apply List.splitBy_of_isChain hne
    apply List.Pairwise.isChain
    apply List.pairwise_of_forall_mem_list
    intro a ha b hb
    rw [hs a ha, hs b hb, beq_self_eq_true]
  rw [runs, List.splitBy_append, ← runs, ← runs, hrun, List.singleton_append]
  intro a ha b hb
  rw [hs a (List.mem_of_mem_getLast? ha), hcs b hb]
  cases kind <;> rfl

theorem runs_word_append (w cs : List Char) (hne : w ≠ []) (hw : ∀ c ∈ w, isWord c)
    (hcs : OtherFirst cs) : runs (w ++ cs) = w :: runs cs :=
  runs_append true w cs hne hw hcs

/-- another character begins a run of its own or goes in front of the first run -/
theorem runs_cons (c : Char) (cs : List Char) (hc : isWord c = false) :
    runs (c :: cs) = [c] :: runs cs ∨ ∃ s rest, s ≠ [] ∧ (∀ d ∈ s, isWord d = false) ∧
      runs cs = s :: rest ∧ runs (c :: cs) = (c :: s) :: rest := by
  have hsplit : cs.takeWhile (!isWord ·) ++ cs.dropWhile (!isWord ·) = cs :=
    List.takeWhile_append_dropWhile
  have hother : ∀ d ∈ cs.takeWhile (!isWord ·), isWord d = false := by
    intro d hd
    have h := List.all_eq_true.mp List.all_takeWhile d hd
    rwa [Bool.not_eq_true'] at h
  have hword : ∀ d ∈ (cs.dropWhile (!isWord ·)).head?, isWord d = !false := by
    intro d hd
    have h := head_dropWhile (!isWord ·) cs d hd
    rwa [Bool.not_eq_false'] at h
  have hfirst : runs (c :: cs) = (c :: cs.takeWhile (!isWord ·)) :: runs (cs.dropWhile (!isWord ·)) := by
    have h := runs_append false (c :: cs.takeWhile (!isWord ·)) _ (List.cons_ne_nil _ _)
      (List.forall_mem_cons.mpr ⟨hc, hother⟩) hword
    rwa [List.cons_append, hsplit] at h
  by_cases hnil : cs.takeWhile (!isWord ·) = []
  · left
    rw [hnil, List.nil_append] at hsplit
    rw [hfirst, hnil, hsplit]
  · right
    refine ⟨_, _, hnil, hother, ?_, hfirst⟩
    rw [← runs_append false _ _ hnil hother hword, hsplit]

/-! ## induction -/

/-- a text from its end: other characters one by one, words as a whole -/
theorem text_induction {motive : List Char → Prop} (nil : motive [])
    (other : ∀ c cs, isWord c = false → motive cs → motive (c :: cs))
    (word : ∀ w cs, w ≠ [] → (∀ c ∈ w, isWord c) → OtherFirst cs → motive cs → motive (w ++ cs))
    (cs : List Char) : motive cs := by
  generalize hn : cs.length = n
  induction n using Nat.strongRecOn generalizing cs with
  | ind n ih =>
    match cs with
    | [] => exact nil
    | c :: cs =>
      by_cases hc : isWord c
      · have htake : (c :: cs).takeWhile isWord = c :: cs.takeWhile isWord :=
          List.takeWhile_cons_of_pos hc
        have hlen : ((c :: cs).dropWhile isWord).length < n := by
          rw [List.dropWhile_cons_of_pos hc, ← hn]
          exact Nat.lt_succ_of_le (List.dropWhile_sublist isWord).length_le
        rw [← List.takeWhile_append_dropWhile (p := isWord) (l := c :: cs)]
        refine word _ _ ?_ ?_ (otherFirst_dropWhile _) (ih _ hlen _ rfl)
        · rw [htake]
          exact List.cons_ne_nil _ _
        · exact List.all_eq_true.mp List.all_takeWhile
      · exact other c cs (by simpa using hc) (ih cs.length (by rw [← hn]; exact Nat.lt_succ_self _) cs rfl)

/-! ## what is made of the runs -/

structure RunByRun {α : Type} (f : List Char → List α) (g : Char → List α) : Prop where
  nil : f [] = []
  cons : ∀ c s, isWord c = false → (∀ d ∈ s, isWord d = false) → f (c :: s) = g c ++ f s

section
variable {α : Type} {f : List Char → List α} {g : Char → List α}

theorem RunByRun.flatMap_cons (h : RunByRun f g) (c : Char) (cs : List Char) (hc : isWord c = false) :
    (runs (c :: cs)).flatMap f = g c ++ (runs cs).flatMap f := by
  rcases runs_cons c cs hc with e | ⟨s, rest, _, hs, ecs, e⟩
  · rw [e, List.flatMap_cons, h.cons c [] hc (by simp), h.nil, List.append_nil]
  · rw [e, ecs, List.flatMap_cons, List.flatMap_cons, h.cons c s hc hs, List.append_assoc]

/-- the seam in front of another character is no seam -/
theorem RunByRun.flatMap_append_cons (h : RunByRun f g) (s : List Char) (c : Char) (cs : List Char)
    (hc : isWord c = false) :
    (runs (s ++ c :: cs)).flatMap f = (runs s).flatMap f ++ (g c ++ (runs cs).flatMap f) := by
  induction s using text_induction with
  | nil => exact h.flatMap_cons c cs hc
  | other d s hd ih =>
    rw [List.cons_append, h.flatMap_cons d _ hd, h.flatMap_cons d s hd, ih, List.append_assoc]
  | word w s hne hw hs ih =>
    have hseam : OtherFirst (s ++ c :: cs) := by
      cases s with
      | nil => exact OtherFirst.cons c cs hc
      | cons d s => exact OtherFirst.cons d _ (hs d rfl)
    rw [List.append_assoc, runs_word_append w _ hne hw hseam, runs_word_append w s hne hw hs,
      List.flatMap_cons, List.flatMap_cons, ih, List.append_assoc]

end

end FormulaGrid.Text
