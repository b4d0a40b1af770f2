import FormulaGrid.Text.Blank

/-!
# Texts and the blanks around them

* `of_isBlank`            what holds of each blank of the table holds of every blank;
* `trim_eq_self_of_ends`, `trim_eq_self`   a text that begins and ends without blanks is its own trimmed text;
* `toLower_of_isBlank`    blanks have no case;
* `splitWord_append`      the first word of a line: blanks in front, then what is not blank, then one blank.
-/

namespace FormulaGrid.Text

theorem of_isBlank (p : Char → Bool)
    (h : ∀ r ∈ blankRanges, ∀ n ∈ List.range' r.1 (r.2 + 1 - r.1), p (Char.ofNat n)) (c : Char)
    (hc : isBlank c) : p c := by
  obtain ⟨r, hr, hin⟩ := List.any_eq_true.mp hc
  simp only [Bool.and_eq_true, decide_eq_true_eq] at hin
  have hmem : c.toNat ∈ List.range' r.1 (r.2 + 1 - r.1) := by
    rw [List.mem_range'_1]
    omega
  rw [← Char.ofNat_toNat c]
  exact h r hr c.toNat hmem

theorem toLower_of_isBlank (c : Char) (h : isBlank c) : c.toLower = c :=
  eq_of_beq (of_isBlank (fun c => c.toLower == c) (by decide) c h)

theorem dropWhile_isBlank_eq_self (cs : List Char) (h : ∀ c ∈ cs.head?, isBlank c = false) :
    cs.dropWhile isBlank = cs := by
  cases cs with
  | nil => rfl
  | cons c cs => rw [List.dropWhile_cons_of_neg (by simp [h c rfl])]

/-- blanks inside a text stay, so only its ends count -/
theorem trim_eq_self_of_ends (cs : List Char) (hhead : ∀ c ∈ cs.head?, isBlank c = false)
    (hlast : ∀ c ∈ cs.getLast?, isBlank c = false) : trim cs = cs := by
  have hstart : trimStart cs = cs := dropWhile_isBlank_eq_self cs hhead
  have hend : cs.reverse.dropWhile isBlank = cs.reverse := by
    apply dropWhile_isBlank_eq_self
    rw [List.head?_reverse]
    exact hlast
  rw [trim, hstart, trimEnd, hend, List.reverse_reverse]

theorem trim_eq_self (cs : List Char) (h : ∀ c ∈ cs, isBlank c = false) : trim cs = cs :=
  trim_eq_self_of_ends cs (fun c hc => h c (List.mem_of_mem_head? hc))
    fun c hc => h c (List.mem_of_mem_getLast? hc)

theorem splitWord_append (front word rest : List Char) (hfront : ∀ c ∈ front, isBlank c) (hne : word ≠ [])
    (hword : ∀ c ∈ word, isBlank c = false) (hrest : ∀ c ∈ rest.head?, isBlank c) :
    splitWord (front ++ (word ++ rest)) = (word, rest.drop 1) := by
  have hhead : ∀ c ∈ (word ++ rest).head?, isBlank c = false := by
    obtain ⟨c, cs, rfl⟩ := List.exists_cons_of_ne_nil hne
    rintro _ ⟨⟩
    exact hword c List.mem_cons_self
  have hnot : ∀ c ∈ word, (!isBlank c) = true := fun c hc => by rw [hword c hc]; rfl
  have htake : rest.takeWhile (!isBlank ·) = [] := by
    cases rest with
    | nil => rfl
    | cons c cs => rw [List.takeWhile_cons_of_neg (by simp [hrest c rfl])]
  have hdrop : rest.dropWhile (!isBlank ·) = rest := by
    cases rest with
    | nil => rfl
    | cons c cs => rw [List.dropWhile_cons_of_neg (by simp [hrest c rfl])]
  rw [splitWord, trimStart, List.dropWhile_append_of_pos hfront, dropWhile_isBlank_eq_self _ hhead]
  simp only [List.takeWhile_append_of_pos hnot, List.dropWhile_append_of_pos hnot, htake, hdrop, List.append_nil]

end FormulaGrid.Text
