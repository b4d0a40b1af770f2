import FormulaGrid.Formula.Evaluation
import FormulaGrid.Proofs.Text.Blanks

/-!
# Sums

* `OpensSum`          a text that begins like a sum, and what follows its parenthesis;
* `Closes`            what follows is a body on one line, and a parenthesis at the very end;
* `CommaSeparated`    the arguments that a body is made of;
* `afterSum?_eq_some_iff`, `sumBody?_eq_some_iff`, `commaSeparated_iff`   they are what is read of a text;
* `evaluate_eq_error_iff`   the only errors are sums that are not closed;
* `evaluate_closed`   a sum that is closed is worth its arguments, added from the left;
* `sums_exact`        both, and the sum of a list of arguments that is written out.

Nothing here looks at the source: references mean nothing inside a sum.
-/

namespace FormulaGrid.Formula

open Text

/-! ## the form of a sum -/

/-- a text that begins with the name of the sum, its letters in either case and the first perhaps a long s, then
blanks and a parenthesis, behind which `rest` stands -/
inductive OpensSum : (cs rest : List Char) → Prop where
  | intro (s u m : Char) (blanks rest : List Char) : s ∈ ['s', 'S', 'ſ'] → u ∈ ['u', 'U'] → m ∈ ['m', 'M'] →
      (∀ c ∈ blanks, isBlank c) → OpensSum (s :: u :: m :: (blanks ++ '(' :: rest)) rest

/-- a body on one line, and the parenthesis that closes the sum -/
def Closes (rest body : List Char) : Prop := rest = body ++ [')'] ∧ '\n' ∉ body

/-- texts without commas that make up the body, a comma between each two -/
structure CommaSeparated (body : List Char) (args : List (List Char)) : Prop where
  ne_nil : args ≠ []
  no_comma : ∀ arg ∈ args, ',' ∉ arg
  joined : [','].intercalate args = body

/-- the values of the arguments without the blanks around them, added from the left to the zero below zero -/
def leftSum (args : List (List Char)) : Float :=
  (args.map fun arg => Arith.evaluate (trim arg)).foldl (· + ·) (-0)

/-! ## what is read of a text -/

theorem afterName?_eq_some_iff (cs tail : List Char) : afterName? cs = some tail ↔
    ∃ s u m, cs = s :: u :: m :: tail ∧ s ∈ ['s', 'S', 'ſ'] ∧ u ∈ ['u', 'U'] ∧ m ∈ ['m', 'M'] := by
  constructor
  · intro h
    unfold afterName? at h
    split at h
    · next s u m rest =>
      obtain ⟨hletters, hrest⟩ := Option.ite_none_right_eq_some.mp h
      obtain rfl := Option.some.inj hrest
      simp only [Bool.and_eq_true, List.contains_iff_mem] at hletters
      exact ⟨s, u, m, rfl, hletters.1.1, hletters.1.2, hletters.2⟩
    · cases h
  · rintro ⟨s, u, m, rfl, hs, hu, hm⟩
    rw [afterName?, List.contains_iff_mem.mpr hs, List.contains_iff_mem.mpr hu, List.contains_iff_mem.mpr hm]
    rfl

/-- a text with a parenthesis as its first character that is not blank -/
theorem trimStart_eq_cons_iff (cs rest : List Char) : trimStart cs = '(' :: rest ↔
    ∃ blanks, (∀ c ∈ blanks, isBlank c) ∧ cs = blanks ++ '(' :: rest := by
  constructor
  · intro h
    refine ⟨cs.takeWhile isBlank, List.all_eq_true.mp List.all_takeWhile, ?_⟩
    rw [← h]
    exact List.takeWhile_append_dropWhile.symm
  · rintro ⟨blanks, hblanks, rfl⟩
    rw [trimStart, List.dropWhile_append_of_pos hblanks]
    exact List.dropWhile_cons_of_neg (by decide)

theorem afterSum?_eq_some_iff (cs rest : List Char) : afterSum? cs = some rest ↔ OpensSum cs rest := by
  have hread : afterSum? cs = some rest ↔ ∃ tail, afterName? cs = some tail ∧ trimStart tail = '(' :: rest := by
    rw [afterSum?, ← Option.map_eq_some_iff]
    constructor
    · intro h
      split at h
      · next rest' e =>
        obtain rfl := Option.some.inj h
        exact e
      · cases h
    · intro h
      rw [h]
      rfl
  rw [hread]
  constructor
  · rintro ⟨tail, hname, htail⟩
    obtain ⟨s, u, m, rfl, hs, hu, hm⟩ := (afterName?_eq_some_iff cs tail).mp hname
    obtain ⟨blanks, hblanks, rfl⟩ := (trimStart_eq_cons_iff tail rest).mp htail
    exact .intro s u m blanks rest hs hu hm hblanks
  · rintro ⟨s, u, m, blanks, rest, hs, hu, hm, hblanks⟩
    exact ⟨_, (afterName?_eq_some_iff _ _).mpr ⟨s, u, m, rfl, hs, hu, hm⟩,
      (trimStart_eq_cons_iff _ rest).mpr ⟨blanks, hblanks, rfl⟩⟩

theorem afterSum?_eq_none_iff (cs : List Char) : afterSum? cs = none ↔ ∀ rest, ¬ OpensSum cs rest := by
  rw [Option.eq_none_iff_forall_ne_some]
  exact forall_congr' fun rest => not_congr (afterSum?_eq_some_iff cs rest)

theorem sumBody?_eq_some_iff (rest body : List Char) : sumBody? rest = some body ↔ Closes rest body := by
  rw [sumBody?, Option.ite_none_right_eq_some, Option.some.injEq, Closes]
  constructor
  · rintro ⟨⟨hlast, hline⟩, rfl⟩
    obtain ⟨body, rfl⟩ := List.getLast?_eq_some_iff.mp hlast
    rw [List.dropLast_concat] at hline ⊢
    exact ⟨rfl, hline⟩
  · rintro ⟨rfl, hline⟩
    rw [List.getLast?_concat, List.dropLast_concat]
    exact ⟨⟨rfl, hline⟩, rfl⟩

/-! ## arguments -/

theorem not_mem_of_mem_splitOn (sep : Char) (cs arg : List Char) (h : arg ∈ cs.splitOn sep) : sep ∉ arg := by
  induction cs generalizing arg with
  | nil =>
    rw [List.splitOn_nil, List.mem_singleton] at h
    rw [h]
    exact List.not_mem_nil
  | cons c cs ih =>
    rw [List.splitOn_cons_eq_if_modifyHead] at h
    by_cases hc : (c == sep) = true
    · rw [if_pos hc] at h
      rcases List.mem_cons.mp h with rfl | h
      · exact List.not_mem_nil
      · exact ih arg h
    · rw [if_neg hc] at h
      -- the first character goes to the first piece
      obtain ⟨first, others, e⟩ := List.exists_cons_of_ne_nil (List.splitOn_ne_nil sep cs)
      rw [e] at h ih
      rcases List.mem_cons.mp h with rfl | h
      · intro hmem
        rcases List.mem_cons.mp hmem with rfl | hmem
        · exact hc (beq_self_eq_true _)
        · exact ih first List.mem_cons_self hmem
      · exact ih arg (List.mem_cons_of_mem first h)

/-- **A body has its arguments in one way only.** -/
theorem commaSeparated_iff (body : List Char) (args : List (List Char)) :
    CommaSeparated body args ↔ args = body.splitOn ',' := by
  constructor
  · rintro ⟨hne, hcomma, rfl⟩
    exact (List.splitOn_intercalate ',' hcomma hne).symm
  · rintro rfl
    exact ⟨List.splitOn_ne_nil ',' body, not_mem_of_mem_splitOn ',' body, List.intercalate_splitOn ','⟩

theorem sumOf_eq (body : List Char) : sumOf body = leftSum (body.splitOn ',') := by
  rw [sumOf, arguments, leftSum, List.map_map]
  rfl

theorem mem_intercalate (sep c : Char) (args : List (List Char)) (h : c ∈ [sep].intercalate args) :
    c = sep ∨ ∃ arg ∈ args, c ∈ arg := by
  induction args with
  | nil => cases h
  | cons arg args ih =>
    cases args with
    | nil =>
      rw [List.intercalate_singleton] at h
      exact .inr ⟨arg, List.mem_cons_self, h⟩
    | cons next others =>
      rw [List.intercalate_cons_cons, List.mem_append, List.mem_append, List.mem_singleton] at h
      rcases h with (h | h) | h
      · exact .inr ⟨arg, List.mem_cons_self, h⟩
      · exact .inl h
      · rcases ih h with h | ⟨other, hmem, h⟩
        · exact .inl h
        · exact .inr ⟨other, List.mem_cons_of_mem arg hmem, h⟩

/-! ## evaluation -/

section
variable (source : Source) (raw : String)

theorem evaluate_formula (cs : List Char) (h : raw.toList = '=' :: cs) :
    evaluate source raw = evaluateBody source (trim cs) := by
  rw [evaluate, h]
  rfl

/-- a formula that is no sum is worth its body, with the values of its references in it -/
theorem evaluate_of_no_sum (cs : List Char) (h : raw.toList = '=' :: cs) (hsum : afterSum? (trim cs) = none) :
    evaluate source raw = .number (Arith.evaluate (substitute source (trim cs))) := by
  rw [evaluate_formula source raw cs h, evaluateBody, hsum]

/-- **The only errors are sums that are not closed.** -/
theorem evaluate_eq_error_iff : evaluate source raw = .error ↔
    ∃ cs rest, raw.toList = '=' :: cs ∧ OpensSum (trim cs) rest ∧ ∀ body, ¬ Closes rest body := by
  constructor
  · intro h
    unfold evaluate at h
    split at h
    · next cs e =>
      unfold evaluateBody at h
      split at h
      · next rest hrest =>
        split at h
        · cases h
        · next hnone =>
          refine ⟨cs, rest, e, (afterSum?_eq_some_iff _ _).mp hrest, fun body hcloses => ?_⟩
          cases hnone.symm.trans ((sumBody?_eq_some_iff rest body).mpr hcloses)
      · cases h
    · cases h
  · rintro ⟨cs, rest, e, hopens, hno⟩
    have hnone : sumBody? rest = none := by
      cases hbody : sumBody? rest with
      | none => rfl
      | some body => exact absurd ((sumBody?_eq_some_iff rest body).mp hbody) (hno body)
    rw [evaluate_formula source raw cs e]
    simp only [evaluateBody, (afterSum?_eq_some_iff _ rest).mpr hopens, hnone]

/-- **A closed sum is worth its arguments, added from the left.** -/
theorem evaluate_closed (cs rest body : List Char) (h : raw.toList = '=' :: cs) (hopens : OpensSum (trim cs) rest)
    (hcloses : Closes rest body) : evaluate source raw = .number (leftSum (body.splitOn ',')) := by
  rw [evaluate_formula source raw cs h]
  simp only [evaluateBody, (afterSum?_eq_some_iff _ rest).mpr hopens, (sumBody?_eq_some_iff rest body).mpr hcloses,
    sumOf_eq]

/-- the sum of a list of arguments, written out -/
theorem evaluate_written (args : List (List Char)) (hne : args ≠ []) (hargs : ∀ arg ∈ args, ',' ∉ arg ∧ '\n' ∉ arg)
    (h : raw.toList = "=sum(".toList ++ ([','].intercalate args ++ [')'])) :
    evaluate source raw = .number (leftSum args) := by
  have hsplit := (commaSeparated_iff _ args).mp ⟨hne, fun arg harg => (hargs arg harg).1, rfl⟩
  have hline : '\n' ∉ [','].intercalate args := by
    intro hmem
    rcases mem_intercalate ',' '\n' args hmem with e | ⟨arg, harg, hmem⟩
    · exact absurd e (by decide)
    · exact (hargs arg harg).2 hmem
  -- the text ends on the parenthesis, so no blanks are taken off
  have htrim : trim ("sum(".toList ++ ([','].intercalate args ++ [')'])) =
      "sum(".toList ++ ([','].intercalate args ++ [')']) := by
    apply trim_eq_self_of_ends
    · rintro _ ⟨⟩
      decide
    · rw [← List.append_assoc, List.getLast?_concat]
      rintro _ ⟨⟩
      decide
  have hopens : OpensSum ("sum(".toList ++ ([','].intercalate args ++ [')'])) ([','].intercalate args ++ [')']) :=
    .intro 's' 'u' 'm' [] _ (by decide) (by decide) (by decide) fun _ hc => nomatch hc
  rw [← htrim] at hopens
  rw [evaluate_closed source raw _ _ _ h hopens ⟨rfl, hline⟩, ← hsplit]

end

/-- **Sums are recognised and computed exactly.** The error stands for a formula that begins like a sum and is not
closed at its end, on one line. A formula that is closed has its arguments in one way only, and it is worth their
sum from the left, whatever the source; so a list of arguments that is written out is worth its sum. -/
theorem sums_exact (source : Source) :
    (∀ raw, evaluate source raw = .error ↔
      ∃ cs rest, raw.toList = '=' :: cs ∧ OpensSum (trim cs) rest ∧ ∀ body, ¬ Closes rest body) ∧
    (∀ raw cs rest body, raw.toList = '=' :: cs → OpensSum (trim cs) rest → Closes rest body →
      ∃ args, (∀ other, CommaSeparated body other ↔ other = args) ∧ evaluate source raw = .number (leftSum args)) ∧
    (∀ args : List String, args ≠ [] → (∀ arg ∈ args, ',' ∉ arg.toList ∧ '\n' ∉ arg.toList) →
      evaluate source ("=sum(" ++ ",".intercalate args ++ ")") = .number (leftSum (args.map String.toList))) := by
  refine ⟨evaluate_eq_error_iff source, fun raw cs rest body h hopens hcloses => ?_, fun args hne hargs => ?_⟩
  · exact ⟨body.splitOn ',', commaSeparated_iff body, evaluate_closed source raw cs rest body h hopens hcloses⟩
  · apply evaluate_written
    · exact mt List.map_eq_nil_iff.mp hne
    · intro arg harg
      obtain ⟨text, htext, rfl⟩ := List.mem_map.mp harg
      exact hargs text htext
    · rw [String.toList_append, String.toList_append, String.toList_intercalate, List.append_assoc]
      rfl

/-- a long s, a line break in front of the parenthesis, an empty argument and one with parentheses; text behind the
sum; and two arguments that are written out, one with blanks around it -/
theorem sums_of_odd_form (source : Source) :
    evaluate source "= ſUm\n( 1,,(2) )\t" =
        .number (-0 + Arith.evaluate ['1'] + Arith.evaluate [] + Arith.evaluate ['(', '2', ')']) ∧
      evaluate source "=sum(1)+1" = .error ∧
      evaluate source "=sum(3, 4\t)" = .number (-0 + Arith.evaluate ['3'] + Arith.evaluate ['4']) := by
  obtain ⟨herror, hclosed, hwritten⟩ := sums_exact source
  have hraw : "= ſUm\n( 1,,(2) )\t".toList = '=' :: " ſUm\n( 1,,(2) )\t".toList := by decide
  have htrim : trim " ſUm\n( 1,,(2) )\t".toList = "ſUm\n( 1,,(2) )".toList := by decide
  have hopens : OpensSum (trim " ſUm\n( 1,,(2) )\t".toList) " 1,,(2) )".toList := by
    rw [htrim]
    exact .intro 'ſ' 'U' 'm' ['\n'] _ (by decide) (by decide) (by decide) (List.forall_mem_singleton.mpr (by decide))
  have hcloses : Closes " 1,,(2) )".toList " 1,,(2) ".toList := ⟨rfl, by decide⟩
  obtain ⟨args, hargs, hvalue⟩ := hclosed _ _ _ _ hraw hopens hcloses
  have hthree : CommaSeparated " 1,,(2) ".toList [" 1".toList, [], "(2) ".toList] :=
    ⟨by decide, by decide, by decide⟩
  obtain rfl := (hargs _).mp hthree
  refine ⟨hvalue, (herror "=sum(1)+1").mpr ⟨"sum(1)+1".toList, "1)+1".toList, by decide, ?_, ?_⟩,
    hwritten ["3", " 4\t"] (by decide) (by decide)⟩
  · exact .intro 's' 'u' 'm' [] _ (by decide) (by decide) (by decide) fun _ hc => nomatch hc
  · rintro body ⟨hrest, _⟩
    have hlast : some '1' = some ')' := by
      have e := congrArg List.getLast? hrest
      rwa [List.getLast?_concat] at e
    cases hlast

end FormulaGrid.Formula
