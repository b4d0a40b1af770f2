import FormulaGrid.Proofs.Arith.Seams
import FormulaGrid.Proofs.Formula.Operand
import FormulaGrid.Proofs.Formula.Segments

/-!
# Numbers that go on behind a reference

* `segmentTokens`      the tokens of the segments of a text, each read by itself after substitution;
* `Continues`          a number at the end of a text goes on in the next text;
* `Unfused`            no value that is written for a reference continues a number or is continued;
* `tokenize_substitute_iff`   the text after substitution has the tokens of its segments if and only if
                       this is so;
* `reference_fuses_with_point`   the reference in `A1.5` is continued.

A reference is a whole word, so no digit stands beside it, and what is written for it begins and ends
with a digit, a sign or a parenthesis.  That leaves the point: in front of a reference it takes the digits
that are written, and behind one it goes on with them if they have no point yet.
-/

namespace FormulaGrid.Formula

open Arith Number Text

/-! ## the ends of an operand -/

/-- the words for what is not finite -/
def nonFiniteWords : List (List Char) := [['N', 'a', 'N'], ['i', 'n', 'f'], ['-', 'i', 'n', 'f']]

/-- no character of them joins a number or an operator -/
theorem of_mem_nonFiniteWords :
    ∀ w ∈ nonFiniteWords, w ≠ [] ∧ ∀ c ∈ w, c.isDigit = false ∧ c ≠ '.' ∧ c ≠ '*' := by
  -- member by member, for a bound over a list may be decided by running through all characters
  simp only [nonFiniteWords, List.forall_mem_cons, List.not_mem_nil, false_imp_iff, implies_true, and_true]
  decide

theorem write_mem_nonFiniteWords (x : Float) (h : x.isFinite = false) :
    write operandStyle x ∈ nonFiniteWords := by
  cases hn : x.isNaN with
  | true =>
    rw [write_nan operandStyle x hn]
    exact List.mem_cons_self
  | false =>
    rw [write_infinite operandStyle x (magnitude_eq_infinityBits x hn h)]
    cases isNegative x with
    | false => decide
    | true => decide

theorem positional_head (d : Decimal) : ∃ c cs, d.positional = c :: cs ∧ c.isDigit := by
  have hdigits : ∀ ds : List Char, ds ≠ [] → ds.all Char.isDigit → ∀ rest, ∃ c cs,
      ds ++ rest = c :: cs ∧ c.isDigit := by
    intro ds hne hd rest
    obtain ⟨c, cs, rfl⟩ := List.exists_cons_of_ne_nil hne
    exact ⟨c, cs ++ rest, rfl, List.all_eq_true.mp hd c List.mem_cons_self⟩
  obtain ⟨c, exponent⟩ := d
  cases exponent with
  | ofNat e => exact hdigits _ Nat.toDigits_ne_nil (all_isDigit_toDigits c) _
  | negSucc e =>
    obtain ⟨ws, fs, k, hne, hws, _, _, _, e⟩ := exists_positional c e
    rw [e]
    exact hdigits ws hne hws _

/-- an operand stands in parentheses, or it is a word, the zero below zero or a number that begins with
a digit -/
theorem operandText_cases (x : Float) : (∃ body, operandText x = '(' :: body ++ [')']) ∨
    operandText x ∈ nonFiniteWords ∨ operandText x = ['-', '0'] ∨
    Numeral (operandText x) ∧ ∃ c cs, operandText x = c :: cs ∧ c.isDigit := by
  by_cases hlt : x < 0
  · left
    rw [operandText, if_pos hlt]
    exact ⟨_, rfl⟩
  · right
    cases hf : x.isFinite with
    | false =>
      left
      rw [operandText, if_neg hlt]
      exact write_mem_nonFiniteWords x hf
    | true =>
      right
      by_cases hz : x = -0
      · left
        rw [hz, operandText_neg_zero]
      · right
        rw [operandText_of_not_lt_zero x hf hlt hz]
        exact ⟨numeral_magnitudeText x, positional_head _⟩

theorem head_operandText (x : Float) : ∃ c cs, operandText x = c :: cs ∧ c ≠ '.' ∧ c ≠ '*' := by
  rcases operandText_cases x with ⟨body, e⟩ | h | e | ⟨_, c, cs, e, hc⟩
  · exact ⟨'(', body ++ [')'], e, by decide, by decide⟩
  · obtain ⟨hne, hchars⟩ := of_mem_nonFiniteWords _ h
    obtain ⟨c, cs, e⟩ := List.exists_cons_of_ne_nil hne
    exact ⟨c, cs, e, (hchars c (e ▸ List.mem_cons_self)).2⟩
  · exact ⟨'-', ['0'], e, by decide, by decide⟩
  · refine ⟨c, cs, e, ?_, ?_⟩
    · rintro rfl
      exact absurd hc (by decide)
    · rintro rfl
      exact absurd hc (by decide)

theorem getLast_operandText (x : Float) : (operandText x).getLast? ≠ some '*' := by
  rcases operandText_cases x with ⟨body, e⟩ | h | e | ⟨hn, _⟩
  · rw [e, List.getLast?_concat]
    decide
  · intro e
    exact ((of_mem_nonFiniteWords _ h).2 _ (List.mem_of_getLast? e)).2.2 rfl
  · rw [e]
    decide
  · intro e
    rcases hn.mem _ '*' (List.mem_of_getLast? e) with hd | hp
    · exact absurd hd (by decide)
    · exact absurd hp (by decide)

/-! ## seams -/

/-- a number at the end of the one text goes on in the other: with digits behind its point, or with its
first point -/
def Continues (s t : List Char) : Prop :=
  s.getLast? = some '.' ∧ (∃ c ∈ t.head?, c.isDigit) ∨
    t.head? = some '.' ∧ '.' ∉ s ∧ ∃ c ∈ s.getLast?, c.isDigit

/-- in front of an operand -/
theorem separate_operandText (s : List Char) (x : Float) (rest : List Char)
    (hs : ∃ c ∈ s.getLast?, isWord c = false) (h : ¬ Continues s (operandText x)) :
    Separate s (operandText x ++ rest) := by
  obtain ⟨c, cs, e, hp, hstar⟩ := head_operandText x
  rw [e] at h ⊢
  refine ⟨fun _ he => hstar (Option.some.inj he), ?_⟩
  cases hd : c.isDigit with
  | false => exact Or.inl (Stops.cons c _ hd hp)
  | true =>
    right
    obtain ⟨l, hl, hw⟩ := hs
    intro d hlast
    obtain rfl : l = d := Option.mem_unique hl hlast
    refine ⟨isDigit_of_not_isWord l hw, ?_⟩
    rintro rfl
    exact h (Or.inl ⟨hl, c, rfl, hd⟩)

theorem tokenize_point_append (ds fs rest : List Char) (hn : Numeral (ds ++ '.' :: fs))
    (hd : ds.all Char.isDigit) (hf : fs.all Char.isDigit) (hrest : ∀ c ∈ rest.head?, c.isDigit = false) :
    tokenize (ds ++ '.' :: fs ++ rest) =
      (tokenize (ds ++ '.' :: fs)).bind fun ts => (tokenize rest).map (ts ++ ·) := by
  have hself := Spells.tokenize_eq _ _ (Spells.number _ hn)
  rw [tokenize_numeral _ rest hn (takeNumber_point ds fs rest hd hf hrest), hself]
  rfl

/-- behind an operand: a point does not go on with a number that has one -/
theorem tokenize_operandText_append (x : Float) (rest : List Char) (hrest : OtherFirst rest)
    (h : ¬ Continues (operandText x) rest) : tokenize (operandText x ++ rest) =
      (tokenize (operandText x)).bind fun ts => (tokenize rest).map (ts ++ ·) := by
  have hdigit : ∀ c ∈ rest.head?, c.isDigit = false := fun c hc => isDigit_of_not_isWord c (hrest c hc)
  have hseparate : Stops rest ∨ Closed (operandText x) → _ := fun hsep =>
    tokenize_append _ rest ⟨fun e => absurd e (getLast_operandText x), hsep⟩
  have hstops : '.' ∉ operandText x → (∃ c ∈ (operandText x).getLast?, c.isDigit) → Stops rest := by
    intro hp hd c hc
    refine ⟨hdigit c hc, ?_⟩
    rintro rfl
    exact h (Or.inr ⟨hc, hp, hd⟩)
  rcases operandText_cases x with ⟨body, e⟩ | hw | e | ⟨hn, _⟩
  · refine hseparate (Or.inr fun c hc => ?_)
    rw [e, List.getLast?_concat] at hc
    obtain rfl := Option.some.inj hc
    decide
  · refine hseparate (Or.inr fun c hc => ?_)
    obtain ⟨hd, hp, _⟩ := (of_mem_nonFiniteWords _ hw).2 c (List.mem_of_getLast? hc)
    exact ⟨hd, hp⟩
  · rw [e] at hstops
    exact hseparate (Or.inl (hstops (by decide) ⟨'0', rfl, by decide⟩))
  · generalize operandText x = text at *
    cases hn with
    | whole _ hne hd =>
      have hlast := List.getLast?_eq_some_getLast hne
      refine hseparate (Or.inl (hstops (fun hp => ?_) ⟨_, hlast, ?_⟩))
      · exact absurd (List.all_eq_true.mp hd '.' hp) (by decide)
      · exact List.all_eq_true.mp hd _ (List.getLast_mem hne)
    | point ds fs hne hd hf => exact tokenize_point_append ds fs rest (.point ds fs hne hd hf) hd hf hdigit
    | fraction fs hne hf => exact tokenize_point_append [] fs rest (.fraction fs hne hf) rfl hf hdigit

/-! ## tokens at a seam -/

theorem getLast_of_tokenize (s : List Char) (ts : List Token) (c : Char) (h : tokenize s = some ts)
    (hc : c ∈ s.getLast?) : ∃ t ∈ ts.getLast?, c ∈ t.spelling.getLast? ∧ ∀ d ∈ t.spelling, d ∈ s := by
  obtain ⟨rfl, hwf⟩ := spelling_of_tokenize s ts h
  induction ts using List.reverseRecOn with
  | nil => cases hc
  | append_singleton ts t _ =>
    have hne := spelling_ne_nil t (hwf t (by simp))
    have hsplit : (ts ++ [t]).flatMap Token.spelling = ts.flatMap Token.spelling ++ t.spelling := by
      rw [List.flatMap_append, List.flatMap_singleton]
    rw [hsplit] at hc ⊢
    rw [List.getLast?_append, List.getLast?_eq_some_getLast hne] at hc
    refine ⟨t, List.getLast?_concat, ?_, fun d => List.mem_append_right _⟩
    rw [List.getLast?_eq_some_getLast hne]
    exact hc

theorem head_of_tokenize (s : List Char) (ts : List Token) (c : Char) (h : tokenize s = some ts)
    (hc : c ∈ s.head?) : ∃ t ∈ ts.head?, c ∈ t.spelling.head? := by
  obtain ⟨rfl, hwf⟩ := spelling_of_tokenize s ts h
  cases ts with
  | nil => cases hc
  | cons t ts =>
    have hne := spelling_ne_nil t (hwf t List.mem_cons_self)
    rw [List.flatMap_cons, List.head?_append_of_ne_nil _ hne] at hc
    exact ⟨t, rfl, hc⟩

theorem not_continues (s t : List Char) (us vs : List Token) (hs : tokenize s = some us)
    (ht : tokenize t = some vs) (h : ∀ u ∈ us.getLast?, ∀ v ∈ vs.head?, u.Apart v) : ¬ Continues s t := by
  rintro (⟨hp, c, hc, hd⟩ | ⟨hp, hn, c, hc, hd⟩)
  · obtain ⟨u, hu, hlast, _⟩ := getLast_of_tokenize s us '.' hs hp
    obtain ⟨v, hv, hhead⟩ := head_of_tokenize t vs c ht hc
    obtain ⟨text, rfl⟩ := u.number_of_mem '.' (List.mem_of_getLast? hlast) (Or.inr rfl)
    have hnot := (h _ hu v hv text rfl c hhead).1
    rw [hd] at hnot
    cases hnot
  · obtain ⟨u, hu, hlast, hmem⟩ := getLast_of_tokenize s us c hs hc
    obtain ⟨v, hv, hhead⟩ := head_of_tokenize t vs '.' ht hp
    obtain ⟨text, rfl⟩ := u.number_of_mem c (List.mem_of_getLast? hlast) (Or.inl hd)
    exact hn (hmem '.' ((h _ hu v hv text rfl '.' hhead).2 rfl))

/-! ## all segments -/

section
variable (value : (letters digits : List Char) → Float)

/-- the tokens of segments after substitution, each segment read by itself -/
def segmentTokens : List Segment → Option (List Token)
  | [] => some []
  | a :: rest => (tokenize (a.written value)).bind fun ts => (segmentTokens rest).map (ts ++ ·)

/-- no number goes on from one segment to the next -/
def Unfused (ss : List Segment) : Prop :=
  ss.IsChain fun a b => ¬ Continues (a.written value) (b.written value)

theorem tokenize_flatMap_written (ss : List Segment) (hadjoins : ss.IsChain Segment.Adjoins)
    (h : Unfused value ss) : tokenize (ss.flatMap (Segment.written value)) = segmentTokens value ss := by
  induction ss with
  | nil => exact tokenize_nil
  | cons a ss ih =>
    rw [List.flatMap_cons, segmentTokens, ← ih hadjoins.tail h.tail]
    cases ss with
    | nil => exact tokenize_append _ [] ⟨fun _ => nofun, Or.inl Stops.nil⟩
    | cons b ss =>
      have hab := (List.isChain_cons_cons.mp hadjoins).1
      have hseam := (List.isChain_cons_cons.mp h).1
      rw [List.flatMap_cons]
      match a, b with
      | .kept s, .reference letters digits =>
        exact tokenize_append s _ (separate_operandText s _ _ hab hseam)
      | .reference letters digits, .kept [] =>
        obtain ⟨_, e, _⟩ := hab
        cases e
      | .reference letters digits, .kept (c :: s) =>
        obtain ⟨_, e, hc⟩ := hab
        obtain rfl := Option.some.inj e
        exact tokenize_operandText_append _ _ (OtherFirst.cons c _ hc) hseam

theorem unfused_of_segmentTokens (ss : List Segment) (ts : List Token)
    (h : segmentTokens value ss = some ts) (hts : ts.IsChain Token.Apart) : Unfused value ss := by
  induction ss generalizing ts with
  | nil => exact List.isChain_nil
  | cons a ss ih =>
    obtain ⟨us, hus, h⟩ := Option.bind_eq_some_iff.mp h
    obtain ⟨vs, hvs, rfl⟩ := Option.map_eq_some_iff.mp h
    obtain ⟨_, hchain, hseam⟩ := List.isChain_append.mp hts
    refine List.isChain_cons.mpr ⟨fun b hb => ?_, ih vs hvs hchain⟩
    obtain ⟨ss, rfl⟩ := List.head?_eq_some_iff.mp hb
    obtain ⟨ws, hws, h⟩ := Option.bind_eq_some_iff.mp hvs
    obtain ⟨rest, _, rfl⟩ := Option.map_eq_some_iff.mp h
    refine not_continues _ _ us ws hus hws fun u hu w hw => hseam u hu w ?_
    rw [List.head?_append, Option.mem_def.mp hw]
    rfl

end

/-- **Substitution keeps values apart from the text around them, unless a number goes on at a point.**
A text is its segments.  If no number goes on from one of them to the next, the text after substitution
has the tokens of its segments, or no tokens if one of them has none; and whenever it has tokens, they
are those of the segments only if this is so. -/
theorem tokenize_substitute_iff (source : Source) (cs : List Char) :
    (segments cs).flatMap Segment.text = cs ∧
    (Unfused (resolve source) (segments cs) →
      tokenize (substitute source cs) = segmentTokens (resolve source) (segments cs)) ∧
    ∀ ts, tokenize (substitute source cs) = some ts →
      (segmentTokens (resolve source) (segments cs) = some ts ↔ Unfused (resolve source) (segments cs)) := by
  have hkeep : Unfused (resolve source) (segments cs) →
      tokenize (substitute source cs) = segmentTokens (resolve source) (segments cs) := by
    intro h
    rw [substitute, ← flatMap_written]
    exact tokenize_flatMap_written _ _ (isChain_segments cs) h
  refine ⟨flatMap_text cs, hkeep, fun ts hts => ⟨fun h => ?_, fun h => (hkeep h).symm.trans hts⟩⟩
  exact unfused_of_segmentTokens _ _ ts h (isChain_tokenize _ ts hts)

/-- the value 2 of a reference and the fraction behind it are one number -/
theorem reference_fuses_with_point : (resolve (single "2") ['A'] ['1']).isFinite = true ∧
    segments ['A', '1', '.', '5'] = [.reference ['A'] ['1'], .kept ['.', '5']] ∧
    tokenize (substitute (single "2") ['A', '1', '.', '5']) = some [.number ['2', '.', '5']] ∧
    segmentTokens (resolve (single "2")) (segments ['A', '1', '.', '5']) =
      some [.number ['2'], .number ['.', '5']] := by
  have hx : resolve (single "2") ['A'] ['1'] = 2 := toBits_inj _ _ (by decide +kernel)
  have hf : (2 : Float).isFinite = true := by decide +kernel
  have hlt : ¬ (2 : Float) < 0 := fun h =>
    absurd ((lt_zero_iff 2 hf).mp h).1 (by decide +kernel)
  have hz : (2 : Float) ≠ -0 := fun h => absurd ((eq_neg_zero_iff 2).mp h).1 (by decide +kernel)
  have hmagnitude : magnitudeText 2 = ['2'] := by decide +kernel
  have htext : operandText 2 = ['2'] := (operandText_of_not_lt_zero 2 hf hlt hz).trans hmagnitude
  have hsegments : segments ['A', '1', '.', '5'] = [.reference ['A'] ['1'], .kept ['.', '5']] := by
    decide +kernel
  have hnumber : ∀ text, Numeral text → tokenize text = some [.number text] := fun text hn =>
    Spells.tokenize_eq _ _ (Spells.number text hn)
  have htwo := hnumber ['2'] (.whole _ (by decide) (by decide))
  have hhalf := hnumber ['.', '5'] (.fraction ['5'] (by decide) (by decide))
  refine ⟨hx ▸ hf, hsegments, ?_, ?_⟩
  · have hsub : substitute (single "2") ['A', '1', '.', '5'] = ['2', '.', '5'] := by
      rw [substitute, ← flatMap_written, hsegments]
      show operandText (resolve (single "2") ['A'] ['1']) ++ ['.', '5'] = _
      rw [hx, htext]
      rfl
    rw [hsub]
    exact hnumber _ (.point ['2'] ['5'] (by decide) (by decide) (by decide))
  · rw [hsegments]
    simp only [segmentTokens, Segment.written, hx, htext, htwo, hhalf]
    rfl

end FormulaGrid.Formula
