import FormulaGrid.Proofs.Arith.Meaning
import FormulaGrid.Proofs.Formula.Extended

/-!
# What is read after substitution

* `operandTokens`      the tokens of the text of a number as an operand;
* `cuttable`           the tokens of a text after substitution are those of pieces of the text;
* `substitute_commutes_with_evaluation`   the text after substitution has the value that the grammar
                       with references derives for the text, and is worth `0` if there is none.

A point beside a reference would go on as a number with the digits that are written for it.  Other
words beside references cannot be: a word that is no reference is kept, and if arithmetic admits it,
it consists of digits.
-/

namespace FormulaGrid.Formula

open Arith Number Text

/-! ## tokens of operands -/

def operandTokens (x : Float) : List Token :=
  if x < 0 then [.opening, .minus, .number (magnitudeText x), .closing]
  else [.number (magnitudeText x)]

theorem factor_read_signed (n : Nat) (ts : List Token) (h : n < 2) :
    (factor (Arith.unary n)).read (.opening :: .minus :: ts) = none := by
  have hnone : (Arith.unary n).read (.minus :: ts) = none := by
    match n with
    | 0 => rfl
    | 1 => rfl
  simp only [factor, additive, multiplicative, chain, hnone]

theorem beginsFactor_operandTokens (x : Float) : BeginsFactor (operandTokens x) := by
  unfold operandTokens
  split
  · exact ⟨_, _, rfl, rfl⟩
  · exact ⟨_, _, rfl, rfl⟩

section
variable (x : Float) (hf : x.isFinite = true)
include hf

theorem reads_operandTokens_of_lt_zero (h : x < 0) (n : Nat) :
    Reads (n + 2) .factor (operandTokens x) x := by
  have hv := readFloat?_magnitudeText x hf
  have hr : Reads (n + 2) .unary (.minus :: [.number (magnitudeText x)])
      (-Float.ofBits (magnitude x).toUInt64) := (Reads.number (n := n) _ hv).factor.power.minus
  rw [neg_ofBits_magnitude x hf (isNegative_of_lt_zero x hf h)] at hr
  rw [operandTokens, if_pos h]
  exact hr.unary.term.group

variable (hz : x ≠ -0)
include hz

theorem spells_operandText : Spells (operandText x) (operandTokens x) := by
  have hn := Spells.number _ (numeral_magnitudeText x)
  by_cases h : x < 0
  · rw [operandText_of_lt_zero x hf h, operandTokens, if_pos h]
    exact (Spells.cons '-' .minus _ _ (fun _ => rfl) hn).group
  · rw [operandText_of_not_lt_zero x hf h hz, operandTokens, if_neg h]
    exact hn

/-- a number below zero is not read where its sign and what follows it have no level left -/
theorem read_operandTokens (n : Nat) (rest rest' : List Token) (v : Float)
    (hr : (factor (Arith.unary n)).read (operandTokens x ++ rest) = some (v, rest')) :
    v = x ∧ rest' = rest ∧ (x < 0 → 2 ≤ n) := by
  by_cases h : x < 0
  · by_cases hn : n < 2
    · rw [operandTokens, if_pos h, List.cons_append, List.cons_append, factor_read_signed n _ hn] at hr
      cases hr
    · obtain ⟨k, rfl⟩ := Nat.exists_eq_add_of_le' (Nat.le_of_not_lt hn)
      rw [(reads_operandTokens_of_lt_zero x hf h k).2 rest] at hr
      obtain ⟨rfl, rfl⟩ := Prod.mk.inj (Option.some.inj hr)
      exact ⟨rfl, rfl, fun _ => Nat.le_add_left 2 k⟩
  · have hs := isNegative_of_not_lt_zero x hf h hz
    have hv := readFloat?_magnitudeText x hf
    rw [ofBits_magnitude x hs] at hv
    rw [operandTokens, if_neg h, List.singleton_append, factor_read_number _ _ _ _ hv] at hr
    obtain ⟨rfl, rfl⟩ := Prod.mk.inj (Option.some.inj hr)
    exact ⟨rfl, rfl, fun hlt => absurd hlt h⟩

end

theorem good_reference (source : Source) (word letters digits : List Char)
    (hp : referenceParts? word = some (letters, digits))
    (hf : (resolve source letters digits).isFinite = true) (hz : resolve source letters digits ≠ -0) :
    (Piece.operand word (operandTokens (resolve source letters digits))).Good (operand source) := by
  refine ⟨beginsFactor_operandTokens _, fun n rest v rest' hr => ?_⟩
  obtain ⟨rfl, rfl, hn⟩ := read_operandTokens _ hf hz n rest rest' v hr
  exact ⟨rfl, Or.inr ⟨letters, digits, hp, rfl, hn⟩⟩

/-! ## pieces of a text -/

/-- the text is made of good pieces with these tokens -/
def Cuts (source : Source) (cs : List Char) (ts : List Token) : Prop :=
  ∃ ps, textOf ps = cs ∧ tokensOf ps = ts ∧ ∀ a ∈ ps, a.Good (operand source)

theorem Cuts.nil (source : Source) : Cuts source [] [] := ⟨[], rfl, rfl, fun _ h => by cases h⟩

theorem Cuts.cons (source : Source) (a : Piece) (cs : List Char) (ts : List Token)
    (ha : a.Good (operand source)) (h : Cuts source cs ts) :
    Cuts source (a.text ++ cs) (a.tokens ++ ts) := by
  obtain ⟨ps, rfl, rfl, hg⟩ := h
  exact ⟨a :: ps, rfl, rfl, List.forall_mem_cons.mpr ⟨ha, hg⟩⟩

theorem Cuts.number (source : Source) (text cs : List Char) (ts : List Token) (hn : Numeral text)
    (h : Cuts source cs ts) : Cuts source (text ++ cs) (.number text :: ts) :=
  h.cons source (.operand text [.number text]) cs ts
    (Piece.good_number text fun _ _ hv => Or.inl ⟨hn, hv⟩)

/-! ## texts after substitution -/

theorem all_isDigit_of_word (w : List Char) (hw : ∀ c ∈ w, isWord c) (ha : w.all isAllowed) :
    w.all Char.isDigit := by
  refine List.all_eq_true.mpr fun c hc => ?_
  have e := of_isAllowed (fun d => d.isDigit || !isWord d) c (List.all_eq_true.mp ha c hc)
    (fun hd => by rw [hd, Bool.true_or]) (by decide)
  rwa [hw c hc, Bool.not_true, Bool.or_false] at e

section
variable (source : Source)

theorem substitute_cons (c : Char) (cs : List Char) (hc : isWord c = false) :
    substitute source (c :: cs) = c :: substitute source cs :=
  substituteWith_cons (resolve source) c cs hc

theorem substitute_word_append (w cs : List Char) (hw : ∀ c ∈ w, isWord c) (hcs : OtherFirst cs)
    (hp : referenceParts? w = none) : substitute source (w ++ cs) = w ++ substitute source cs := by
  by_cases hne : w = []
  · rw [hne]
    rfl
  · rw [substitute, substituteWith_word_append _ w cs hne hw hcs, substituteRun, hp]
    rfl

theorem substitute_reference_append (w cs letters digits : List Char) (hcs : OtherFirst cs)
    (hp : referenceParts? w = some (letters, digits)) :
    substitute source (w ++ cs) = operandText (resolve source letters digits) ++ substitute source cs := by
  obtain ⟨hne, hw⟩ := isWord_of_reference w letters digits hp
  rw [substitute, substituteWith_word_append _ w cs hne hw hcs, substituteRun, hp]
  rfl

/-- the first character stays the first if it is no word character -/
theorem head_substitute (cs : List Char) (hcs : OtherFirst cs) :
    (substitute source cs).head? = cs.head? := by
  cases cs with
  | nil => rfl
  | cons c cs =>
    rw [substitute_cons source c cs (hcs c rfl)]
    rfl

theorem star_of_substitute (cs r : List Char) (hexp : Expressible source cs)
    (h : substitute source cs = '*' :: r) : ∃ cs', cs = '*' :: cs' ∧ r = substitute source cs' := by
  induction cs using text_induction with
  | nil => cases h
  | other c cs hc _ =>
    rw [substitute_cons source c cs hc] at h
    obtain ⟨rfl, rfl⟩ := List.cons.inj h
    exact ⟨cs, rfl, rfl⟩
  | word w cs hne hw hcs _ =>
    exfalso
    cases hp : referenceParts? w with
    | some parts =>
      obtain ⟨letters, digits⟩ := parts
      obtain ⟨hf, hz⟩ := hexp.reference hcs hp
      obtain ⟨c, ds, e, hc⟩ := (derives_operandText _ hf 2 hz fun _ => Nat.le_refl 2).head
      rw [substitute_reference_append source w cs letters digits hcs hp, e] at h
      exact hc (List.cons.inj h).1
    | none =>
      obtain ⟨c, w, rfl⟩ := List.exists_cons_of_ne_nil hne
      rw [substitute_word_append source _ cs hw hcs hp] at h
      have hc := hw c List.mem_cons_self
      rw [(List.cons.inj h).1] at hc
      exact absurd hc (by decide)

/-- a text is empty, or it begins with a character outside words that is no point, with a word that no
point follows, or with a point that may have words on both sides -/
theorem text_cases (cs : List Char) : cs = [] ∨
    (∃ c rest, cs = c :: rest ∧ isWord c = false ∧ c ≠ '.') ∨
    (∃ w rest, cs = w ++ rest ∧ w ≠ [] ∧ (∀ c ∈ w, isWord c) ∧ OtherFirst rest ∧
      rest.head? ≠ some '.') ∨
    ∃ w fs rest, cs = w ++ '.' :: (fs ++ rest) ∧ (∀ c ∈ w, isWord c) ∧ (∀ c ∈ fs, isWord c) ∧
      OtherFirst rest := by
  have hword : ∀ ds : List Char, ∀ c ∈ ds.takeWhile isWord, isWord c := fun ds =>
    List.all_eq_true.mp List.all_takeWhile
  have hsplit : ∀ ds : List Char, ds = ds.takeWhile isWord ++ ds.dropWhile isWord := fun ds =>
    List.takeWhile_append_dropWhile.symm
  have hpoint : ∀ w ds : List Char, (∀ c ∈ w, isWord c) → ∃ w' fs rest,
      w ++ '.' :: ds = w' ++ '.' :: (fs ++ rest) ∧
      (∀ c ∈ w', isWord c) ∧ (∀ c ∈ fs, isWord c) ∧ OtherFirst rest := fun w ds hw =>
    ⟨w, _, _, by rw [← hsplit ds], hw, hword ds, otherFirst_dropWhile ds⟩
  induction cs using text_induction with
  | nil => exact Or.inl rfl
  | other c cs hc _ =>
    by_cases hp : c = '.'
    · subst hp
      exact Or.inr (Or.inr (Or.inr (hpoint [] cs fun _ h => by cases h)))
    · exact Or.inr (Or.inl ⟨c, cs, rfl, hc, hp⟩)
  | word w cs hne hw hcs _ =>
    by_cases hp : cs.head? = some '.'
    · obtain ⟨ds, rfl⟩ := List.head?_eq_some_iff.mp hp
      exact Or.inr (Or.inr (Or.inr (hpoint w ds hw)))
    · exact Or.inr (Or.inr (Or.inl ⟨w, cs, rfl, hne, hw, hcs, hp⟩))

theorem stops_substitute (cs : List Char) (hcs : OtherFirst cs) (hp : cs.head? ≠ some '.') :
    Stops (substitute source cs) := by
  intro c hc
  rw [head_substitute source cs hcs] at hc
  refine ⟨isDigit_of_not_isWord c (hcs c hc), ?_⟩
  rintro rfl
  exact hp hc

/-- digits with a point are one number, unless the point stands alone -/
theorem tokenize_point (w fs cs : List Char) (hw : w.all Char.isDigit) (hfs : fs.all Char.isDigit)
    (hcs : OtherFirst cs) (ts : List Token)
    (h : tokenize (w ++ '.' :: (fs ++ substitute source cs)) = some ts) :
    ∃ us, Numeral (w ++ '.' :: fs) ∧ ts = .number (w ++ '.' :: fs) :: us ∧
      tokenize (substitute source cs) = some us := by
  have hhead : ∀ c ∈ (substitute source cs).head?, c.isDigit = false := by
    intro c hc
    rw [head_substitute source cs hcs] at hc
    exact isDigit_of_not_isWord c (hcs c hc)
  have htake := takeNumber_point w fs _ hw hfs hhead
  by_cases hnil : w = [] ∧ fs = []
  · obtain ⟨rfl, rfl⟩ := hnil
    obtain ⟨t, r, us, hnext, _⟩ := tokenize_eq_some_cons _ _ _ h
    rw [Token.next?_numeric _ _ (Or.inr rfl)] at hnext
    simp only [List.nil_append, List.cons_append] at htake hnext
    rw [htake] at hnext
    cases hnext
  · have hn : Numeral (w ++ '.' :: fs) := by
      by_cases hwn : w = []
      · rw [hwn]
        exact .fraction fs (fun e => hnil ⟨hwn, e⟩) hfs
      · exact .point w fs hwn hw hfs
    have e := tokenize_numeral _ _ hn htake
    rw [List.append_assoc, List.cons_append, h] at e
    obtain ⟨us, hus, rfl⟩ := Option.map_eq_some_iff.mp e.symm
    exact ⟨us, hn, rfl, hus⟩

/-- whenever the text after substitution has tokens, they are those of good pieces of the text -/
def Cuttable (cs : List Char) : Prop := ∀ ts, Expressible source cs → ApartFromPoints cs →
  (substitute source cs).all isAllowed → tokenize (substitute source cs) = some ts → Cuts source cs ts

variable {source}

theorem Cuttable.nil : Cuttable source [] := by
  intro ts _ _ _ ht
  rw [show substitute source [] = [] from rfl, tokenize_nil] at ht
  obtain rfl := Option.some.inj ht
  exact Cuts.nil source

/-- two stars are one piece, any other symbol is a piece by itself -/
theorem Cuttable.symbol (c : Char) (rest : List Char) (hc : isWord c = false) (hp : c ≠ '.')
    (h : Cuttable source rest) (hstar : ∀ cs, rest = '*' :: cs → Cuttable source cs) :
    Cuttable source (c :: rest) := by
  intro ts hexp hapart hall ht
  rw [substitute_cons source c rest hc] at ht hall
  rw [List.all_cons, Bool.and_eq_true] at hall
  obtain ⟨t, r, us, hnext, hus, rfl⟩ := tokenize_eq_some_cons _ _ _ ht
  obtain ⟨hsymbol, ⟨rfl, hspell⟩ | ⟨rfl, hr, rfl⟩⟩ :=
    Token.next?_symbol c _ t r (isDigit_of_not_isWord c hc) hp hnext
  · have hcuts := h us (hexp.cons hc) (hapart.cons hc) hall.2 hus
    have e := hcuts.cons source (.symbol t) rest us hsymbol
    rwa [Piece.text, hspell] at e
  · obtain ⟨cs, rfl, rfl⟩ := star_of_substitute source rest r (hexp.cons hc) hr
    rw [hr, List.all_cons, Bool.and_eq_true] at hall
    have hcuts := hstar cs rfl us ((hexp.cons hc).cons hc) ((hapart.cons hc).cons hc) hall.2.2 hus
    exact hcuts.cons source (.symbol .power) cs us hsymbol

/-- a word is a reference or digits; no point goes on with the number that is written for it -/
theorem Cuttable.word (w rest : List Char) (hne : w ≠ []) (hw : ∀ c ∈ w, isWord c)
    (hrest : OtherFirst rest) (hp : rest.head? ≠ some '.') (h : Cuttable source rest) :
    Cuttable source (w ++ rest) := by
  intro ts hexp hapart hall ht
  have hstops := stops_substitute source rest hrest hp
  have hexp' := hexp.word_append hw hrest
  have hapart' := hapart.word_append hw hrest
  cases hr : referenceParts? w with
  | some parts =>
    obtain ⟨letters, digits⟩ := parts
    obtain ⟨hf, hz⟩ := hexp.reference hrest hr
    rw [substitute_reference_append source w rest letters digits hrest hr] at ht hall
    rw [List.all_append, Bool.and_eq_true] at hall
    rw [spells_operandText _ hf hz _ hstops] at ht
    obtain ⟨us, hus, rfl⟩ := Option.map_eq_some_iff.mp ht
    have hcuts := h us hexp' hapart' hall.2 hus
    exact hcuts.cons source (.operand w _) rest us (good_reference source w letters digits hr hf hz)
  | none =>
    rw [substitute_word_append source w rest hw hrest hr] at ht hall
    rw [List.all_append, Bool.and_eq_true] at hall
    have hnum : Numeral w := .whole w hne (all_isDigit_of_word w hw hall.1)
    rw [Spells.number w hnum _ hstops] at ht
    obtain ⟨us, hus, rfl⟩ := Option.map_eq_some_iff.mp ht
    exact (h us hexp' hapart' hall.2 hus).number source w rest us hnum

/-- beside a point stand digits only, and all of them are one number -/
theorem Cuttable.point (w fs rest : List Char) (hw : ∀ c ∈ w, isWord c) (hfs : ∀ c ∈ fs, isWord c)
    (hrest : OtherFirst rest) (h : Cuttable source rest) :
    Cuttable source (w ++ '.' :: (fs ++ rest)) := by
  intro ts hexp hapart hall ht
  have hother := OtherFirst.cons '.' (fs ++ rest) (by decide)
  have hpoint := hapart.word_append hw hother
  rw [substitute_word_append source w _ hw hother (hapart.in_front hw),
    substitute_cons source '.' _ (by decide),
    substitute_word_append source fs rest hfs hrest (hpoint.behind hfs hrest)] at ht hall
  rw [List.all_append, List.all_cons, List.all_append, Bool.and_eq_true, Bool.and_eq_true,
    Bool.and_eq_true] at hall
  obtain ⟨us, hnum, rfl, hus⟩ := tokenize_point source w fs rest (all_isDigit_of_word w hw hall.1)
    (all_isDigit_of_word fs hfs hall.2.2.1) hrest ts ht
  have hcuts := h us ((hexp.append_cons (by decide)).2.word_append hfs hrest)
    ((hpoint.cons (by decide)).word_append hfs hrest) hall.2.2.2 hus
  have e := hcuts.number source (w ++ '.' :: fs) rest us hnum
  rwa [List.append_assoc, List.cons_append] at e

/-- **The tokens after substitution are those of pieces of the text before.** -/
theorem cuttable (cs : List Char) : Cuttable source cs := by
  generalize hn : cs.length = n
  -- two stars and a number with a point are more than one step of `text_induction`
  induction n using Nat.strongRecOn generalizing cs with
  | ind n ih =>
    subst hn
    rcases text_cases cs with rfl | ⟨c, rest, rfl, hc, hp⟩ | ⟨w, rest, rfl, hne, hw, hrest, hp⟩ |
      ⟨w, fs, rest, rfl, hw, hfs, hrest⟩
    · exact .nil
    · refine .symbol c rest hc hp (ih _ (Nat.lt_succ_self _) rest rfl) ?_
      rintro cs rfl
      exact ih _ (Nat.lt_succ_of_lt (Nat.lt_succ_self _)) cs rfl
    · have hlen : rest.length < (w ++ rest).length := by
        rw [List.length_append]
        exact Nat.lt_add_of_pos_left (List.length_pos_iff.mpr hne)
      exact .word w rest hne hw hrest hp (ih _ hlen rest rfl)
    · have hlen : rest.length < (w ++ '.' :: (fs ++ rest)).length := by
        rw [List.length_append, List.length_cons, List.length_append]
        omega
      exact .point w fs rest hw hfs hrest (ih _ hlen rest rfl)

end

/-- **Substitution commutes with evaluation.**  If the references of a text have finite values other than
the zero below zero and stand apart from points, then the text after substitution is worth the value
that is derived for the text with references as operands, and `0` if there is none. -/
theorem substitute_commutes_with_evaluation (source : Source) (cs : List Char)
    (hexp : Expressible source cs) (hapart : ApartFromPoints cs) :
    (∀ v, Derives (operand source) .expression maxNesting cs v →
      Arith.evaluate (substitute source cs) = v) ∧
    ((¬ ∃ v, Derives (operand source) .expression maxNesting cs v) →
      Arith.evaluate (substitute source cs) = 0) := by
  refine ⟨fun v h => (derives_substitute h hexp).evaluate, fun h => ?_⟩
  have hor := derives_or_evaluate_of_pieces (operand source) cs (substitute source cs) fun ts hall ht =>
    cuttable cs ts hexp hapart hall ht
  exact hor.resolve_left fun hd => h ⟨_, hd⟩

theorem substitute_commutes_negative_two : resolve (single "-2") ['A'] ['1'] = -2 ∧
    Expressible (single "-2") ['A', '1', '*', '*', 'A', '1'] ∧
    ApartFromPoints ['A', '1', '*', '*', 'A', '1'] ∧
    Arith.evaluate (substitute (single "-2") ['A', '1', '*', '*', 'A', '1']) = Float.pow (-2) (-2) := by
  have hx : resolve (single "-2") ['A'] ['1'] = -2 := toBits_inj _ _ (by decide +kernel)
  have hf : (-2 : Float).isFinite = true := by decide +kernel
  have hm : magnitude (-2) ≠ 0 := by decide +kernel
  have hz : (-2 : Float) ≠ -0 := fun h => hm ((eq_neg_zero_iff (-2)).mp h).2
  have hrefs : references ['A', '1', '*', '*', 'A', '1'] = [(['A'], ['1']), (['A'], ['1'])] := by
    decide +kernel
  have hexp : Expressible (single "-2") ['A', '1', '*', '*', 'A', '1'] := by
    unfold Expressible
    rw [hrefs]
    intro r hr
    have e : r = (['A'], ['1']) := by simpa using hr
    rw [e, hx]
    exact ⟨hf, hz⟩
  have hapart : ApartFromPoints ['A', '1', '*', '*', 'A', '1'] := by
    unfold ApartFromPoints
    decide +kernel
  have href : ∀ n, Derives (operand (single "-2")) .factor (n + 2) ['A', '1'] (-2) := fun n =>
    .operand (Or.inr ⟨['A'], ['1'], rfl, hx, fun _ => Nat.le_add_left 2 n⟩)
  refine ⟨hx, hexp, hapart,
    (substitute_commutes_with_evaluation (single "-2") _ hexp hapart).1 _ ?_⟩
  exact .term (.unary (.power (.raise (href 253) (.power (.factor (href 252))))))

end FormulaGrid.Formula
