import FormulaGrid.Proofs.Arith.Complete
import FormulaGrid.Proofs.Arith.Sound

/-!
# The meaning of arithmetic text

* `Derives.evaluate`             a derived text is worth the value of its derivation;
* `derives_or_evaluate_eq_zero`  a text that is not derived is worth `0`;
* `Derives.unique`               all derivations of a text have one value, however deep they are;
* `evaluate_decided_by_grammar`  the three together.
-/

namespace FormulaGrid.Arith

/-! ## derived texts -/

theorem Derives.evaluate {cs : List Char} {v : Float}
    (h : Derives numeral .expression maxNesting cs v) : evaluate cs = v := by
  obtain ⟨ts, ht, hv⟩ := h.tokenize
  rw [Arith.evaluate, if_pos h.all_isAllowed, ht]
  show ((additive (Arith.unary maxNesting)).all? ts).getD 0 = v
  rw [hv]
  rfl

/-- the depth of two derivations does not matter: the deeper one bounds both -/
theorem Derives.unique {cs : List Char} {n m : Nat} {v w : Float}
    (hv : Derives numeral .expression n cs v) (hw : Derives numeral .expression m cs w) : v = w := by
  obtain ⟨ts, ht, hv⟩ := (hv.mono numeral_mono (Nat.le_max_left n m)).tokenize
  obtain ⟨us, hu, hw⟩ := (hw.mono numeral_mono (Nat.le_max_right n m)).tokenize
  obtain rfl : ts = us := Option.some.inj (ht.symm.trans hu)
  exact Option.some.inj (hv.symm.trans hw)

/-! ## other texts -/

def Token.piece : Token → Piece
  | .number text => .operand text [.number text]
  | t => .symbol t

theorem Token.text_piece (t : Token) : t.piece.text = t.spelling := by cases t <;> rfl

theorem Token.tokens_piece (t : Token) : t.piece.tokens = [t] := by cases t <;> rfl

theorem Token.good_piece (t : Token) (h : t.WellFormed) : t.piece.Good numeral := by
  cases t with
  | number text => exact Piece.good_number text fun _ _ hv => ⟨h, hv⟩
  | _ => exact fun _ e => by cases e

theorem textOf_pieces (ts : List Token) :
    textOf (ts.map Token.piece) = ts.flatMap Token.spelling := by
  simp [textOf, List.flatMap_map, Token.text_piece]

theorem tokensOf_pieces (ts : List Token) : tokensOf (ts.map Token.piece) = ts := by
  simp [tokensOf, List.flatMap_map, Token.tokens_piece]

/-- a text whose tokens are those of good pieces has a value that is derived for the pieces, or it is
worth nothing -/
theorem derives_or_evaluate_of_pieces (operand : Operand) (cs text : List Char)
    (h : ∀ ts, text.all isAllowed → tokenize text = some ts → ∃ ps, textOf ps = cs ∧
      tokensOf ps = ts ∧ ∀ a ∈ ps, a.Good operand) :
    Derives operand .expression maxNesting cs (evaluate text) ∨ evaluate text = 0 := by
  unfold evaluate
  split
  · next hall =>
    cases hv : (tokenize text).bind valueOf? with
    | none => exact Or.inr rfl
    | some v =>
      left
      obtain ⟨ts, ht, hv⟩ := Option.bind_eq_some_iff.mp hv
      obtain ⟨ps, rfl, rfl, hg⟩ := h ts hall ht
      exact derives_of_all? operand maxNesting ps v hg hv
  · exact Or.inr rfl

theorem derives_or_evaluate_eq_zero (cs : List Char) :
    Derives numeral .expression maxNesting cs (evaluate cs) ∨ evaluate cs = 0 := by
  apply derives_or_evaluate_of_pieces
  intro ts _ ht
  obtain ⟨hs, hw⟩ := spelling_of_tokenize cs ts ht
  refine ⟨ts.map Token.piece, ?_, tokensOf_pieces ts, fun a ha => ?_⟩
  · rw [textOf_pieces, hs]
  · obtain ⟨t, htm, rfl⟩ := List.mem_map.mp ha
    exact t.good_piece (hw t htm)

/-- **The grammar decides what a text is worth.**  A text that is derived with at most `maxNesting`
unary parts in each other has the value of its derivation, any other text is worth `0`, and a text
has one value in all its derivations, however deep. -/
theorem evaluate_decided_by_grammar (cs : List Char) :
    (∀ v, Derives numeral .expression maxNesting cs v → evaluate cs = v) ∧
      ((¬ ∃ v, Derives numeral .expression maxNesting cs v) → evaluate cs = 0) ∧
      ∀ n m v w, Derives numeral .expression n cs v → Derives numeral .expression m cs w → v = w := by
  refine ⟨fun v h => h.evaluate, fun h => ?_, fun n m v w hv hw => hv.unique hw⟩
  exact (derives_or_evaluate_eq_zero cs).resolve_left fun hd => h ⟨_, hd⟩

end FormulaGrid.Arith
