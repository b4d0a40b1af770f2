import FormulaGrid.Proofs.Arith.Grammar
import FormulaGrid.Proofs.Arith.Readers

/-!
# What is read is derived

* `Piece`           a stretch of a text and its tokens: a symbol, or an operand;
* `Piece.Good`      the tokens of an operand are read as one factor, and as nothing else;
* `Finds`           what a reader takes is made of whole pieces, and their text is derived;
* `finds_unary`, `finds_expression`   the readers of the grammar find what is derived.

The text of an operand need not be the spelling of its tokens.  So this holds of plain arithmetic,
where a number is its own token, and also of a text in which operands are written differently from
what is read in their place.
-/

namespace FormulaGrid.Arith

/-! ## pieces -/

/-- a stretch of a text and the tokens that are read for it -/
inductive Piece where
  | symbol (t : Token)
  | operand (text : List Char) (tokens : List Token)

def Piece.text : Piece → List Char
  | .symbol t => t.spelling
  | .operand text _ => text

def Piece.tokens : Piece → List Token
  | .symbol t => [t]
  | .operand _ tokens => tokens

def textOf (ps : List Piece) : List Char := ps.flatMap Piece.text

def tokensOf (ps : List Piece) : List Token := ps.flatMap Piece.tokens

theorem textOf_nil : textOf [] = [] := rfl
theorem textOf_cons (a : Piece) (ps : List Piece) : textOf (a :: ps) = a.text ++ textOf ps := rfl
theorem textOf_append (ps qs : List Piece) : textOf (ps ++ qs) = textOf ps ++ textOf qs := by
  simp [textOf, List.flatMap_append]
theorem tokensOf_cons (a : Piece) (ps : List Piece) : tokensOf (a :: ps) = a.tokens ++ tokensOf ps :=
  rfl

/-- a symbol is no number; where a factor is read, an operand is read as a whole, with a value that
it may have there -/
def Piece.Good (operand : Operand) : Piece → Prop
  | .symbol t => ∀ text, t ≠ .number text
  | .operand text tokens => BeginsFactor tokens ∧ ∀ n rest v rest',
      (factor (unary n)).read (tokens ++ rest) = some (v, rest') → rest' = rest ∧ operand n text v

section
variable {operand : Operand}

theorem symbol_of_tokensOf (ps : List Piece) (t : Token) (us : List Token)
    (hg : ∀ a ∈ ps, a.Good operand) (h : tokensOf ps = t :: us) (ht : t.beginsFactor = false) :
    ∃ qs, ps = .symbol t :: qs ∧ us = tokensOf qs := by
  cases ps with
  | nil => cases h
  | cons a qs =>
    rw [tokensOf_cons] at h
    cases a with
    | symbol s =>
      obtain ⟨rfl, rfl⟩ := List.cons.inj h
      exact ⟨qs, rfl, rfl⟩
    | operand text tokens =>
      obtain ⟨⟨t', us', rfl, ht'⟩, _⟩ := hg _ List.mem_cons_self
      obtain ⟨rfl, _⟩ := List.cons.inj h
      rw [ht] at ht'
      cases ht'

theorem Piece.good_number (text : List Char)
    (h : ∀ n v, Number.readFloat? text = some v → operand n text v) :
    (Piece.operand text [.number text]).Good operand := by
  refine ⟨⟨_, _, rfl, rfl⟩, fun n rest v rest' hr => ?_⟩
  rcases factor_read_inv _ _ _ _ hr with ⟨text', e, hv⟩ | ⟨us, e, _⟩
  · obtain ⟨e1, rfl⟩ := List.cons.inj e
    obtain rfl := Token.number.inj e1
    exact ⟨rfl, h n v hv⟩
  · cases (List.cons.inj e).1

/-! ## readers -/

/-- what the reader takes of the tokens of good pieces are the tokens of some pieces at the front, and
their text is derived, with the value that is read -/
def Finds (operand : Operand) (p : Part) (n : Nat) (r : PartReader) : Prop :=
  ∀ ps v rest, (∀ a ∈ ps, a.Good operand) → r.read (tokensOf ps) = some (v, rest) →
    ∃ front back, ps = front ++ back ∧ rest = tokensOf back ∧ Derives operand p n (textOf front) v

variable {n : Nat} {p q : Part} {part : PartReader}
  {op : Token → Option (Float → Float → Float)}

/-- a loop over good pieces, behind a text that is derived: by induction on the pieces, which each
round makes fewer -/
theorem Finds.joinOnto (hpart : Finds operand p n part)
    (hfirst : ∀ t f, op t = some f → t.beginsFactor = false)
    (hjoin : ∀ t f s w a b, op t = some f → Derives operand q n s a → Derives operand p n w b →
      Derives operand q n (s ++ t.spelling ++ w) (f a b))
    (ps : List Piece) (s : List Char) (acc v : Float) (rest : List Token)
    (hg : ∀ a ∈ ps, a.Good operand) (hs : Derives operand q n s acc)
    (h : joinOnto part op acc (tokensOf ps) = some (v, rest)) :
    ∃ front back, ps = front ++ back ∧ rest = tokensOf back ∧
      Derives operand q n (s ++ textOf front) v := by
  generalize hk : ps.length = k
  induction k using Nat.strongRecOn generalizing ps s acc with
  | ind k ih =>
    rcases joinOnto_inv _ _ _ _ _ _ h with ⟨rfl, rfl⟩ | ⟨t, us, f, w, mid, ht, hf, hr, h⟩
    · exact ⟨[], ps, rfl, rfl, by rwa [textOf_nil, List.append_nil]⟩
    · obtain ⟨qs, rfl, rfl⟩ := symbol_of_tokensOf ps t us hg ht (hfirst t f hf)
      have hgq : ∀ a ∈ qs, a.Good operand := fun a ha => hg a (List.mem_cons_of_mem _ ha)
      obtain ⟨front, back, rfl, rfl, hw⟩ := hpart qs w mid hgq hr
      have hlt : back.length < k := by
        rw [← hk, List.length_cons, List.length_append]
        omega
      have hgb : ∀ a ∈ back, a.Good operand := fun a ha => hgq a (List.mem_append_right _ ha)
      obtain ⟨front', back', rfl, rfl, hv⟩ :=
        ih back.length hlt back _ _ hgb (hjoin t f s _ acc w hf hs hw) h rfl
      refine ⟨.symbol t :: (front ++ front'), back', by simp, rfl, ?_⟩
      rw [textOf_cons, textOf_append]
      simpa [Piece.text] using hv

theorem Finds.chain (hpart : Finds operand p n part)
    (hfirst : ∀ t f, op t = some f → t.beginsFactor = false)
    (hone : ∀ s a, Derives operand p n s a → Derives operand q n s a)
    (hjoin : ∀ t f s w a b, op t = some f → Derives operand q n s a → Derives operand p n w b →
      Derives operand q n (s ++ t.spelling ++ w) (f a b)) :
    Finds operand q n (chain part op) := by
  intro ps v rest hg h
  obtain ⟨w, mid, hr, hj⟩ := chain_read_inv _ _ _ _ _ h
  obtain ⟨front, back, rfl, rfl, hw⟩ := hpart ps w mid hg hr
  have hgb : ∀ a ∈ back, a.Good operand := fun a ha => hg a (List.mem_append_right _ ha)
  obtain ⟨front', back', rfl, rfl, hv⟩ :=
    hpart.joinOnto hfirst hjoin back _ w v rest hgb (hone _ _ hw) hj
  exact ⟨front ++ front', back', by simp, rfl, by rwa [textOf_append]⟩

theorem Finds.multiplicative (hu : Finds operand .unary n (unary n)) :
    Finds operand .term n (multiplicative (Arith.unary n)) := by
  refine hu.chain beginsFactor_of_multiplicativeOp (fun _ _ => .unary) ?_
  intro t f s w a b hf hs hw
  cases t with
  | star =>
    cases hf
    simpa [Token.spelling] using hs.multiply hw
  | slash =>
    cases hf
    simpa [Token.spelling] using hs.divide hw
  | _ => cases hf

theorem Finds.additive (hu : Finds operand .unary n (Arith.unary n)) :
    Finds operand .expression n (additive (Arith.unary n)) := by
  refine hu.multiplicative.chain beginsFactor_of_additiveOp (fun _ _ => .term) ?_
  intro t f s w a b hf hs hw
  cases t with
  | plus =>
    cases hf
    simpa [Token.spelling] using hs.add hw
  | minus =>
    cases hf
    simpa [Token.spelling] using hs.subtract hw
  | _ => cases hf

theorem Finds.factor (hu : Finds operand .unary n (Arith.unary n)) :
    Finds operand .factor n (factor (Arith.unary n)) := by
  intro ps v rest hg h
  cases ps with
  | nil => cases h
  | cons a qs =>
    have hgq : ∀ b ∈ qs, b.Good operand := fun b hb => hg b (List.mem_cons_of_mem _ hb)
    cases a with
    | operand text tokens =>
      obtain ⟨_, hfactor⟩ := hg _ List.mem_cons_self
      obtain ⟨rfl, hv⟩ := hfactor n _ v rest h
      exact ⟨[.operand text tokens], qs, rfl, rfl, by simpa [textOf, Piece.text] using .operand hv⟩
    | symbol t =>
      rcases factor_read_inv _ _ _ _ h with ⟨text, e, _⟩ | ⟨us, e, hr⟩
      · exact absurd (List.cons.inj e).1 (hg _ List.mem_cons_self text)
      · obtain ⟨rfl, rfl⟩ := List.cons.inj e
        obtain ⟨front, back, rfl, hb, hv⟩ := hu.additive qs v _ hgq hr
        have hgb : ∀ b ∈ back, b.Good operand := fun b hb => hgq b (List.mem_append_right _ hb)
        obtain ⟨back', rfl, rfl⟩ := symbol_of_tokensOf back _ _ hgb hb.symm rfl
        refine ⟨.symbol .opening :: (front ++ [.symbol .closing]), back', by simp, rfl, ?_⟩
        rw [textOf_cons, textOf_append]
        exact .group hv

theorem Finds.powered (hu : Finds operand .unary n (Arith.unary n)) :
    Finds operand .power n (powered (Arith.unary n)) := by
  intro ps v rest hg h
  rcases powered_read_inv _ _ _ _ h with hf | ⟨base, e, mid, hf, he, rfl⟩
  · obtain ⟨front, back, hps, hrest, hv⟩ := hu.factor ps v rest hg hf
    exact ⟨front, back, hps, hrest, .factor hv⟩
  · obtain ⟨front, back, rfl, hb, hv⟩ := hu.factor ps base _ hg hf
    have hgb : ∀ b ∈ back, b.Good operand := fun b hb => hg b (List.mem_append_right _ hb)
    obtain ⟨back, rfl, rfl⟩ := symbol_of_tokensOf back _ _ hgb hb.symm rfl
    obtain ⟨front', back', rfl, rfl, hw⟩ :=
      hu back e rest (fun b hb => hgb b (List.mem_cons_of_mem _ hb)) he
    refine ⟨front ++ .symbol .power :: front', back', by simp, rfl, ?_⟩
    rw [textOf_append, textOf_cons]
    exact .raise hv hw

theorem Finds.signed (hu : Finds operand .unary n (Arith.unary n)) :
    Finds operand .unary (n + 1) (signed (Arith.unary n)) := by
  intro ps v rest hg h
  rcases signed_read_inv _ _ _ _ h with ⟨us, w, hps, hr, rfl⟩ | ⟨us, hps, hr⟩ | hr
  · obtain ⟨qs, rfl, rfl⟩ := symbol_of_tokensOf ps _ us hg hps rfl
    obtain ⟨front, back, rfl, rfl, hw⟩ :=
      hu qs w rest (fun b hb => hg b (List.mem_cons_of_mem _ hb)) hr
    exact ⟨.symbol .minus :: front, back, rfl, rfl, .minus hw⟩
  · obtain ⟨qs, rfl, rfl⟩ := symbol_of_tokensOf ps _ us hg hps rfl
    obtain ⟨front, back, rfl, rfl, hw⟩ :=
      hu qs v rest (fun b hb => hg b (List.mem_cons_of_mem _ hb)) hr
    exact ⟨.symbol .plus :: front, back, rfl, rfl, .plus hw⟩
  · obtain ⟨front, back, hps, hrest, hw⟩ := hu.powered ps v rest hg hr
    exact ⟨front, back, hps, hrest, .power hw⟩

end

/-! ## all levels -/

/-- the readers of unary parts find what is derived, by induction on the levels they admit -/
theorem finds_unary (operand : Operand) (n : Nat) : Finds operand .unary n (unary n) := by
  induction n with
  | zero =>
    intro ps v rest _ h
    cases h
  | succ n ih =>
    rw [unary_succ]
    exact ih.signed

theorem finds_expression (operand : Operand) (n : Nat) :
    Finds operand .expression n (additive (unary n)) := (finds_unary operand n).additive

/-- **A reading of all tokens of good pieces is a derivation of their text.** -/
theorem derives_of_all? (operand : Operand) (n : Nat) (ps : List Piece) (v : Float)
    (hg : ∀ a ∈ ps, a.Good operand) (h : (additive (unary n)).all? (tokensOf ps) = some v) :
    Derives operand .expression n (textOf ps) v := by
  unfold Reader.all? at h
  split at h
  · next w hr =>
    obtain rfl := Option.some.inj h
    obtain ⟨front, back, rfl, hb, hv⟩ := finds_expression operand n ps w [] hg hr
    have hback : back = [] := by
      cases back with
      | nil => rfl
      | cons a qs =>
        have hga := hg a (List.mem_append_right _ List.mem_cons_self)
        cases a with
        | symbol t => cases hb
        | operand text tokens =>
          obtain ⟨⟨t, us, rfl, _⟩, _⟩ := hga
          cases hb
    rwa [hback, List.append_nil]
  · cases h

end FormulaGrid.Arith
