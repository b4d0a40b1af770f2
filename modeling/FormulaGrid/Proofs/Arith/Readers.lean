import FormulaGrid.Arith.Value

/-!
# The readers of arithmetic, step by step

For each reader two statements: what it does on tokens that are known to be right (`chain_read`,
`factor_read_group`, ..), and what must have been there if it gave a value (`chain_read_inv`,
`factor_read_inv`, ..).  Proofs about whole texts need no more of the readers than these.

* `BeginsFactor`   the tokens begin with a number or an opening parenthesis.
-/

namespace FormulaGrid.Arith

/-! ## loops -/

theorem joinOnto_stop (part : PartReader) (op : Token → Option (Float → Float → Float)) (acc : Float)
    (ts : List Token) (h : ∀ t ∈ ts.head?, op t = none) : joinOnto part op acc ts = some (acc, ts) := by
  cases ts with
  | nil => rw [joinOnto]
  | cons t ts =>
    rw [joinOnto]
    split
    · rfl
    · next f hf => exact absurd (h t rfl) (by simp [hf])

theorem joinOnto_next (part : PartReader) (op : Token → Option (Float → Float → Float)) (acc : Float)
    (t : Token) (ts : List Token) (f : Float → Float → Float) (v : Float) (rest : List Token)
    (hf : op t = some f) (hr : part.read ts = some (v, rest)) :
    joinOnto part op acc (t :: ts) = joinOnto part op (f acc v) rest := by
  rw [joinOnto]
  simp only [hf]
  split
  · next h =>
    rw [hr] at h
    cases h
  · next w rest' h =>
    rw [hr] at h
    obtain ⟨rfl, rfl⟩ := Prod.mk.inj (Option.some.inj h)
    rfl

/-- a loop has stopped, or it has gone on behind an operator and a part -/
theorem joinOnto_inv (part : PartReader) (op : Token → Option (Float → Float → Float)) (acc : Float)
    (ts : List Token) (v : Float) (rest : List Token)
    (h : joinOnto part op acc ts = some (v, rest)) :
    (v = acc ∧ rest = ts) ∨
      ∃ t us f w mid, ts = t :: us ∧ op t = some f ∧ part.read us = some (w, mid) ∧
        joinOnto part op (f acc w) mid = some (v, rest) := by
  unfold joinOnto at h
  split at h
  · obtain ⟨rfl, rfl⟩ := Prod.mk.inj (Option.some.inj h)
    exact Or.inl ⟨rfl, rfl⟩
  · next t us =>
    split at h
    · obtain ⟨rfl, rfl⟩ := Prod.mk.inj (Option.some.inj h)
      exact Or.inl ⟨rfl, rfl⟩
    · next f hf =>
      split at h
      · cases h
      · next w mid hr => exact Or.inr ⟨t, us, f, w, mid, rfl, hf, hr, h⟩

theorem chain_read (part : PartReader) (op : Token → Option (Float → Float → Float))
    (ts : List Token) (v : Float) (rest : List Token) (h : part.read ts = some (v, rest)) :
    (chain part op).read ts = joinOnto part op v rest := by
  simp only [chain, h]

theorem chain_read_inv (part : PartReader) (op : Token → Option (Float → Float → Float))
    (ts : List Token) (v : Float) (rest : List Token) (h : (chain part op).read ts = some (v, rest)) :
    ∃ w mid, part.read ts = some (w, mid) ∧ joinOnto part op w mid = some (v, rest) := by
  simp only [chain] at h
  split at h
  · cases h
  · next w mid hr => exact ⟨w, mid, hr, h⟩

/-! ## factors, powers and signs -/

def Token.beginsFactor : Token → Bool
  | .number _ => true
  | .opening => true
  | _ => false

theorem beginsFactor_of_additiveOp (t : Token) (f : Float → Float → Float)
    (h : additiveOp t = some f) : t.beginsFactor = false := by
  cases t with
  | number _ => cases h
  | opening => cases h
  | _ => rfl

theorem beginsFactor_of_multiplicativeOp (t : Token) (f : Float → Float → Float)
    (h : multiplicativeOp t = some f) : t.beginsFactor = false := by
  cases t with
  | number _ => cases h
  | opening => cases h
  | _ => rfl

def BeginsFactor (ts : List Token) : Prop := ∃ t us, ts = t :: us ∧ t.beginsFactor

section
variable (u : PartReader)

theorem factor_read_group (ts : List Token) (v : Float) (rest : List Token)
    (h : (additive u).read ts = some (v, .closing :: rest)) :
    (factor u).read (.opening :: ts) = some (v, rest) := by
  simp only [factor, h]

theorem factor_read_number (text : List Char) (v : Float) (ts : List Token)
    (h : Number.readFloat? text = some v) : (factor u).read (.number text :: ts) = some (v, ts) := by
  simp only [factor, h, Option.map_some]

theorem factor_read_inv (ts : List Token) (v : Float) (rest : List Token)
    (h : (factor u).read ts = some (v, rest)) :
    (∃ text, ts = .number text :: rest ∧ Number.readFloat? text = some v) ∨
      ∃ us, ts = .opening :: us ∧ (additive u).read us = some (v, .closing :: rest) := by
  simp only [factor] at h
  split at h
  · next text us =>
    obtain ⟨w, hw, e⟩ := Option.map_eq_some_iff.mp h
    obtain ⟨rfl, rfl⟩ := Prod.mk.inj e
    exact Or.inl ⟨text, rfl, hw⟩
  · next us =>
    split at h
    · next w rest' hr =>
      obtain ⟨rfl, rfl⟩ := Prod.mk.inj (Option.some.inj h)
      exact Or.inr ⟨us, rfl, hr⟩
    · cases h
  · cases h

theorem powered_read_factor (ts : List Token) (v : Float) (rest : List Token)
    (h : (factor u).read ts = some (v, rest)) (hr : rest.head? ≠ some .power) :
    (powered u).read ts = some (v, rest) := by
  simp only [powered, h]
  split
  · next base rest' e =>
    obtain ⟨_, rfl⟩ := Prod.mk.inj (Option.some.inj e)
    exact absurd rfl hr
  · rfl

theorem powered_read_power (ts : List Token) (v : Float) (mid : List Token)
    (h : (factor u).read ts = some (v, .power :: mid)) :
    (powered u).read ts = (u.read mid).map fun (w, rest) => (v.pow w, rest) := by
  simp only [powered, h]

theorem powered_read_raise (ts : List Token) (v w : Float) (mid rest : List Token)
    (h : (factor u).read ts = some (v, .power :: mid)) (hu : u.read mid = some (w, rest)) :
    (powered u).read ts = some (v.pow w, rest) := by
  rw [powered_read_power u ts v mid h, hu, Option.map_some]

theorem powered_read_inv (ts : List Token) (v : Float) (rest : List Token)
    (h : (powered u).read ts = some (v, rest)) :
    (factor u).read ts = some (v, rest) ∨
      ∃ base e mid, (factor u).read ts = some (base, .power :: mid) ∧ u.read mid = some (e, rest) ∧
        v = base.pow e := by
  simp only [powered] at h
  split at h
  · next base mid hf =>
    obtain ⟨⟨e, rest'⟩, hu, e'⟩ := Option.map_eq_some_iff.mp h
    obtain ⟨rfl, rfl⟩ := Prod.mk.inj e'
    exact Or.inr ⟨base, e, mid, hf, hu, rfl⟩
  · exact Or.inl h

theorem signed_read_minus (ts : List Token) (v : Float) (rest : List Token)
    (h : u.read ts = some (v, rest)) : (signed u).read (.minus :: ts) = some (-v, rest) := by
  simp only [signed, h]
  rfl

theorem signed_read_powered (ts : List Token) (hminus : ts.head? ≠ some .minus) (hplus : ts.head? ≠ some .plus) :
    (signed u).read ts = (powered u).read ts := by
  simp only [signed]
  split
  · exact absurd rfl hminus
  · exact absurd rfl hplus
  · rfl

theorem signed_read_factor (ts rest : List Token) (h : BeginsFactor ts) :
    (signed u).read (ts ++ rest) = (powered u).read (ts ++ rest) := by
  obtain ⟨t, us, rfl, ht⟩ := h
  have hhead : (t :: us ++ rest).head? = some t := rfl
  apply signed_read_powered
  · rintro hminus
    cases hhead.symm.trans hminus
    cases ht
  · rintro hplus
    cases hhead.symm.trans hplus
    cases ht

theorem signed_read_inv (ts : List Token) (v : Float) (rest : List Token)
    (h : (signed u).read ts = some (v, rest)) :
    (∃ us w, ts = .minus :: us ∧ u.read us = some (w, rest) ∧ v = -w) ∨
      (∃ us, ts = .plus :: us ∧ u.read us = some (v, rest)) ∨
      (powered u).read ts = some (v, rest) := by
  simp only [signed] at h
  split at h
  · next us =>
    obtain ⟨⟨w, rest'⟩, hu, e⟩ := Option.map_eq_some_iff.mp h
    obtain ⟨rfl, rfl⟩ := Prod.mk.inj e
    exact Or.inl ⟨us, w, rfl, hu, rfl⟩
  · next us => exact Or.inr (Or.inl ⟨us, rfl, h⟩)
  · exact Or.inr (Or.inr h)

end

end FormulaGrid.Arith
