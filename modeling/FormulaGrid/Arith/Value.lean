import FormulaGrid.Arith.Token
import FormulaGrid.Number.Decimal
import FormulaGrid.Reading.Reader

/-!
# The value of arithmetic text

The categories of the grammar, from the loosest to the tightest:

* `additive`         `multiplicative` parts joined by `+` and `-`, from the left;
* `multiplicative`   `unary` parts joined by `*` and `/`, from the left;
* `unary`            signs in front of a `powered` part;
* `powered`          a `factor`, or a `factor`, `**` and a `unary` part as its exponent;
* `factor`           a number, or an `additive` part in parentheses.

Each category is a `PartReader`: it takes a part from the front of a list of tokens and gives its
value and the tokens after it, which are fewer.  All nesting passes through `unary`, whose readers are
numbered: that of number `n` admits `n` levels of `unary` parts in each other, itself included.  So
the readers are defined one from the other, without a cycle.

`evaluate` is the value of a text, and `0` for a text that is not arithmetic.
-/

namespace FormulaGrid.Arith

/-! ## chains -/

/-- takes a part of arithmetic text and gives its value -/
abbrev PartReader := Reader Token Float

/-- further parts, each after an operator that `op` knows, joined to `acc` from the left -/
def joinOnto (part : PartReader) (op : Token → Option (Float → Float → Float)) (acc : Float)
    (ts : List Token) : Option (Float × List Token) :=
  match ts with
  | [] => some (acc, [])
  | t :: ts =>
    match op t with
    | none => some (acc, t :: ts)
    | some f =>
      match _h : part.read ts with
      | none => none
      | some (v, rest) => joinOnto part op (f acc v) rest
termination_by ts.length
decreasing_by
  have := part.consumes _ _ _ _h
  simp only [List.length_cons]
  omega

theorem length_of_joinOnto (part : PartReader) (op : Token → Option (Float → Float → Float))
    (acc : Float) (ts : List Token) (v : Float) (rest : List Token)
    (h : joinOnto part op acc ts = some (v, rest)) : rest.length ≤ ts.length := by
  fun_induction joinOnto part op acc ts with
  | case1 acc => simp_all
  | case2 acc t ts _ => simp_all
  | case3 acc t ts f _ _ => cases h
  | case4 acc t ts f _ w mid hr ih =>
    have := part.consumes _ _ _ hr
    have := ih h
    simp only [List.length_cons]
    omega

/-- one or more parts, joined from the left by the operators that `op` knows -/
def chain (part : PartReader) (op : Token → Option (Float → Float → Float)) : PartReader where
  read ts :=
    match part.read ts with
    | none => none
    | some (v, rest) => joinOnto part op v rest
  consumes := by
    intro ts v rest h
    split at h
    · cases h
    · next w mid hr =>
      have := part.consumes _ _ _ hr
      have := length_of_joinOnto part op w mid v rest h
      omega

/-! ## the categories of the grammar -/

/-- the operators between additive parts -/
def additiveOp : Token → Option (Float → Float → Float)
  | .plus => some (· + ·)
  | .minus => some (· - ·)
  | _ => none

/-- the operators between multiplicative parts -/
def multiplicativeOp : Token → Option (Float → Float → Float)
  | .star => some (· * ·)
  | .slash => some (· / ·)
  | _ => none

def multiplicative (unary : PartReader) : PartReader := chain unary multiplicativeOp

def additive (unary : PartReader) : PartReader := chain (multiplicative unary) additiveOp

def factor (unary : PartReader) : PartReader where
  read
    | .number text :: ts => (Number.readFloat? text).map (·, ts)
    | .opening :: ts =>
      match (additive unary).read ts with
      | some (v, .closing :: rest) => some (v, rest)
      | _ => none
    | _ => none
  consumes := by
    intro ts v rest h
    split at h
    · simp only [Option.map_eq_some_iff, Prod.mk.injEq] at h
      obtain ⟨_, _, _, rfl⟩ := h
      exact Nat.lt_succ_self _
    · split at h
      · next w mid hr =>
        have := (additive unary).consumes _ _ _ hr
        simp only [Option.some.injEq, Prod.mk.injEq] at h
        obtain ⟨rfl, rfl⟩ := h
        simp only [List.length_cons] at this ⊢
        omega
      · cases h
    · cases h

def powered (unary : PartReader) : PartReader where
  read ts :=
    match (factor unary).read ts with
    | some (base, .power :: rest) => (unary.read rest).map fun (e, rest) => (base.pow e, rest)
    | result => result
  consumes := by
    intro ts v rest h
    split at h
    · next base mid hr =>
      have := (factor unary).consumes _ _ _ hr
      simp only [Option.map_eq_some_iff, Prod.exists, Prod.mk.injEq] at h
      obtain ⟨e, last, he, _, rfl⟩ := h
      have := unary.consumes _ _ _ he
      simp only [List.length_cons] at *
      omega
    · exact (factor unary).consumes _ _ _ h

def signed (unary : PartReader) : PartReader where
  read
    | .minus :: ts => (unary.read ts).map fun (v, rest) => (-v, rest)
    | .plus :: ts => unary.read ts
    | ts => (powered unary).read ts
  consumes := by
    intro ts v rest h
    split at h
    · simp only [Option.map_eq_some_iff, Prod.exists, Prod.mk.injEq] at h
      obtain ⟨w, last, hr, _, rfl⟩ := h
      exact Nat.lt_succ_of_lt (unary.consumes _ _ _ hr)
    · exact Nat.lt_succ_of_lt (unary.consumes _ _ _ h)
    · exact (powered unary).consumes _ _ _ h

/-- unary parts with at most `levels` of them in each other -/
def unary : (levels : Nat) → PartReader
  | 0 => .fail
  | levels + 1 => signed (unary levels)

theorem unary_succ (levels : Nat) : unary (levels + 1) = signed (unary levels) := rfl

/-! ## whole texts -/

/-- the levels of nesting that are admitted -/
def maxNesting : Nat := 256

/-- a whole expression -/
def expression : PartReader := additive (unary maxNesting)

/-- the value of a list of tokens that is one expression -/
def valueOf? (ts : List Token) : Option Float := expression.all? ts

/-- the value of a text, `0` if it is not arithmetic -/
def evaluate (cs : List Char) : Float :=
  if cs.all isAllowed then ((tokenize cs).bind valueOf?).getD 0 else 0

end FormulaGrid.Arith
