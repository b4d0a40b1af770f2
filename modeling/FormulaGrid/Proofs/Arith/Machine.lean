import Mathlib.Data.List.Chain
import Mathlib.Logic.Function.Iterate
import FormulaGrid.Arith.Value

/-!
# The readers of arithmetic as a machine

The readers take tokens from the front of a list and count levels down. Here the same is done by a machine that keeps a
place among the tokens and a depth of nesting, and that goes from call to call in single steps. So it can be said what
holds at every point of a reading, and not only of its result.

* `Category`         the six readers of the grammar, and `Category.rank`, their order;
* `Frame`            a call that waits for the result of another;
* `Machine`, `step`  the open calls, the place, the depth, and what is done next;
* `Frame.Awaits`     a call is made behind a token more, or for a tighter category;
* `InOrder`          this is so of all open calls and rounds, and the depth counts the `unary` ones;
* `InOrder.iterate`  it stays so.

The list of tokens has its end behind the last one, and a place there or beyond holds no token.
-/

namespace FormulaGrid.Arith

/-! ## calls -/

/-- the categories of the grammar, from the loosest to the tightest -/
inductive Category where
  | additive
  | multiplicative
  | unary
  | signed
  | powered
  | factor
  deriving DecidableEq, Repr

/-- the place in the order, the tightest category first -/
def Category.rank : Category → Nat
  | .additive => 5
  | .multiplicative => 4
  | .unary => 3
  | .signed => 2
  | .powered => 1
  | .factor => 0

/-- the categories that are read by a loop -/
inductive Chain where
  | additive
  | multiplicative
  deriving DecidableEq, Repr

def Chain.category : Chain → Category
  | .additive => .additive
  | .multiplicative => .multiplicative

/-- the category of the parts between the operators -/
def Chain.part : Chain → Category
  | .additive => .multiplicative
  | .multiplicative => .unary

def Chain.op : Chain → Token → Option (Float → Float → Float)
  | .additive => additiveOp
  | .multiplicative => multiplicativeOp

/-- a call that waits for the result of another one. It knows the place at which it began, which for a chain is that of
its last round, and what becomes of the result -/
inductive Frame where
  | operand (chain : Chain) (start : Nat) (join : Float → Float)
  | unary (start : Nat)
  | signed (start : Nat) (sign : Float → Float)
  | base (start : Nat)
  | exponent (start : Nat) (base : Float)
  | group (start : Nat)

def Frame.start : Frame → Nat
  | .operand _ start _ => start
  | .unary start => start
  | .signed start _ => start
  | .base start => start
  | .exponent start _ => start
  | .group start => start

def Frame.category : Frame → Category
  | .operand chain _ _ => chain.category
  | .unary _ => .unary
  | .signed .. => .signed
  | .base _ => .powered
  | .exponent .. => .powered
  | .group _ => .factor

/-! ## steps -/

inductive Control where
  /-- a category is about to be read -/
  | call (category : Category)
  /-- a chain looks for an operator behind its last round, which began at `start` -/
  | loop (chain : Chain) (start : Nat) (left : Float)
  /-- the innermost open call gets its result, or the news that there is none -/
  | back (result : Option Float)

/-- what is done next, the open calls with the innermost first, the place and the depth -/
structure Machine where
  control : Control
  stack : List Frame
  pos : Nat
  depth : Nat

section
variable (ts : List Token) (stack : List Frame) (pos depth : Nat)

/-- the first step of a call. Only `unary` goes deeper, unless it is at the limit -/
def enter : Category → Machine
  | .additive => ⟨.call .multiplicative, .operand .additive pos id :: stack, pos, depth⟩
  | .multiplicative => ⟨.call .unary, .operand .multiplicative pos id :: stack, pos, depth⟩
  | .unary =>
    if maxNesting ≤ depth then ⟨.back none, stack, pos, depth⟩
    else ⟨.call .signed, .unary pos :: stack, pos, depth + 1⟩
  | .signed =>
    match ts[pos]? with
    | some .minus => ⟨.call .unary, .signed pos (-·) :: stack, pos + 1, depth⟩
    | some .plus => ⟨.call .unary, .signed pos id :: stack, pos + 1, depth⟩
    | _ => ⟨.call .powered, .signed pos id :: stack, pos, depth⟩
  | .powered => ⟨.call .factor, .base pos :: stack, pos, depth⟩
  | .factor =>
    match ts[pos]? with
    | some (.number text) => ⟨.back (Number.readFloat? text), stack, pos + 1, depth⟩
    | some .opening => ⟨.call .additive, .group pos :: stack, pos + 1, depth⟩
    | _ => ⟨.back none, stack, pos + 1, depth⟩

/-- a chain goes on behind an operator of its own, with a round that begins there -/
def goOn (chain : Chain) (left : Float) : Machine :=
  match ts[pos]?.bind chain.op with
  | none => ⟨.back (some left), stack, pos, depth⟩
  | some join => ⟨.call chain.part, .operand chain pos (join left) :: stack, pos + 1, depth⟩

/-- a call gets the result that it waited for. Whatever that is, `unary` comes back from its depth; the others pass on
that there is none -/
def resume : Frame → Option Float → Machine
  | .unary _, result => ⟨.back result, stack, pos, depth - 1⟩
  | .operand chain start join, some v => ⟨.loop chain start (join v), stack, pos, depth⟩
  | .signed _ sign, some v => ⟨.back (some (sign v)), stack, pos, depth⟩
  | .base start, some v =>
    match ts[pos]? with
    | some .power => ⟨.call .unary, .exponent start v :: stack, pos + 1, depth⟩
    | _ => ⟨.back (some v), stack, pos, depth⟩
  | .exponent _ base, some v => ⟨.back (some (base.pow v)), stack, pos, depth⟩
  | .group _, some v =>
    match ts[pos]? with
    | some .closing => ⟨.back (some v), stack, pos + 1, depth⟩
    | _ => ⟨.back none, stack, pos + 1, depth⟩
  | _, none => ⟨.back none, stack, pos, depth⟩

end

/-- one step; the machine has come to its end with a result and no open call -/
def step (ts : List Token) : Machine → Machine
  | ⟨.call category, stack, pos, depth⟩ => enter ts stack pos depth category
  | ⟨.loop chain _ left, stack, pos, depth⟩ => goOn ts stack pos depth chain left
  | ⟨.back result, frame :: stack, pos, depth⟩ => resume ts stack pos depth frame result
  | ⟨.back result, [], pos, depth⟩ => ⟨.back result, [], pos, depth⟩

/-! ## order -/

/-- a call may be made: a token has been taken since the frame began, or the category is tighter than that of the frame -/
def Frame.Awaits (frame : Frame) (category : Category) (pos : Nat) : Prop :=
  frame.start < pos ∨ frame.start = pos ∧ category.rank < frame.category.rank

def Frame.isUnary : Frame → Bool
  | .unary _ => true
  | _ => false

/-- the open calls have made each other in this way, and the depth has grown with each `unary` among them -/
structure Nested (floor : Nat) (stack : List Frame) (depth : Nat) : Prop where
  depth_eq : depth = floor + stack.countP Frame.isUnary
  depth_le : depth ≤ maxNesting
  isChain : stack.IsChain fun inner outer => outer.Awaits inner.category inner.start

/-- calls and rounds behind each other in the right way, in a reading that began at the depth `floor` -/
inductive InOrder (ts : List Token) (floor : Nat) : Machine → Prop where
  | call {category stack pos depth} : Nested floor stack depth → pos ≤ ts.length →
      (∀ frame ∈ stack.head?, frame.Awaits category pos) → InOrder ts floor ⟨.call category, stack, pos, depth⟩
  /-- a token has been taken since the last round began -/
  | loop {chain start left stack pos depth} : Nested floor stack depth → start < pos → pos ≤ ts.length →
      (∀ frame ∈ stack.head?, frame.Awaits chain.category start) →
      InOrder ts floor ⟨.loop chain start left, stack, pos, depth⟩
  | back {v stack pos depth} : Nested floor stack depth → pos ≤ ts.length → (∀ frame ∈ stack.head?, frame.start < pos) →
      InOrder ts floor ⟨.back (some v), stack, pos, depth⟩
  | failed {stack pos depth} : Nested floor stack depth → InOrder ts floor ⟨.back none, stack, pos, depth⟩

section
variable {ts : List Token} {floor : Nat} {stack : List Frame} {pos depth : Nat}

theorem Nested.push {frame : Frame} (h : Nested floor stack depth) (hframe : frame.isUnary = false)
    (hawaits : ∀ outer ∈ stack.head?, outer.Awaits frame.category frame.start) : Nested floor (frame :: stack) depth where
  depth_eq := by rw [List.countP_cons_of_neg (by rw [hframe]; exact Bool.false_ne_true), h.depth_eq]
  depth_le := h.depth_le
  isChain := List.isChain_cons.mpr ⟨hawaits, h.isChain⟩

theorem Nested.push_unary (h : Nested floor stack depth) (hlt : depth < maxNesting)
    (hawaits : ∀ outer ∈ stack.head?, outer.Awaits .unary pos) : Nested floor (.unary pos :: stack) (depth + 1) where
  depth_eq := by rw [List.countP_cons_of_pos rfl, h.depth_eq, Nat.add_assoc]
  depth_le := hlt
  isChain := List.isChain_cons.mpr ⟨hawaits, h.isChain⟩

theorem Nested.pop {frame : Frame} (h : Nested floor (frame :: stack) depth) (hframe : frame.isUnary = false) :
    Nested floor stack depth where
  depth_eq := by
    rw [h.depth_eq, List.countP_cons_of_neg (by rw [hframe]; exact Bool.false_ne_true)]
  depth_le := h.depth_le
  isChain := (List.isChain_cons.mp h.isChain).2

theorem Nested.pop_unary {start : Nat} (h : Nested floor (.unary start :: stack) depth) :
    Nested floor stack (depth - 1) where
  depth_eq := by
    have hdepth := h.depth_eq
    rw [List.countP_cons_of_pos rfl] at hdepth
    omega
  depth_le := Nat.le_trans (Nat.sub_le _ _) h.depth_le
  isChain := (List.isChain_cons.mp h.isChain).2

/-- a call has begun no later than the one that it has made -/
theorem Nested.start_le {frame : Frame} (h : Nested floor (frame :: stack) depth) :
    ∀ outer ∈ stack.head?, outer.start ≤ frame.start := fun outer houter =>
  ((List.isChain_cons.mp h.isChain).1 outer houter).elim Nat.le_of_lt fun h => Nat.le_of_eq h.1

/-! ## steps keep the order -/

theorem lt_of_getElem? {t : Token} (h : ts[pos]? = some t) : pos < ts.length := (List.getElem?_eq_some_iff.mp h).1

/-- a tighter category at the place where the call began -/
theorem awaits_tighter {frame : Frame} {category : Category} (h : category.rank < frame.category.rank) :
    ∀ top ∈ (frame :: stack).head?, top.Awaits category frame.start := by
  rintro _ ⟨⟩
  exact .inr ⟨rfl, h⟩

/-- any category behind a token more -/
theorem awaits_behind {frame : Frame} {category : Category} (h : frame.start < pos) :
    ∀ top ∈ (frame :: stack).head?, top.Awaits category pos := by
  rintro _ ⟨⟩
  exact .inl h

theorem inOrder_enter {category : Category} (hnested : Nested floor stack depth) (hpos : pos ≤ ts.length)
    (hawaits : ∀ frame ∈ stack.head?, frame.Awaits category pos) :
    InOrder ts floor (enter ts stack pos depth category) := by
  have hle : ∀ frame ∈ stack.head?, frame.start < pos + 1 := fun frame hframe =>
    (hawaits frame hframe).elim Nat.lt_succ_of_lt fun h => Nat.lt_succ_of_le (Nat.le_of_eq h.1)
  cases category with
  | additive =>
    exact .call (hnested.push rfl hawaits) hpos (awaits_tighter (Nat.lt_succ_self _))
  | multiplicative =>
    exact .call (hnested.push rfl hawaits) hpos (awaits_tighter (Nat.lt_succ_self _))
  | unary =>
    rw [enter]
    split
    · exact .failed hnested
    · next hlt =>
      exact .call (hnested.push_unary (Nat.lt_of_not_le hlt) hawaits) hpos (awaits_tighter (Nat.lt_succ_self _))
  | signed =>
    rw [enter]
    split
    · next htoken =>
      exact .call (hnested.push rfl hawaits) (lt_of_getElem? htoken) (awaits_behind (Nat.lt_succ_self pos))
    · next htoken =>
      exact .call (hnested.push rfl hawaits) (lt_of_getElem? htoken) (awaits_behind (Nat.lt_succ_self pos))
    · exact .call (hnested.push rfl hawaits) hpos (awaits_tighter (Nat.lt_succ_self _))
  | powered =>
    exact .call (hnested.push rfl hawaits) hpos (awaits_tighter (Nat.lt_succ_self _))
  | factor =>
    rw [enter]
    split
    · next text htoken =>
      cases Number.readFloat? text with
      | none => exact .failed hnested
      | some v => exact .back hnested (lt_of_getElem? htoken) hle
    · next htoken =>
      exact .call (hnested.push rfl hawaits) (lt_of_getElem? htoken) (awaits_behind (Nat.lt_succ_self pos))
    · exact .failed hnested

theorem inOrder_goOn {chain : Chain} {start : Nat} {left : Float} (hnested : Nested floor stack depth) (hround : start < pos)
    (hpos : pos ≤ ts.length) (hawaits : ∀ frame ∈ stack.head?, frame.Awaits chain.category start) :
    InOrder ts floor (goOn ts stack pos depth chain left) := by
  have hlt : ∀ frame ∈ stack.head?, frame.start < pos := fun frame hframe =>
    (hawaits frame hframe).elim (fun h => Nat.lt_trans h hround) fun h => Nat.lt_of_le_of_lt (Nat.le_of_eq h.1) hround
  rw [goOn]
  split
  · exact .back hnested hpos hlt
  · next join hjoin =>
    obtain ⟨t, htoken, _⟩ := Option.bind_eq_some_iff.mp hjoin
    exact .call (hnested.push rfl fun frame hframe => .inl (hlt frame hframe)) (lt_of_getElem? htoken)
      (awaits_behind (Nat.lt_succ_self pos))

theorem inOrder_resume_none {frame : Frame} (hnested : Nested floor (frame :: stack) depth) :
    InOrder ts floor (resume ts stack pos depth frame none) := by
  cases frame with
  | unary start => exact .failed hnested.pop_unary
  | _ => exact .failed (hnested.pop rfl)

theorem inOrder_resume_some {frame : Frame} {v : Float} (hnested : Nested floor (frame :: stack) depth)
    (hpos : pos ≤ ts.length) (hframe : frame.start < pos) : InOrder ts floor (resume ts stack pos depth frame (some v)) := by
  have hawaits := (List.isChain_cons.mp hnested.isChain).1
  have hlt : ∀ outer ∈ stack.head?, outer.start < pos := fun outer houter =>
    Nat.lt_of_le_of_lt (hnested.start_le outer houter) hframe
  cases frame with
  | operand chain start join => exact .loop (hnested.pop rfl) hframe hpos hawaits
  | unary start => exact .back hnested.pop_unary hpos hlt
  | signed start sign => exact .back (hnested.pop rfl) hpos hlt
  | base start =>
    rw [resume]
    split
    · next htoken =>
      exact .call ((hnested.pop rfl).push rfl hawaits) (lt_of_getElem? htoken) (awaits_behind (Nat.lt_succ_of_lt hframe))
    · exact .back (hnested.pop rfl) hpos hlt
  | exponent start base => exact .back (hnested.pop rfl) hpos hlt
  | group start =>
    rw [resume]
    split
    · next htoken =>
      exact .back (hnested.pop rfl) (lt_of_getElem? htoken) fun outer houter => Nat.lt_succ_of_lt (hlt outer houter)
    · exact .failed (hnested.pop rfl)

/-- **A step keeps the order.** -/
theorem InOrder.step {m : Machine} (h : InOrder ts floor m) : InOrder ts floor (step ts m) := by
  cases h with
  | call hnested hpos hawaits => exact inOrder_enter hnested hpos hawaits
  | loop hnested hround hpos hawaits => exact inOrder_goOn hnested hround hpos hawaits
  | @back v stack pos depth hnested hpos hlt =>
    cases stack with
    | nil => exact .back hnested hpos hlt
    | cons frame stack => exact inOrder_resume_some hnested hpos (hlt frame rfl)
  | @failed stack pos depth hnested =>
    cases stack with
    | nil => exact .failed hnested
    | cons frame stack => exact inOrder_resume_none hnested

/-- **So do all steps of a run.** -/
theorem InOrder.iterate {m : Machine} (h : InOrder ts floor m) (n : Nat) : InOrder ts floor ((Arith.step ts)^[n] m) := by
  induction n with
  | zero => exact h
  | succ n ih =>
    rw [Function.iterate_succ_apply']
    exact ih.step

theorem InOrder.nested {m : Machine} (h : InOrder ts floor m) : Nested floor m.stack m.depth := by
  cases h <;> assumption

end

end FormulaGrid.Arith
