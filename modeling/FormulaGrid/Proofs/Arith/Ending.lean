import FormulaGrid.Proofs.Arith.Machine
import FormulaGrid.Proofs.Arith.Readers

/-!
# The machine comes to an end

* `Category.reader`  the reader of a category, with the levels that are left;
* `Ends`             from a state, the machine comes back to the calls that were open, with a given result;
* `Ends.bind`        a call ends if the one that it makes does, and what it does with the result;
* `EndsAsRead`, `ends_call`   a call ends with what the reader reads;
* `parse`            the steps from a call on;
* `parse_ends_in_order`   every reading ends, and is in order at every step.
-/

namespace FormulaGrid.Arith

/-- the reader of a category, where so many `unary` parts may still lie in each other -/
def Category.reader (levels : Nat) : Category → PartReader
  | .additive => Arith.additive (Arith.unary levels)
  | .multiplicative => Arith.multiplicative (Arith.unary levels)
  | .unary => Arith.unary levels
  | .signed => Arith.signed (Arith.unary levels)
  | .powered => Arith.powered (Arith.unary levels)
  | .factor => Arith.factor (Arith.unary levels)

/-- the machine gets from a state to the calls that are open, with a result and the tokens behind it as expected -/
def Ends (ts : List Token) (m : Machine) (stack : List Frame) (depth : Nat)
    (expected : Option (Float × List Token)) : Prop :=
  ∃ n result pos, (step ts)^[n] m = ⟨.back result, stack, pos, depth⟩ ∧ result.map (·, ts.drop pos) = expected

section
variable {ts : List Token} {m : Machine} {stack : List Frame} {pos depth : Nat} {expected : Option (Float × List Token)}

theorem Ends.of_step (h : Ends ts (step ts m) stack depth expected) : Ends ts m stack depth expected := by
  obtain ⟨n, result, pos, hrun, hresult⟩ := h
  exact ⟨n + 1, result, pos, hrun, hresult⟩

theorem ends_back (v : Float) {rest : List Token} (h : ts.drop pos = rest) :
    Ends ts ⟨.back (some v), stack, pos, depth⟩ stack depth (some (v, rest)) :=
  ⟨0, some v, pos, rfl, by rw [← h, Option.map_some]⟩

theorem ends_none : Ends ts ⟨.back none, stack, pos, depth⟩ stack depth none := ⟨0, none, pos, rfl, rfl⟩

theorem ends_failed (h : ∀ v rest, expected ≠ some (v, rest)) :
    Ends ts ⟨.back none, stack, pos, depth⟩ stack depth expected := by
  obtain rfl : expected = none := Option.eq_none_iff_forall_ne_some.mpr fun read => h read.1 read.2
  exact ends_none

/-- a call that waits ends in one of two ways, after the one that it has made -/
theorem Ends.bind {frame : Frame} {depth' : Nat} {read : Option (Float × List Token)}
    (h : Ends ts m (frame :: stack) depth read)
    (hnone : read = none → ∀ pos, Ends ts (resume ts stack pos depth frame none) stack depth' expected)
    (hsome : ∀ v pos, read = some (v, ts.drop pos) →
      Ends ts (resume ts stack pos depth frame (some v)) stack depth' expected) :
    Ends ts m stack depth' expected := by
  obtain ⟨n, result, pos, hrun, hread⟩ := h
  have hresume : Ends ts (resume ts stack pos depth frame result) stack depth' expected := by
    cases result with
    | none => exact hnone hread.symm pos
    | some v => exact hsome v pos hread.symm
  obtain ⟨k, result', pos', hrun', hresult⟩ := hresume.of_step (m := ⟨.back result, frame :: stack, pos, depth⟩)
  refine ⟨k + n, result', pos', ?_, hresult⟩
  rw [Function.iterate_add_apply, hrun, hrun']

/-- a call that only changes the value ends as the one that it has made -/
theorem Ends.map {frame : Frame} {depth' : Nat} {read : Option (Float × List Token)} (g : Float → Float)
    (h : Ends ts m (frame :: stack) depth read)
    (hframe : ∀ pos result, resume ts stack pos depth frame result = ⟨.back (result.map g), stack, pos, depth'⟩) :
    Ends ts m stack depth' (read.map fun (v, rest) => (g v, rest)) := by
  refine h.bind (fun hnone pos => ?_) fun v pos hsome => ?_
  · rw [hframe, hnone]
    exact ends_none
  · rw [hframe, hsome]
    exact ends_back (g v) rfl

/-- a call that passes on what it gets ends as the one that it has made -/
theorem Ends.pass {frame : Frame} {depth' : Nat} (h : Ends ts m (frame :: stack) depth expected)
    (hframe : ∀ pos result, resume ts stack pos depth frame result = ⟨.back result, stack, pos, depth'⟩) :
    Ends ts m stack depth' expected := by
  have hmap := h.map id fun pos result => by rw [hframe, Option.map_id, id]
  cases expected <;> exact hmap

theorem drop_of_getElem? {t : Token} (h : ts[pos]? = some t) : ts.drop pos = t :: ts.drop (pos + 1) := by
  obtain ⟨hlt, rfl⟩ := List.getElem?_eq_some_iff.mp h
  exact List.drop_eq_getElem_cons hlt

theorem getElem?_of_drop {t : Token} {rest : List Token} (h : ts.drop pos = t :: rest) : ts[pos]? = some t := by
  rw [← List.head?_drop, h, List.head?_cons]

end

/-! ## the categories -/

/-- a call of the category ends with what its reader reads, at the depth at which so many levels are left -/
def EndsAsRead (ts : List Token) (levels : Nat) (category : Category) : Prop :=
  ∀ stack pos depth, depth + levels = maxNesting →
    Ends ts ⟨.call category, stack, pos, depth⟩ stack depth ((category.reader levels).read (ts.drop pos))

section
variable {ts : List Token} {levels : Nat}

/-- a loop ends: by induction on the tokens, of which each round takes some -/
theorem ends_loop (chain : Chain) (hpart : EndsAsRead ts levels chain.part) (stack : List Frame) (depth : Nat)
    (hdepth : depth + levels = maxNesting) (pos start : Nat) (left : Float) :
    Ends ts ⟨.loop chain start left, stack, pos, depth⟩ stack depth
      (joinOnto (chain.part.reader levels) chain.op left (ts.drop pos)) := by
  generalize hrest : ts.drop pos = rest
  have htoken : ts[pos]? = rest.head? := by rw [← hrest, List.head?_drop]
  apply Ends.of_step
  show Ends ts (goOn ts stack pos depth chain left) stack depth _
  fun_induction joinOnto (chain.part.reader levels) chain.op left rest generalizing pos start with
  | case1 left =>
    rw [goOn, htoken, List.head?_nil, Option.bind_none]
    exact ends_back left hrest
  | case2 left t rest hop =>
    rw [goOn, htoken, List.head?_cons, Option.bind_some, hop]
    exact ends_back left hrest
  | case3 left t rest f hop hnone =>
    have hbehind : ts.drop (pos + 1) = rest := by rw [← List.tail_drop, hrest, List.tail_cons]
    have hread := hpart (.operand chain pos (f left) :: stack) (pos + 1) depth hdepth
    rw [hbehind, hnone] at hread
    rw [goOn, htoken, List.head?_cons, Option.bind_some, hop]
    exact hread.bind (fun _ _ => ends_none) fun v _ h => absurd h.symm (Option.some_ne_none _)
  | case4 left t rest f hop v behind hsome ih =>
    have hbehind : ts.drop (pos + 1) = rest := by rw [← List.tail_drop, hrest, List.tail_cons]
    have hread := hpart (.operand chain pos (f left) :: stack) (pos + 1) depth hdepth
    rw [hbehind, hsome] at hread
    rw [goOn, htoken, List.head?_cons, Option.bind_some, hop]
    refine hread.bind (fun h _ => absurd h (Option.some_ne_none _)) fun w next h => ?_
    obtain ⟨rfl, rfl⟩ := Prod.mk.inj (Option.some.inj h)
    exact (ih next pos rfl (List.head?_drop ..).symm).of_step

theorem ends_chain (chain : Chain) (hpart : EndsAsRead ts levels chain.part) :
    EndsAsRead ts levels chain.category := by
  intro stack pos depth hdepth
  have hcall : step ts ⟨.call chain.category, stack, pos, depth⟩ =
      ⟨.call chain.part, .operand chain pos id :: stack, pos, depth⟩ := by cases chain <;> rfl
  have hreader : chain.category.reader levels = Arith.chain (chain.part.reader levels) chain.op := by
    cases chain <;> rfl
  apply Ends.of_step
  rw [hcall, hreader]
  refine (hpart _ pos depth hdepth).bind (fun hnone next => ?_) fun v next hsome => ?_
  · simp only [Arith.chain, hnone]
    exact ends_none
  · rw [chain_read _ _ _ _ _ hsome]
    exact ends_loop chain hpart stack depth hdepth next pos v

theorem ends_factor (hadditive : EndsAsRead ts levels .additive) : EndsAsRead ts levels .factor := by
  intro stack pos depth hdepth
  apply Ends.of_step
  show Ends ts (enter ts stack pos depth .factor) stack depth ((Arith.factor (Arith.unary levels)).read (ts.drop pos))
  rw [enter]
  split
  · next text htoken =>
    rw [drop_of_getElem? htoken]
    simp only [Arith.factor]
    cases Number.readFloat? text with
    | none => exact ends_none
    | some v => exact ends_back v rfl
  · next htoken =>
    rw [drop_of_getElem? htoken]
    -- a group is read only where an additive part and then a closing parenthesis are
    have hgroup : ∀ {v rest}, (Arith.factor (Arith.unary levels)).read (.opening :: ts.drop (pos + 1)) = some (v, rest) →
        (Arith.additive (Arith.unary levels)).read (ts.drop (pos + 1)) = some (v, .closing :: rest) := by
      intro v rest h
      obtain ⟨_, htext, _⟩ | ⟨_, htokens, hpart⟩ := factor_read_inv _ _ _ _ h
      · cases htext
      · cases htokens
        exact hpart
    refine (hadditive (.group pos :: stack) (pos + 1) depth hdepth).bind (fun hnone next => ?_) fun v next hsome => ?_
    · exact ends_failed fun v rest h => Option.some_ne_none _ ((hgroup h).symm.trans hnone)
    · rw [resume]
      split
      · next hclosing =>
        rw [factor_read_group _ _ v (ts.drop (next + 1)) (by rw [← drop_of_getElem? hclosing]; exact hsome)]
        exact ends_back v rfl
      · next hclosing =>
        refine ends_failed fun w rest h => hclosing ?_
        obtain ⟨_, hrest⟩ := Prod.mk.inj (Option.some.inj (hsome.symm.trans (hgroup h)))
        exact getElem?_of_drop hrest
  · next hnumber hopening =>
    refine ends_failed fun v rest h => ?_
    obtain ⟨text, htokens, _⟩ | ⟨_, htokens, _⟩ := factor_read_inv _ _ _ _ h
    · exact hnumber text (getElem?_of_drop htokens)
    · exact hopening (getElem?_of_drop htokens)

theorem ends_powered (hfactor : EndsAsRead ts levels .factor) (hunary : EndsAsRead ts levels .unary) :
    EndsAsRead ts levels .powered := by
  intro stack pos depth hdepth
  apply Ends.of_step
  show Ends ts ⟨.call .factor, .base pos :: stack, pos, depth⟩ stack depth
    ((Arith.powered (Arith.unary levels)).read (ts.drop pos))
  refine (hfactor (.base pos :: stack) pos depth hdepth).bind (fun hnone next => ?_) fun v next hsome => ?_
  · refine ends_failed fun w rest h => ?_
    obtain hbase | ⟨_, _, _, hbase, _⟩ := powered_read_inv _ _ _ _ h
    · exact Option.some_ne_none _ (hbase.symm.trans hnone)
    · exact Option.some_ne_none _ (hbase.symm.trans hnone)
  · rw [resume]
    split
    · next hpower =>
      rw [powered_read_power _ _ v (ts.drop (next + 1)) (by rw [← drop_of_getElem? hpower]; exact hsome)]
      exact (hunary (.exponent pos v :: stack) (next + 1) depth hdepth).map v.pow fun _ result => by cases result <;> rfl
    · next hpower =>
      rw [powered_read_factor _ _ v _ hsome (by rwa [List.head?_drop])]
      exact ends_back v rfl

theorem ends_signed (hunary : EndsAsRead ts levels .unary) (hpowered : EndsAsRead ts levels .powered) :
    EndsAsRead ts levels .signed := by
  intro stack pos depth hdepth
  have hresume : ∀ sign next result, resume ts stack next depth (.signed pos sign) result =
      ⟨.back (result.map sign), stack, next, depth⟩ := by
    intro sign next result
    cases result <;> rfl
  apply Ends.of_step
  show Ends ts (enter ts stack pos depth .signed) stack depth ((Arith.signed (Arith.unary levels)).read (ts.drop pos))
  rw [enter]
  split
  · next htoken =>
    rw [drop_of_getElem? htoken]
    exact (hunary (.signed pos (-·) :: stack) (pos + 1) depth hdepth).map (-·) (hresume _)
  · next htoken =>
    rw [drop_of_getElem? htoken]
    exact (hunary (.signed pos id :: stack) (pos + 1) depth hdepth).pass fun next result => by
      rw [hresume, Option.map_id, id]
  · next hminus hplus =>
    rw [signed_read_powered _ _ (by rwa [List.head?_drop]) (by rwa [List.head?_drop])]
    exact (hpowered (.signed pos id :: stack) pos depth hdepth).pass fun next result => by
      rw [hresume, Option.map_id, id]

theorem ends_unary_zero : EndsAsRead ts 0 .unary := by
  intro stack pos depth hdepth
  apply Ends.of_step
  show Ends ts (enter ts stack pos depth .unary) stack depth none
  rw [enter, if_pos (by omega)]
  exact ends_none

theorem ends_unary_succ (hsigned : EndsAsRead ts levels .signed) : EndsAsRead ts (levels + 1) .unary := by
  intro stack pos depth hdepth
  apply Ends.of_step
  show Ends ts (enter ts stack pos depth .unary) stack depth ((Arith.signed (Arith.unary levels)).read (ts.drop pos))
  rw [enter, if_neg (by omega)]
  exact (hsigned (.unary pos :: stack) pos (depth + 1) (by omega)).pass fun _ result => by cases result <;> rfl

theorem ends_of_unary (hunary : EndsAsRead ts levels .unary) (category : Category) : EndsAsRead ts levels category := by
  have hmultiplicative : EndsAsRead ts levels .multiplicative := ends_chain .multiplicative hunary
  have hadditive : EndsAsRead ts levels .additive := ends_chain .additive hmultiplicative
  have hfactor := ends_factor hadditive
  have hpowered := ends_powered hfactor hunary
  have hsigned := ends_signed hunary hpowered
  cases category <;> assumption

/-- **A call ends with what its reader reads**: by induction on the levels, which only `unary` counts. -/
theorem ends_call (levels : Nat) (category : Category) : EndsAsRead ts levels category := by
  induction levels generalizing category with
  | zero => exact ends_of_unary ends_unary_zero category
  | succ levels ih => exact ends_of_unary (ends_unary_succ (ih .signed)) category

end

/-! ## whole readings -/

/-- the machine some steps after a call that no other one has made -/
def parse (ts : List Token) (category : Category) (pos depth steps : Nat) : Machine :=
  (step ts)^[steps] ⟨.call category, [], pos, depth⟩

theorem parse_succ (ts : List Token) (category : Category) (pos depth steps : Nat) :
    parse ts category pos depth (steps + 1) = step ts (parse ts category pos depth steps) :=
  Function.iterate_succ_apply' ..

theorem inOrder_parse {ts : List Token} {pos depth : Nat} (hpos : pos ≤ ts.length) (hdepth : depth ≤ maxNesting)
    (category : Category) (steps : Nat) : InOrder ts depth (parse ts category pos depth steps) := by
  have hnested : Nested depth [] depth := ⟨rfl, hdepth, List.isChain_nil⟩
  have hcall : InOrder ts depth ⟨.call category, [], pos, depth⟩ := by
    refine .call hnested hpos fun frame hframe => ?_
    cases hframe
  exact hcall.iterate steps

/-- **Every reading ends, in order.** From any place and depth the machine comes to a result at the same depth, and it is
that of the reader. If it is a value, then tokens have been taken, and none behind the last one. On the way calls and
rounds are in order. The depth counts the `unary` calls that are open and is never above the limit, and at the limit one
more of them is refused at once. -/
theorem parse_ends_in_order (ts : List Token) (category : Category) (pos depth : Nat) (hpos : pos ≤ ts.length)
    (hdepth : depth ≤ maxNesting) :
    (∃ n result next, parse ts category pos depth n = ⟨.back result, [], next, depth⟩ ∧
      (result.isSome → pos < next ∧ next ≤ ts.length) ∧
      result.map (·, ts.drop next) = (category.reader (maxNesting - depth)).read (ts.drop pos)) ∧
    ∀ n, InOrder ts depth (parse ts category pos depth n) ∧
      (parse ts category pos depth n).depth =
        depth + (parse ts category pos depth n).stack.countP Frame.isUnary ∧
      (parse ts category pos depth n).depth ≤ maxNesting ∧
      ∀ stack next, parse ts category pos depth n = ⟨.call .unary, stack, next, maxNesting⟩ →
        parse ts category pos depth (n + 1) = ⟨.back none, stack, next, maxNesting⟩ := by
  have horder := inOrder_parse hpos hdepth category
  have hcalls : EndsAsRead ts (maxNesting - depth) category := ends_call _ category
  constructor
  · obtain ⟨n, result, next, hrun, hread⟩ := hcalls [] pos depth (Nat.add_sub_of_le hdepth)
    refine ⟨n, result, next, hrun, fun hsome => ?_, hread⟩
    obtain ⟨v, rfl⟩ := Option.isSome_iff_exists.mp hsome
    have hlast := horder n
    rw [parse, hrun] at hlast
    have hshorter := (category.reader (maxNesting - depth)).consumes _ _ _ hread.symm
    rw [List.length_drop, List.length_drop] at hshorter
    cases hlast with
    | back _ hle _ => exact ⟨by omega, hle⟩
  · intro n
    refine ⟨horder n, (horder n).nested.depth_eq, (horder n).nested.depth_le, fun stack next hcall => ?_⟩
    rw [parse_succ, hcall]
    rfl

/-- a sign and a number need the last two levels -/
theorem parse_in_the_last_levels :
    let ts : List Token := [.minus, .number ['7']]
    0 ≤ ts.length ∧ 254 ≤ maxNesting ∧ ∃ n v, parse ts .unary 0 254 n = ⟨.back (some v), [], 2, 254⟩ := by
  intro ts
  obtain ⟨⟨n, result, next, hrun, htaken, hread⟩, _⟩ := parse_ends_in_order ts .unary 0 254 (by decide) (by decide)
  refine ⟨by decide, by decide, n, ?_⟩
  have hrest : result.map (fun _ => ts.drop next) = some [] := by
    have h := congrArg (Option.map Prod.snd) hread
    rwa [Option.map_map] at h
  obtain ⟨v, rfl, hnil⟩ := Option.map_eq_some_iff.mp hrest
  have hnext : next = 2 := Nat.le_antisymm (htaken rfl).2 (List.drop_eq_nil_iff.mp hnil)
  exact ⟨v, by rw [hrun, hnext]⟩

end FormulaGrid.Arith
