import FormulaGrid.Proofs.Arith.Readers
import FormulaGrid.Proofs.Arith.Tokens

/-!
# What is derived is read

* `Reads`            a reader of a category takes the given tokens and no more;
* `Derives.reads`    a derived text has tokens that the reader of its category takes, with the
                     value of the derivation;
* `Derives.tokenize` so a derived expression has that value.

A chain is read by a loop that goes on as long as it finds an operator of its own.  What `Reads`
says of chains is therefore that the loop has arrived at the value of the tokens, whatever follows.
-/

namespace FormulaGrid.Arith

open Number

/-! ## the ends of derived texts -/

section
variable {p : Part} {n : Nat} {s : List Char} {v : Float}

theorem Derives.head (h : Derives numeral p n s v) : ∃ c cs, s = c :: cs ∧ c ≠ '*' := by
  have happend : ∀ a b : List Char, (∃ c cs, a = c :: cs ∧ c ≠ '*') →
      ∃ c cs, a ++ b = c :: cs ∧ c ≠ '*' := by
    rintro _ b ⟨c, cs, rfl, hc⟩
    exact ⟨c, cs ++ b, rfl, hc⟩
  induction h with
  | term _ ih => exact ih
  | add _ _ ih _ => exact happend _ _ ih
  | subtract _ _ ih _ => exact happend _ _ ih
  | unary _ ih => exact ih
  | multiply _ _ ih _ => exact happend _ _ ih
  | divide _ _ ih _ => exact happend _ _ ih
  | minus _ _ => exact ⟨_, _, rfl, by decide⟩
  | plus _ _ => exact ⟨_, _, rfl, by decide⟩
  | power _ ih => exact ih
  | factor _ ih => exact ih
  | raise _ _ ih _ => exact happend _ _ ih
  | operand h =>
    obtain ⟨c, cs, rfl, hc⟩ := h.1.head
    refine ⟨c, cs, rfl, ?_⟩
    rintro rfl
    exact absurd hc (by decide)
  | group _ _ => exact ⟨_, _, rfl, by decide⟩

theorem all_isAllowed_of_numeral (text : List Char) (h : Numeral text) : text.all isAllowed :=
  List.all_eq_true.mpr fun c hc => isAllowed_of_numeric c (h.mem _ c hc)

theorem Derives.all_isAllowed (h : Derives numeral p n s v) : s.all isAllowed := by
  have hplus : isAllowed '+' := by decide
  have hminus : isAllowed '-' := by decide
  have hstar : isAllowed '*' := by decide
  have hslash : isAllowed '/' := by decide
  have hopening : isAllowed '(' := by decide
  have hclosing : isAllowed ')' := by decide
  induction h with
  | term _ ih => exact ih
  | unary _ ih => exact ih
  | power _ ih => exact ih
  | factor _ ih => exact ih
  | operand h => exact all_isAllowed_of_numeral _ h.1
  | _ => simp_all

end

/-! ## derived texts -/

/-- the reader of a category takes `ts`, with the value `v`, and leaves what follows -/
def Reads (n : Nat) : Part → List Token → Float → Prop
  | .expression, ts, v => ∀ rest, (∀ t ∈ rest.head?, t ≠ .power ∧ multiplicativeOp t = none) →
      (additive (unary n)).read (ts ++ rest) = joinOnto (multiplicative (unary n)) additiveOp v rest
  | .term, ts, v => ∀ rest, rest.head? ≠ some .power →
      (multiplicative (unary n)).read (ts ++ rest) = joinOnto (unary n) multiplicativeOp v rest
  | .unary, ts, v => ∀ rest, rest.head? ≠ some .power →
      (unary n).read (ts ++ rest) = some (v, rest)
  | .power, ts, v => BeginsFactor ts ∧ ∀ rest, rest.head? ≠ some .power →
      (powered (unary n)).read (ts ++ rest) = some (v, rest)
  | .factor, ts, v => BeginsFactor ts ∧ ∀ rest, (factor (unary n)).read (ts ++ rest) = some (v, rest)

section
variable {n : Nat} {ts us : List Token} {v w : Float}

theorem Reads.stop (h : Reads n .term ts v) (rest : List Token)
    (hr : ∀ t ∈ rest.head?, t ≠ .power ∧ multiplicativeOp t = none) :
    (multiplicative (unary n)).read (ts ++ rest) = some (v, rest) := by
  rw [h rest (fun e => (hr .power e).1 rfl)]
  exact joinOnto_stop _ _ _ _ fun t ht => (hr t ht).2

theorem Reads.term (h : Reads n .term ts v) : Reads n .expression ts v := fun rest hr =>
  chain_read _ _ _ _ _ (h.stop rest hr)

theorem Reads.join (t : Token) (f : Float → Float → Float) (hf : additiveOp t = some f)
    (ht : t ≠ .power ∧ multiplicativeOp t = none)
    (hs : Reads n .expression ts v) (hu : Reads n .term us w) :
    Reads n .expression (ts ++ t :: us) (f v w) := by
  intro rest hr
  have hmid : ∀ t' ∈ (t :: (us ++ rest)).head?, t' ≠ .power ∧ multiplicativeOp t' = none := by
    rintro _ ⟨⟩
    exact ht
  rw [List.append_assoc, List.cons_append, hs _ hmid]
  exact joinOnto_next _ _ _ _ _ _ _ _ hf (hu.stop rest hr)

theorem Reads.unary (h : Reads n .unary ts v) : Reads n .term ts v := fun rest hr =>
  chain_read _ _ _ _ _ (h rest hr)

theorem Reads.joinUnary (t : Token) (f : Float → Float → Float) (hf : multiplicativeOp t = some f)
    (ht : t ≠ .power) (hs : Reads n .term ts v) (hu : Reads n .unary us w) :
    Reads n .term (ts ++ t :: us) (f v w) := by
  intro rest hr
  have hmid : (t :: (us ++ rest)).head? ≠ some .power := fun e => ht (Option.some.inj e)
  rw [List.append_assoc, List.cons_append, hs _ hmid]
  exact joinOnto_next _ _ _ _ _ _ _ _ hf (hu rest hr)

theorem Reads.minus (h : Reads n .unary ts v) : Reads (n + 1) .unary (.minus :: ts) (-v) := by
  intro rest hr
  rw [unary_succ, List.cons_append]
  exact signed_read_minus _ _ _ _ (h rest hr)

theorem Reads.plus (h : Reads n .unary ts v) : Reads (n + 1) .unary (.plus :: ts) v := h

theorem Reads.power (h : Reads n .power ts v) : Reads (n + 1) .unary ts v := by
  intro rest hr
  rw [unary_succ, signed_read_factor _ _ _ h.1]
  exact h.2 rest hr

theorem Reads.factor (h : Reads n .factor ts v) : Reads n .power ts v :=
  ⟨h.1, fun rest hr => powered_read_factor _ _ _ _ (h.2 rest) hr⟩

theorem Reads.raise (hs : Reads n .factor ts v) (hu : Reads n .unary us w) :
    Reads n .power (ts ++ .power :: us) (v.pow w) := by
  obtain ⟨⟨t, ts', rfl, ht⟩, hs⟩ := hs
  refine ⟨⟨t, ts' ++ .power :: us, rfl, ht⟩, fun rest hr => ?_⟩
  rw [List.append_assoc]
  exact powered_read_raise _ _ _ _ _ _ (hs _) (hu rest hr)

theorem Reads.group (h : Reads n .expression ts v) :
    Reads n .factor (.opening :: (ts ++ [.closing])) v := by
  refine ⟨⟨_, _, rfl, rfl⟩, fun rest => ?_⟩
  have hmid : ∀ t ∈ (Token.closing :: rest).head?, t ≠ .power ∧ multiplicativeOp t = none := by
    rintro _ ⟨⟩
    exact ⟨by decide, rfl⟩
  have hstop : ∀ t ∈ (Token.closing :: rest).head?, additiveOp t = none := by
    rintro _ ⟨⟩
    rfl
  have e := h (.closing :: rest) hmid
  rw [joinOnto_stop _ _ _ _ hstop] at e
  rw [List.cons_append, List.append_assoc]
  exact factor_read_group _ _ _ _ e

theorem Reads.number (text : List Char) (h : readFloat? text = some v) :
    Reads n .factor [.number text] v :=
  ⟨⟨_, _, rfl, rfl⟩, fun _ => factor_read_number _ _ _ _ h⟩

end

/-! ## tokens of derived texts -/

section
variable {s t : List Char} {ts us : List Token}

theorem Spells.nil : Spells [] [] := fun rest _ => by simp

theorem Spells.join (c : Char) (op : Token) (hc : c.isDigit = false ∧ c ≠ '.')
    (hn : ∀ cs, Token.next? c cs = some (op, cs)) (hs : Spells s ts) (ht : Spells t us) :
    Spells (s ++ c :: t) (ts ++ op :: us) :=
  hs.append _ _ _ _ (Spells.cons c op t us (fun _ => hn _) ht) fun rest _ =>
    Stops.cons c (t ++ rest) hc.1 hc.2

theorem Spells.group (hs : Spells s ts) : Spells ('(' :: (s ++ [')'])) (.opening :: (ts ++ [.closing])) :=
  Spells.cons _ _ _ _ (fun _ => rfl) (hs.join ')' .closing (by decide) (fun _ => rfl) Spells.nil)

theorem Spells.star (hs : Spells s ts) (ht : Spells t us) (hh : ∃ c cs, t = c :: cs ∧ c ≠ '*') :
    Spells (s ++ '*' :: t) (ts ++ .star :: us) := by
  obtain ⟨c, cs, rfl, hc⟩ := hh
  refine hs.append _ _ _ _ (Spells.cons '*' .star _ _ (fun rest => ?_) ht) fun rest _ =>
    Stops.cons _ _ (by decide) (by decide)
  rw [List.cons_append, Token.next?]
  intro _ e
  exact hc (List.cons.inj e).1

theorem Spells.power (hs : Spells s ts) (ht : Spells t us) :
    Spells (s ++ '*' :: '*' :: t) (ts ++ .power :: us) := by
  refine hs.append _ _ _ _ (fun rest hr => ?_) fun rest _ => Stops.cons _ _ (by decide) (by decide)
  rw [List.cons_append, List.cons_append, tokenize_cons]
  show (tokenize (t ++ rest)).map (.power :: ·) = _
  rw [ht rest hr, Option.map_map]
  rfl

end

section
variable {p : Part} {n : Nat} {s : List Char} {v : Float}

/-- **A derived text is spelled by tokens that the reader of its category takes**, with the value of
the derivation. -/
theorem Derives.reads (h : Derives numeral p n s v) : ∃ ts, Spells s ts ∧ Reads n p ts v := by
  induction h with
  | term _ ih =>
    obtain ⟨ts, hs, hr⟩ := ih
    exact ⟨ts, hs, hr.term⟩
  | add _ _ ihs iht =>
    obtain ⟨ts, hs, hr⟩ := ihs
    obtain ⟨us, ht, hq⟩ := iht
    exact ⟨_, hs.join '+' .plus (by decide) (fun _ => rfl) ht,
      hr.join .plus _ rfl ⟨by decide, rfl⟩ hq⟩
  | subtract _ _ ihs iht =>
    obtain ⟨ts, hs, hr⟩ := ihs
    obtain ⟨us, ht, hq⟩ := iht
    exact ⟨_, hs.join '-' .minus (by decide) (fun _ => rfl) ht,
      hr.join .minus _ rfl ⟨by decide, rfl⟩ hq⟩
  | unary _ ih =>
    obtain ⟨ts, hs, hr⟩ := ih
    exact ⟨ts, hs, hr.unary⟩
  | multiply _ h ihs iht =>
    obtain ⟨ts, hs, hr⟩ := ihs
    obtain ⟨us, ht, hq⟩ := iht
    exact ⟨_, hs.star ht h.head, hr.joinUnary .star _ rfl (by decide) hq⟩
  | divide _ _ ihs iht =>
    obtain ⟨ts, hs, hr⟩ := ihs
    obtain ⟨us, ht, hq⟩ := iht
    exact ⟨_, hs.join '/' .slash (by decide) (fun _ => rfl) ht,
      hr.joinUnary .slash _ rfl (by decide) hq⟩
  | minus _ ih =>
    obtain ⟨ts, hs, hr⟩ := ih
    exact ⟨_, Spells.cons '-' .minus _ _ (fun _ => rfl) hs, hr.minus⟩
  | plus _ ih =>
    obtain ⟨ts, hs, hr⟩ := ih
    exact ⟨_, Spells.cons '+' .plus _ _ (fun _ => rfl) hs, hr.plus⟩
  | power _ ih =>
    obtain ⟨ts, hs, hr⟩ := ih
    exact ⟨ts, hs, hr.power⟩
  | factor _ ih =>
    obtain ⟨ts, hs, hr⟩ := ih
    exact ⟨ts, hs, hr.factor⟩
  | raise _ _ ihs iht =>
    obtain ⟨ts, hs, hr⟩ := ihs
    obtain ⟨us, ht, hq⟩ := iht
    exact ⟨_, hs.power ht, hr.raise hq⟩
  | operand h => exact ⟨_, Spells.number _ h.1, Reads.number _ h.2⟩
  | group _ ih =>
    obtain ⟨ts, hs, hr⟩ := ih
    exact ⟨_, hs.group, hr.group⟩

theorem Derives.tokenize (h : Derives numeral .expression n s v) :
    ∃ ts, Arith.tokenize s = some ts ∧ (additive (Arith.unary n)).all? ts = some v := by
  obtain ⟨ts, hs, hr⟩ := h.reads
  refine ⟨ts, hs.tokenize_eq, ?_⟩
  have e := hr [] (fun t ht => by cases ht)
  rw [List.append_nil, joinOnto] at e
  rw [Reader.all?, e]

end

end FormulaGrid.Arith
