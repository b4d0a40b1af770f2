/-!
# Tokens of arithmetic text

* `isAllowed`        the characters of arithmetic text;
* `Token`            numbers, operators and parentheses; a number keeps its text;
* `Token.spelling`   the text of a token;
* `Token.next?`      the token at the start of a text, as long as it can be, and the rest;
* `tokenize`         all tokens of a text.

A number is a group of digits with at most one point in it or beside it.  A second point begins a
new number.  A point without digits is no number, and no token begins with it.
-/

namespace FormulaGrid.Arith

/-! ## characters and tokens -/

/-- digits, operators, the point and parentheses -/
def isAllowed (c : Char) : Bool :=
  c.isDigit || ['-', '+', '*', '/', '.', '(', ')'].contains c

inductive Token where
  | number (text : List Char)
  | plus
  | minus
  | star
  | slash
  | power
  | opening
  | closing
  deriving DecidableEq, Repr

def Token.spelling : Token → List Char
  | .number text => text
  | .plus => ['+']
  | .minus => ['-']
  | .star => ['*']
  | .slash => ['/']
  | .power => ['*', '*']
  | .opening => ['(']
  | .closing => [')']

/-! ## the token at the start -/

/-- the digits at the start of a text with the first point among them or after them -/
def takeNumber (cs : List Char) : List Char × List Char :=
  match cs.dropWhile Char.isDigit with
  | '.' :: rest =>
    (cs.takeWhile Char.isDigit ++ '.' :: rest.takeWhile Char.isDigit, rest.dropWhile Char.isDigit)
  | rest => (cs.takeWhile Char.isDigit, rest)

/-- nothing is lost -/
theorem takeNumber_append (cs : List Char) : (takeNumber cs).1 ++ (takeNumber cs).2 = cs := by
  unfold takeNumber
  split
  · next rest h =>
    rw [List.append_assoc, List.cons_append, List.takeWhile_append_dropWhile, ← h,
      List.takeWhile_append_dropWhile]
  · exact List.takeWhile_append_dropWhile

/-- a text cut off as a number, unless it has no digit -/
def Token.ofNumber? (taken : List Char × List Char) : Option (Token × List Char) :=
  if taken.1 = [] ∨ taken.1 = ['.'] then none else some (.number taken.1, taken.2)

/-- the token that begins with `c`, and the rest; two stars belong together -/
def Token.next? (c : Char) (cs : List Char) : Option (Token × List Char) :=
  match c, cs with
  | '+', cs => some (.plus, cs)
  | '-', cs => some (.minus, cs)
  | '*', '*' :: cs => some (.power, cs)
  | '*', cs => some (.star, cs)
  | '/', cs => some (.slash, cs)
  | '(', cs => some (.opening, cs)
  | ')', cs => some (.closing, cs)
  | c, cs => Token.ofNumber? (takeNumber (c :: cs))

/-- the token and the rest are the text -/
theorem Token.spelling_of_next? (c : Char) (cs : List Char) (t : Token) (rest : List Char)
    (h : Token.next? c cs = some (t, rest)) : t.spelling ++ rest = c :: cs := by
  unfold Token.next? at h
  split at h
  case h_8 =>
    unfold Token.ofNumber? at h
    split at h
    · cases h
    · simp only [Option.some.injEq, Prod.mk.injEq] at h
      obtain ⟨rfl, rfl⟩ := h
      exact takeNumber_append (c :: cs)
  all_goals
    simp only [Option.some.injEq, Prod.mk.injEq] at h
    obtain ⟨rfl, rfl⟩ := h
    rfl

theorem Token.spelling_ne_nil_of_next? (c : Char) (cs : List Char) (t : Token) (rest : List Char)
    (h : Token.next? c cs = some (t, rest)) : t.spelling ≠ [] := by
  unfold Token.next? at h
  split at h
  case h_8 =>
    unfold Token.ofNumber? at h
    split at h
    · cases h
    · next hne =>
      simp only [Option.some.injEq, Prod.mk.injEq] at h
      obtain ⟨rfl, rfl⟩ := h
      exact fun e => hne (Or.inl e)
  all_goals
    simp only [Option.some.injEq, Prod.mk.injEq] at h
    obtain ⟨rfl, rfl⟩ := h
    exact List.cons_ne_nil _ _

theorem Token.length_of_next? (c : Char) (cs : List Char) (t : Token) (rest : List Char)
    (h : Token.next? c cs = some (t, rest)) : rest.length < (c :: cs).length := by
  have e := congrArg List.length (Token.spelling_of_next? c cs t rest h)
  have n := List.length_pos_iff.mpr (Token.spelling_ne_nil_of_next? c cs t rest h)
  rw [List.length_append] at e
  omega

/-! ## all tokens -/

/-- the tokens of a text after those of `done`, which stand in reverse order -/
def tokenizeOnto (done : List Token) (cs : List Char) : Option (List Token) :=
  match cs with
  | [] => some done.reverse
  | c :: cs =>
    match _h : Token.next? c cs with
    | none => none
    | some (t, rest) => tokenizeOnto (t :: done) rest
termination_by cs.length
decreasing_by exact Token.length_of_next? _ _ _ _ _h

def tokenize (cs : List Char) : Option (List Token) := tokenizeOnto [] cs

theorem tokenizeOnto_eq (done : List Token) (cs : List Char) :
    tokenizeOnto done cs = (tokenize cs).map (done.reverse ++ ·) := by
  unfold tokenize
  generalize hn : cs.length = n
  induction n using Nat.strongRecOn generalizing done cs with
  | ind n ih =>
    match cs with
    | [] => simp [tokenizeOnto]
    | c :: cs =>
      rw [tokenizeOnto, tokenizeOnto]
      split
      · rfl
      · next t rest h =>
        have hl := Token.length_of_next? c cs t rest h
        rw [ih rest.length (by omega) (t :: done) rest rfl, ih rest.length (by omega) [t] rest rfl,
          Option.map_map]
        congr 1
        funext ts
        simp

theorem tokenize_nil : tokenize [] = some [] := by simp [tokenize, tokenizeOnto]

theorem tokenize_cons (c : Char) (cs : List Char) :
    tokenize (c :: cs) =
      (Token.next? c cs).bind fun (t, rest) => (tokenize rest).map (t :: ·) := by
  rw [tokenize, tokenizeOnto]
  split
  · next h => rw [h]; rfl
  · next t rest h =>
    rw [h, tokenizeOnto_eq]
    simp

end FormulaGrid.Arith
