import FormulaGrid.Proofs.Arith.Tokens

/-!
# The scanner of arithmetic text, place by place

`tokenize` cuts the tokens off the front of a text. Here the same is done with a place that moves along the text: in
two loops over digits, by two over a pair of stars, and by one over every other token. So it can be said which fault
ends a scanning, and that the end of the text is put down behind the tokens.

* `ScanFault`        why a scanning ends without tokens;
* `Lexeme`           what is put down: a token, or the end of the text;
* `digitsEnd`, `numberEnd`   the places behind digits and behind a number;
* `scanAt`, `scan`   one round, and all rounds;
* `scanFrom_of_tokenize`, `scanFrom_of_tokenize_none`   from every place the rounds put down the tokens of the rest,
                     or fail if it has none;
* `toOption_scan`    so the scanner is `tokenize`, but for the fault and the end.
-/

namespace FormulaGrid.Arith

open Number

/-! ## rounds -/

/-- why a scanning ends without tokens -/
inductive ScanFault where
  | lonePoint
  /-- a number was cut out that has no value -/
  | unreadable (text : List Char)
  /-- no token begins with the character -/
  | unexpected (c : Char)
  deriving DecidableEq, Repr

/-- what is put down -/
inductive Lexeme where
  | token (t : Token)
  /-- the end of the text -/
  | ending
  deriving DecidableEq, Repr

/-- the place behind the digits that stand from a place on -/
def digitsEnd (cs : List Char) (place : Nat) : Nat :=
  if h : place < cs.length then
    if cs[place].isDigit then digitsEnd cs (place + 1) else place
  else place
termination_by cs.length - place

/-- the place behind digits, or behind a point after them and the digits after that -/
def numberEnd (cs : List Char) (place : Nat) : Nat :=
  if cs[digitsEnd cs place]? = some '.' then digitsEnd cs (digitsEnd cs place + 1) else digitsEnd cs place

/-- a number with the place behind it, if its text is more than a point and has a value -/
def scanNumber (cs : List Char) (place : Nat) : Except ScanFault (Token × Nat) :=
  let stop := numberEnd cs place
  let text := cs.extract place stop
  if text = ['.'] then .error .lonePoint
  else
    match readFloat? text with
    | none => .error (.unreadable text)
    | some _ => .ok (.number text, stop)

/-- an operator or a parenthesis with the place behind it; of two stars the second is taken too -/
def scanSymbol (cs : List Char) (place : Nat) : Char → Except ScanFault (Token × Nat)
  | '+' => .ok (.plus, place + 1)
  | '-' => .ok (.minus, place + 1)
  | '*' => if cs[place + 1]? = some '*' then .ok (.power, place + 2) else .ok (.star, place + 1)
  | '/' => .ok (.slash, place + 1)
  | '(' => .ok (.opening, place + 1)
  | ')' => .ok (.closing, place + 1)
  | c => .error (.unexpected c)

/-- one round at a place where `c` stands: a token and the place behind it -/
def scanAt (cs : List Char) (place : Nat) (c : Char) : Except ScanFault (Token × Nat) :=
  if c.isDigit ∨ c = '.' then scanNumber cs place else scanSymbol cs place c

/-! ## numbers -/

theorem digitsEnd_eq (cs : List Char) (place : Nat) :
    digitsEnd cs place = place + ((cs.drop place).takeWhile Char.isDigit).length := by
  fun_induction digitsEnd cs place with
  | case1 place h hd ih =>
    rw [ih, List.drop_eq_getElem_cons h, List.takeWhile_cons_of_pos hd, List.length_cons]
    omega
  | case2 place h hd =>
    rw [List.drop_eq_getElem_cons h, List.takeWhile_cons_of_neg hd]
    rfl
  | case3 place h =>
    rw [List.drop_eq_nil_of_le (Nat.le_of_not_lt h)]
    rfl

theorem drop_digitsEnd (cs : List Char) (place : Nat) :
    cs.drop (digitsEnd cs place) = (cs.drop place).dropWhile Char.isDigit := by
  rw [digitsEnd_eq, ← List.drop_drop]
  generalize cs.drop place = rest
  calc rest.drop (rest.takeWhile Char.isDigit).length
      = (rest.takeWhile Char.isDigit ++ rest.dropWhile Char.isDigit).drop (rest.takeWhile Char.isDigit).length := by
        rw [List.takeWhile_append_dropWhile]
    _ = rest.dropWhile Char.isDigit := List.drop_left

theorem numberEnd_eq (cs : List Char) (place : Nat) :
    numberEnd cs place = place + (takeNumber (cs.drop place)).1.length := by
  have hdrop := drop_digitsEnd cs place
  have htoken : cs[digitsEnd cs place]? = ((cs.drop place).dropWhile Char.isDigit).head? := by
    rw [← hdrop, List.head?_drop]
  unfold numberEnd takeNumber
  rw [htoken]
  split
  · next hpoint =>
    split
    · next rest h =>
      have hbehind : cs.drop (digitsEnd cs place + 1) = rest := by
        rw [← List.tail_drop, hdrop, h, List.tail_cons]
      rw [digitsEnd_eq cs (digitsEnd cs place + 1), hbehind, digitsEnd_eq cs place, List.length_append,
        List.length_cons]
      omega
    · next h =>
      obtain ⟨rest, e⟩ := List.head?_eq_some_iff.mp hpoint
      exact absurd e (h rest)
  · next hpoint =>
    split
    · next rest h =>
      rw [h] at hpoint
      exact absurd rfl hpoint
    · exact digitsEnd_eq cs place

theorem extract_numberEnd (cs : List Char) (place : Nat) :
    cs.extract place (numberEnd cs place) = (takeNumber (cs.drop place)).1 := by
  rw [List.extract_eq_take_drop, numberEnd_eq, Nat.add_sub_cancel_left]
  generalize cs.drop place = rest
  calc rest.take (takeNumber rest).1.length
      = ((takeNumber rest).1 ++ (takeNumber rest).2).take (takeNumber rest).1.length := by rw [takeNumber_append]
    _ = (takeNumber rest).1 := List.take_left

/-! ## one round -/

section
variable {cs rest : List Char} {place : Nat} {c : Char}

theorem scanNumber_eq (h : cs.drop place = c :: rest) (hc : c.isDigit ∨ c = '.') :
    scanNumber cs place =
      match Token.next? c rest with
      | some (t, _) => .ok (t, place + t.spelling.length)
      | none => .error .lonePoint := by
  rw [scanNumber, Token.next?_numeric c rest hc, Token.ofNumber?]
  simp only [extract_numberEnd, h]
  by_cases hp : (takeNumber (c :: rest)).1 = ['.']
  · rw [if_pos hp, if_pos (Or.inr hp)]
  · have hne := takeNumber_ne_nil c rest hc
    have hnumeral := numeral_of_takeNumber _ hne hp
    obtain ⟨d, hd⟩ := hnumeral.exists_decimal
    rw [if_neg hp, if_neg (not_or.mpr ⟨hne, hp⟩), hnumeral.readFloat?_eq, hd, numberEnd_eq, h]
    rfl

theorem scanSymbol_eq (h : cs.drop place = c :: rest) (hc : ¬ (c.isDigit ∨ c = '.')) :
    scanSymbol cs place c =
      match Token.next? c rest with
      | some (t, _) => .ok (t, place + t.spelling.length)
      | none => .error (.unexpected c) := by
  have hsecond : cs[place + 1]? = rest.head? := by rw [← List.head?_drop, ← List.tail_drop, h, List.tail_cons]
  fun_cases Token.next? c rest with
  | case3 behind => exact if_pos hsecond
  | case4 _ hstar =>
    refine if_neg fun e => ?_
    obtain ⟨behind, e'⟩ := List.head?_eq_some_iff.mp (hsecond.symm.trans e)
    exact hstar behind e'
  | case8 =>
    obtain ⟨hd, hp⟩ := not_or.mp hc
    rw [takeNumber_symbol c rest (Bool.eq_false_iff.mpr hd) hp, Token.ofNumber?, if_pos (Or.inl rfl)]
    rw [scanSymbol] <;> assumption
  | _ => rfl

/-- **A round finds the token at the start of the rest**, and the place behind it. -/
theorem scanAt_of_next? {t : Token} {behind : List Char} (h : cs.drop place = c :: rest)
    (hnext : Token.next? c rest = some (t, behind)) : scanAt cs place c = .ok (t, place + t.spelling.length) := by
  rw [scanAt]
  split
  · next hc => rw [scanNumber_eq h hc, hnext]
  · next hc => rw [scanSymbol_eq h hc, hnext]

/-- where there is no token, there is a point, or a character that is not of arithmetic -/
theorem scanAt_of_next?_none (h : cs.drop place = c :: rest) (hnext : Token.next? c rest = none) :
    scanAt cs place c = .error (if isAllowed c then .lonePoint else .unexpected c) := by
  rw [scanAt]
  by_cases hallowed : isAllowed c
  · have hp : c = '.' := ((Token.next?_eq_none_iff c rest hallowed).mp hnext).1
    rw [if_pos (Or.inr hp), scanNumber_eq h (Or.inr hp), hnext, if_pos hallowed]
  · have hc := mt (isAllowed_of_numeric c) hallowed
    rw [if_neg hc, scanSymbol_eq h hc, hnext, if_neg hallowed]

theorem next?_of_scanAt {t : Token} {next : Nat} (h : cs.drop place = c :: rest)
    (hround : scanAt cs place c = .ok (t, next)) : Token.next? c rest = some (t, cs.drop next) := by
  cases hnext : Token.next? c rest with
  | none =>
    rw [scanAt_of_next?_none h hnext] at hround
    cases hround
  | some found =>
    rw [scanAt_of_next? h hnext] at hround
    obtain ⟨rfl, rfl⟩ := Prod.mk.inj (Except.ok.inj hround)
    have hbehind : cs.drop (place + found.1.spelling.length) = found.2 := by
      rw [← List.drop_drop, h, ← Token.spelling_of_next? _ _ _ _ hnext, List.drop_left]
    rw [hbehind]

theorem fault_of_scanAt {fault : ScanFault} (h : cs.drop place = c :: rest)
    (hround : scanAt cs place c = .error fault) :
    Token.next? c rest = none ∧ fault = if isAllowed c then .lonePoint else .unexpected c := by
  cases hnext : Token.next? c rest with
  | none =>
    rw [scanAt_of_next?_none h hnext] at hround
    exact ⟨rfl, (Except.error.inj hround).symm⟩
  | some found =>
    rw [scanAt_of_next? h hnext] at hround
    cases hround

/-- every round takes something -/
theorem left_of_scanAt {t : Token} {next : Nat} (hlt : place < cs.length)
    (hround : scanAt cs place cs[place] = .ok (t, next)) : cs.length - next < cs.length - place := by
  have hdrop := List.drop_eq_getElem_cons hlt
  have hshorter := Token.length_of_next? _ _ _ _ (next?_of_scanAt hdrop hround)
  rwa [← hdrop, List.length_drop, List.length_drop] at hshorter

end

/-! ## all rounds -/

/-- the rounds from a place on, behind those that have put down `done` -/
def scanFrom (cs : List Char) (done : List Lexeme) (place : Nat) : Except ScanFault (List Lexeme) :=
  if hlt : place < cs.length then
    match _hround : scanAt cs place cs[place] with
    | .error fault => .error fault
    | .ok (t, next) => scanFrom cs (done ++ [.token t]) next
  else .ok (done ++ [.ending])
termination_by cs.length - place
decreasing_by exact left_of_scanAt hlt _hround

def scan (cs : List Char) : Except ScanFault (List Lexeme) := scanFrom cs [] 0

section
variable {cs : List Char}

theorem scanFrom_of_tokenize (done : List Lexeme) (place : Nat) (ts : List Token)
    (h : tokenize (cs.drop place) = some ts) :
    scanFrom cs done place = .ok (done ++ ts.map .token ++ [.ending]) := by
  fun_induction scanFrom cs done place generalizing ts with
  | case1 done place hlt fault hround =>
    have hdrop := List.drop_eq_getElem_cons hlt
    rw [hdrop, tokenize_cons, (fault_of_scanAt hdrop hround).1] at h
    cases h
  | case2 done place hlt t next hround ih =>
    have hdrop := List.drop_eq_getElem_cons hlt
    rw [hdrop, tokenize_cons, next?_of_scanAt hdrop hround, Option.bind_some] at h
    obtain ⟨us, hus, rfl⟩ := Option.map_eq_some_iff.mp h
    rw [ih us hus, List.map_cons, List.append_assoc done, List.singleton_append]
  | case3 done place hlt =>
    rw [List.drop_eq_nil_of_le (Nat.le_of_not_lt hlt), tokenize_nil] at h
    obtain rfl := Option.some.inj h
    rw [List.map_nil, List.append_nil]

/-- where the rest has no tokens, the rounds end at a point, or at a character that is not of arithmetic -/
theorem scanFrom_of_tokenize_none (done : List Lexeme) (place : Nat) (h : tokenize (cs.drop place) = none) :
    ∃ c ∈ cs, scanFrom cs done place = .error (if isAllowed c then .lonePoint else .unexpected c) := by
  fun_induction scanFrom cs done place with
  | case1 done place hlt fault hround =>
    have hfault := (fault_of_scanAt (List.drop_eq_getElem_cons hlt) hround).2
    exact ⟨cs[place], List.getElem_mem hlt, congrArg Except.error hfault⟩
  | case2 done place hlt t next hround ih =>
    have hdrop := List.drop_eq_getElem_cons hlt
    rw [hdrop, tokenize_cons, next?_of_scanAt hdrop hround, Option.bind_some] at h
    exact ih (Option.map_eq_none_iff.mp h)
  | case3 done place hlt =>
    rw [List.drop_eq_nil_of_le (Nat.le_of_not_lt hlt), tokenize_nil] at h
    cases h

/-- the rounds put down the tokens of the text and its end -/
theorem scan_of_tokenize (ts : List Token) (h : tokenize cs = some ts) : scan cs = .ok (ts.map .token ++ [.ending]) :=
  scanFrom_of_tokenize [] 0 ts h

/-- **The scanner finds the tokens of every text**, or a fault if it has none. -/
theorem toOption_scan (cs : List Char) :
    (scan cs).toOption = (tokenize cs).map fun ts => ts.map .token ++ [.ending] := by
  cases h : tokenize cs with
  | none =>
    obtain ⟨c, _, hfault⟩ := scanFrom_of_tokenize_none [] 0 h
    rw [scan, hfault]
    rfl
  | some ts =>
    rw [scan_of_tokenize ts h]
    rfl

/-- in a text of arithmetic the fault is a lone point -/
theorem scan_of_tokenize_none (hcs : cs.all isAllowed) (h : tokenize cs = none) : scan cs = .error .lonePoint := by
  obtain ⟨c, hc, hfault⟩ := scanFrom_of_tokenize_none [] 0 h
  rw [scan, hfault, if_pos (List.all_eq_true.mp hcs c hc)]

end

end FormulaGrid.Arith
