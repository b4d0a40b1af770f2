import FormulaGrid.Proofs.Arith.Grammar

/-!
# The tokens of texts put together

* `Stops`             the text does not continue a number in front of it;
* `Token.WellFormed`  the token is an operator, a parenthesis or the text of a number;
* `Spells`            a text gives the same tokens whatever follows it, unless that continues a
                      number at its end.

`spelling_of_tokenize` says what the tokens of a text are made of.  The other direction, from the
parts of a text to its tokens, needs care at the seams only: a number ends where no digit and no
point follows, and a star stands alone where no star follows.
-/

namespace FormulaGrid.Arith

open Number

/-! ## numbers at the start of a text -/

/-- the text begins with neither a digit nor a point -/
def Stops (cs : List Char) : Prop := ∀ c ∈ cs.head?, c.isDigit = false ∧ c ≠ '.'

theorem Stops.nil : Stops [] := fun _ h => by cases h

theorem Stops.cons (c : Char) (cs : List Char) (hd : c.isDigit = false) (hp : c ≠ '.') :
    Stops (c :: cs) := by
  intro d h
  obtain rfl : c = d := by simpa using h
  exact ⟨hd, hp⟩

theorem Stops.takeWhile_digits (cs : List Char) (h : Stops cs) : cs.takeWhile Char.isDigit = [] := by
  cases cs with
  | nil => rfl
  | cons c cs => rw [List.takeWhile_cons_of_neg (by simp [(h c rfl).1])]

theorem Stops.dropWhile_digits (cs : List Char) (h : Stops cs) : cs.dropWhile Char.isDigit = cs := by
  cases cs with
  | nil => rfl
  | cons c cs => rw [List.dropWhile_cons_of_neg (by simp [(h c rfl).1])]

theorem takeNumber_digits (ds rest : List Char) (hd : ds.all Char.isDigit) (hr : Stops rest) :
    takeNumber (ds ++ rest) = (ds, rest) := by
  unfold takeNumber
  rw [dropWhile_digits_append ds rest hd, takeWhile_digits_append ds rest hd,
    hr.takeWhile_digits, hr.dropWhile_digits, List.append_nil]
  split
  · next rest' _ => exact absurd rfl (hr '.' rfl).2
  · rfl

theorem takeNumber_symbol (c : Char) (rest : List Char) (hd : c.isDigit = false) (hp : c ≠ '.') :
    takeNumber (c :: rest) = ([], c :: rest) :=
  takeNumber_digits [] (c :: rest) rfl (Stops.cons c rest hd hp)

theorem takeNumber_ne_nil (c : Char) (rest : List Char) (hc : c.isDigit ∨ c = '.') :
    (takeNumber (c :: rest)).1 ≠ [] := by
  unfold takeNumber
  split
  · exact List.append_ne_nil_of_right_ne_nil _ (List.cons_ne_nil _ _)
  · next hpoint =>
    have hd : c.isDigit := by
      refine hc.resolve_right ?_
      rintro rfl
      exact hpoint rest (List.dropWhile_cons_of_neg (by decide))
    rw [List.takeWhile_cons_of_pos hd]
    exact List.cons_ne_nil _ _

theorem takeNumber_point (ds fs rest : List Char) (hd : ds.all Char.isDigit)
    (hf : fs.all Char.isDigit) (hr : ∀ c ∈ rest.head?, c.isDigit = false) :
    takeNumber (ds ++ '.' :: fs ++ rest) = (ds ++ '.' :: fs, rest) := by
  have hrest : rest.takeWhile Char.isDigit = [] ∧ rest.dropWhile Char.isDigit = rest := by
    cases rest with
    | nil => exact ⟨rfl, rfl⟩
    | cons c cs => simp [hr c rfl]
  have hpoint : ('.' :: (fs ++ rest)).dropWhile Char.isDigit = '.' :: (fs ++ rest) :=
    List.dropWhile_cons_of_neg (by decide)
  have hpoint' : ('.' :: (fs ++ rest)).takeWhile Char.isDigit = [] :=
    List.takeWhile_cons_of_neg (by decide)
  unfold takeNumber
  rw [List.append_assoc, List.cons_append, dropWhile_digits_append ds _ hd,
    takeWhile_digits_append ds _ hd, hpoint, hpoint']
  simp only [takeWhile_digits_append fs rest hf, dropWhile_digits_append fs rest hf, hrest.1, hrest.2,
    List.append_nil]

theorem takeNumber_numeral (text rest : List Char) (h : Numeral text) (hr : Stops rest) :
    takeNumber (text ++ rest) = (text, rest) := by
  cases h with
  | whole ds _ hd => exact takeNumber_digits _ rest hd hr
  | point ds fs _ hd hf => exact takeNumber_point ds fs rest hd hf fun c hc => (hr c hc).1
  | fraction fs _ hf => exact takeNumber_point [] fs rest rfl hf fun c hc => (hr c hc).1

theorem numeral_of_takeNumber (cs : List Char) (hn : (takeNumber cs).1 ≠ [])
    (hp : (takeNumber cs).1 ≠ ['.']) : Numeral (takeNumber cs).1 := by
  have hall : ∀ ds : List Char, (ds.takeWhile Char.isDigit).all Char.isDigit := fun ds =>
    List.all_takeWhile
  unfold takeNumber at hn hp ⊢
  split
  · next rest h =>
    simp only [h] at hn hp
    by_cases hw : cs.takeWhile Char.isDigit = []
    · rw [hw] at hp ⊢
      refine .fraction _ (fun e => hp ?_) (hall rest)
      rw [e, List.nil_append]
    · exact .point _ _ hw (hall cs) (hall rest)
  · next h =>
    split at hn
    · next rest' h' => exact absurd h' (h rest')
    · exact .whole _ hn (hall cs)

/-! ## single tokens -/

theorem isAllowed_of_numeric (c : Char) (h : c.isDigit ∨ c = '.') : isAllowed c := by
  rcases h with h | rfl
  · rw [isAllowed, h, Bool.true_or]
  · decide

theorem Token.next?_numeric (c : Char) (cs : List Char) (h : c.isDigit ∨ c = '.') :
    Token.next? c cs = Token.ofNumber? (takeNumber (c :: cs)) := by
  unfold Token.next?
  split
  case h_8 => rfl
  all_goals exact absurd h (by decide)

theorem Token.next?_numeral (c : Char) (cs rest : List Char) (h : Numeral (c :: cs))
    (ht : takeNumber (c :: cs ++ rest) = (c :: cs, rest)) :
    Token.next? c (cs ++ rest) = some (.number (c :: cs), rest) := by
  obtain ⟨_, _, e, hc⟩ := h.head
  obtain ⟨rfl, rfl⟩ := List.cons.inj e
  have hp : c :: cs ≠ ['.'] := h.ne_point
  rw [Token.next?_numeric c _ hc, ← List.cons_append, ht, Token.ofNumber?, if_neg (by simp [hp])]

/-- what begins with neither a digit nor a point begins with one character as its token, but for two
stars -/
theorem Token.next?_symbol (c : Char) (cs : List Char) (t : Token) (rest : List Char)
    (hd : c.isDigit = false) (hp : c ≠ '.') (h : Token.next? c cs = some (t, rest)) :
    (∀ text, t ≠ .number text) ∧
      (rest = cs ∧ t.spelling = [c] ∨ c = '*' ∧ cs = '*' :: rest ∧ t = .power) := by
  unfold Token.next? at h
  split at h
  case h_8 =>
    rw [takeNumber_symbol c cs hd hp] at h
    cases h
  case h_3 =>
    simp only [Option.some.injEq, Prod.mk.injEq] at h
    obtain ⟨rfl, rfl⟩ := h
    exact ⟨nofun, Or.inr ⟨rfl, rfl, rfl⟩⟩
  all_goals
    simp only [Option.some.injEq, Prod.mk.injEq] at h
    obtain ⟨rfl, rfl⟩ := h
    exact ⟨nofun, Or.inl ⟨rfl, rfl⟩⟩

/-- no token begins with a point unless a digit follows -/
theorem Token.next?_point_eq_none_iff (rest : List Char) :
    Token.next? '.' rest = none ↔ ∀ d ∈ rest.head?, d.isDigit = false := by
  have htake : takeNumber ('.' :: rest) = ('.' :: rest.takeWhile Char.isDigit, rest.dropWhile Char.isDigit) := rfl
  rw [Token.next?_numeric '.' rest (Or.inr rfl), htake, Token.ofNumber?]
  cases rest with
  | nil => exact ⟨fun _ _ hd => (Option.not_mem_none _ hd).elim, fun _ => rfl⟩
  | cons d rest =>
    cases hd : d.isDigit with
    | true => simp [hd]
    | false => simp [hd]

/-- every other character of arithmetic begins a token -/
theorem Token.exists_next? (c : Char) (rest : List Char) (hc : isAllowed c) (hp : c ≠ '.') :
    ∃ next, Token.next? c rest = some next := by
  by_cases hd : c.isDigit
  · have hne := takeNumber_ne_nil c rest (Or.inl hd)
    have hpoint : (takeNumber (c :: rest)).1 ≠ ['.'] := by
      intro h
      have e := takeNumber_append (c :: rest)
      rw [h] at e
      exact hp (List.cons.inj e).1.symm
    rw [Token.next?_numeric c rest (Or.inl hd), Token.ofNumber?, if_neg (not_or.mpr ⟨hne, hpoint⟩)]
    exact ⟨_, rfl⟩
  · fun_cases Token.next? c rest with
    | case8 => simp_all [isAllowed]
    | _ => exact ⟨_, rfl⟩

theorem Token.next?_eq_none_iff (c : Char) (rest : List Char) (hc : isAllowed c) :
    Token.next? c rest = none ↔ c = '.' ∧ ∀ d ∈ rest.head?, d.isDigit = false := by
  by_cases hp : c = '.'
  · subst hp
    rw [Token.next?_point_eq_none_iff, eq_self, true_and]
  · obtain ⟨next, hnext⟩ := Token.exists_next? c rest hc hp
    rw [hnext]
    exact ⟨fun h => absurd h (Option.some_ne_none next), fun h => absurd h.1 hp⟩

/-- digits and points stand in numbers only -/
theorem Token.number_of_mem (t : Token) (c : Char) (hc : c ∈ t.spelling) (h : c.isDigit ∨ c = '.') :
    ∃ text, t = .number text := by
  cases t with
  | number text => exact ⟨text, rfl⟩
  | _ =>
    simp only [Token.spelling, List.mem_cons, List.not_mem_nil, or_false, or_self] at hc
    subst hc
    exact absurd h (by decide)

/-- operators, parentheses and numbers -/
def Token.WellFormed : Token → Prop
  | .number text => Numeral text
  | _ => True

theorem spelling_ne_nil (t : Token) (h : t.WellFormed) : t.spelling ≠ [] := by
  cases t with
  | number text =>
    obtain ⟨c, cs, rfl, _⟩ := Numeral.head _ h
    exact List.cons_ne_nil c cs
  | _ => exact List.cons_ne_nil _ _

theorem Token.wellFormed_of_next? (c : Char) (cs : List Char) (t : Token) (rest : List Char)
    (h : Token.next? c cs = some (t, rest)) : t.WellFormed := by
  unfold Token.next? at h
  split at h
  case h_8 =>
    unfold Token.ofNumber? at h
    split at h
    · cases h
    · next hne =>
      obtain ⟨hn, hp⟩ := not_or.mp hne
      simp only [Option.some.injEq, Prod.mk.injEq] at h
      obtain ⟨rfl, rfl⟩ := h
      exact numeral_of_takeNumber _ hn hp
  all_goals
    simp only [Option.some.injEq, Prod.mk.injEq] at h
    obtain ⟨rfl, rfl⟩ := h
    trivial

/-! ## all tokens -/

theorem tokenize_eq_some_cons (c : Char) (cs : List Char) (ts : List Token)
    (h : tokenize (c :: cs) = some ts) : ∃ t rest us, Token.next? c cs = some (t, rest) ∧
      tokenize rest = some us ∧ ts = t :: us := by
  rw [tokenize_cons] at h
  obtain ⟨⟨t, rest⟩, hn, h⟩ := Option.bind_eq_some_iff.mp h
  obtain ⟨us, hu, rfl⟩ := Option.map_eq_some_iff.mp h
  exact ⟨t, rest, us, hn, hu, rfl⟩

theorem tokenize_numeral (text rest : List Char) (h : Numeral text)
    (ht : takeNumber (text ++ rest) = (text, rest)) :
    tokenize (text ++ rest) = (tokenize rest).map (.number text :: ·) := by
  obtain ⟨c, cs, rfl, _⟩ := h.head
  rw [List.cons_append, tokenize_cons, Token.next?_numeral c cs rest h ht]
  rfl

/-- nothing is lost, and only numbers come as numbers -/
theorem spelling_of_tokenize (cs : List Char) (ts : List Token) (h : tokenize cs = some ts) :
    ts.flatMap Token.spelling = cs ∧ ∀ t ∈ ts, t.WellFormed := by
  generalize hn : cs.length = n
  induction n using Nat.strongRecOn generalizing cs ts with
  | ind n ih =>
    match cs with
    | [] =>
      rw [tokenize_nil, Option.some.injEq] at h
      subst h
      exact ⟨rfl, fun t ht => by cases ht⟩
    | c :: cs =>
      obtain ⟨t, rest, us, ht, hu, rfl⟩ := tokenize_eq_some_cons c cs ts h
      have hl := Token.length_of_next? c cs t rest ht
      obtain ⟨hs, hw⟩ := ih rest.length (by omega) rest us hu rfl
      refine ⟨?_, fun u hu => ?_⟩
      · rw [List.flatMap_cons, hs]
        exact Token.spelling_of_next? c cs t rest ht
      · rcases List.mem_cons.mp hu with rfl | hu
        · exact Token.wellFormed_of_next? c cs u rest ht
        · exact hw u hu

/-! ## tokens of parts -/

/-- the tokens of a text are `ts`, and they stay these if no digit and no point follows -/
def Spells (s : List Char) (ts : List Token) : Prop :=
  ∀ rest, Stops rest → tokenize (s ++ rest) = (tokenize rest).map (ts ++ ·)

theorem Spells.tokenize_eq (s : List Char) (ts : List Token) (h : Spells s ts) :
    tokenize s = some ts := by
  have e := h [] Stops.nil
  rw [List.append_nil, tokenize_nil] at e
  rw [e]
  simp

theorem Spells.append (s t : List Char) (ts us : List Token) (hs : Spells s ts) (ht : Spells t us)
    (hseam : ∀ rest, Stops rest → Stops (t ++ rest)) : Spells (s ++ t) (ts ++ us) := by
  intro rest hr
  rw [List.append_assoc, hs _ (hseam rest hr), ht rest hr, Option.map_map]
  congr 1
  funext x
  exact (List.append_assoc ts us x).symm

theorem Spells.number (text : List Char) (h : Numeral text) : Spells text [.number text] :=
  fun rest hr => tokenize_numeral text rest h (takeNumber_numeral text rest h hr)

theorem Spells.cons (c : Char) (t : Token) (s : List Char) (ts : List Token)
    (hn : ∀ cs, Token.next? c (s ++ cs) = some (t, s ++ cs)) (hs : Spells s ts) :
    Spells (c :: s) (t :: ts) := by
  intro rest hr
  rw [List.cons_append, tokenize_cons, hn rest, Option.bind_some]
  show (tokenize (s ++ rest)).map (t :: ·) = _
  rw [hs rest hr, Option.map_map]
  rfl

end FormulaGrid.Arith
