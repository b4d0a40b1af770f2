import Mathlib.Data.List.Chain
import FormulaGrid.Proofs.Arith.Tokens

/-!
# Tokens at the seam of two texts

* `tokenize_append`     two texts put together have the tokens of the one and then those of the other,
                        unless a number or a star at the seam goes on;
* `Token.Apart`         the first of two tokens does not go on with the second;
* `isChain_tokenize`    no token of a text goes on with the next: each is as long as it can be.

`Spells` is about texts that end in a complete part.  Here the text in front may end anywhere, so it
may have no tokens at all, and then the whole has none.
-/

namespace FormulaGrid.Arith

open Number

/-! ## numbers in front of a seam -/

/-- the text ends in neither a digit nor a point -/
def Closed (cs : List Char) : Prop := ∀ c ∈ cs.getLast?, c.isDigit = false ∧ c ≠ '.'

theorem not_closed_append (s ds : List Char) (hne : ds ≠ []) (hd : ds.all Char.isDigit) :
    ¬ Closed (s ++ ds) := by
  intro h
  have hlast := List.getLast?_eq_some_getLast hne
  have hdigit := (h (ds.getLast hne) (by rw [List.getLast?_append, hlast]; rfl)).1
  rw [List.all_eq_true.mp hd _ (List.getLast_mem hne)] at hdigit
  cases hdigit

theorem not_closed_point (s fs : List Char) (hf : fs.all Char.isDigit) : ¬ Closed (s ++ '.' :: fs) := by
  by_cases hne : fs = []
  · rw [hne]
    exact fun h => (h '.' (by simp)).2 rfl
  · rw [← List.singleton_append, ← List.append_assoc]
    exact not_closed_append _ fs hne hf

theorem head_dropWhile_digits (s : List Char) :
    ∀ c ∈ (s.dropWhile Char.isDigit).head?, c.isDigit = false := by
  intro c hc
  have h := List.head?_dropWhile_not Char.isDigit s
  rwa [Option.mem_def.mp hc] at h

/-- the digits in front, and what begins with something else -/
theorem exists_digits (s : List Char) : ∃ ds r, s = ds ++ r ∧ ds.all Char.isDigit ∧
    ∀ c ∈ r.head?, c.isDigit = false :=
  ⟨_, _, List.takeWhile_append_dropWhile.symm, List.all_takeWhile, head_dropWhile_digits s⟩

theorem head?_append_of_forall {p : Char → Prop} (s t : List Char) (hs : ∀ c ∈ s.head?, p c)
    (ht : s = [] → ∀ c ∈ t.head?, p c) : ∀ c ∈ (s ++ t).head?, p c := by
  cases s with
  | nil => exact ht rfl
  | cons c s => exact hs

/-- what is cut off as a number of a text is cut off if another text follows, unless that goes on -/
theorem takeNumber_append_right (s t : List Char) (hne : s ≠ []) (h : Stops t ∨ Closed s) :
    takeNumber (s ++ t) = ((takeNumber s).1, (takeNumber s).2 ++ t) := by
  obtain ⟨ds, r, rfl, hd, hr⟩ := exists_digits s
  cases r with
  | nil =>
    rw [List.append_nil] at hne h ⊢
    have ht : Stops t := h.resolve_right (not_closed_append [] ds hne hd)
    have e := takeNumber_digits ds [] hd Stops.nil
    rw [List.append_nil] at e
    rw [takeNumber_digits ds t hd ht, e]
    rfl
  | cons c r =>
    by_cases hp : c = '.'
    · subst hp
      obtain ⟨fs, q, rfl, hf, hq⟩ := exists_digits r
      have hqt : ∀ c ∈ (q ++ t).head?, c.isDigit = false := by
        refine head?_append_of_forall q t hq ?_
        rintro rfl c hc
        rw [List.append_nil] at h
        exact (h.resolve_right (not_closed_point ds fs hf) c hc).1
      rw [← List.cons_append, ← List.append_assoc, List.append_assoc _ q t,
        takeNumber_point ds fs q hd hf hq, takeNumber_point ds fs (q ++ t) hd hf hqt]
    · have hstop : ∀ u, Stops (c :: u) := fun u => Stops.cons c u (hr c rfl) hp
      rw [List.append_assoc, takeNumber_digits ds _ hd (hstop _), List.cons_append,
        takeNumber_digits ds _ hd (hstop _)]

/-! ## tokens in front of a seam -/

/-- the text does not go on in the next: no star at its end with a star, and no number -/
def Separate (s t : List Char) : Prop :=
  (s.getLast? = some '*' → t.head? ≠ some '*') ∧ (Stops t ∨ Closed s)

theorem Separate.of_append (s s' t : List Char) (h : Separate (s ++ s') t) : Separate s' t := by
  by_cases hne : s' = []
  · subst hne
    exact ⟨fun e => (Option.some_ne_none _ e.symm).elim, Or.inr fun _ e => by cases e⟩
  · have hlast : (s ++ s').getLast? = s'.getLast? := by
      rw [List.getLast?_append, List.getLast?_eq_some_getLast hne]
      rfl
    rwa [Separate, Closed, hlast] at h

/-- the token in front is the same if another text follows -/
theorem Token.next?_append (c : Char) (s t : List Char) (h : Separate (c :: s) t) :
    Token.next? c (s ++ t) = (Token.next? c s).map fun (a, rest) => (a, rest ++ t) := by
  have htake := takeNumber_append_right (c :: s) t (List.cons_ne_nil c s) h.2
  rw [List.cons_append] at htake
  fun_cases Token.next? c s with
  | case4 _ hstar =>
    -- a star by itself stays one: the next character is no star, in the text or behind it
    rw [Token.next?]
    · rfl
    · intro cs e
      cases s with
      | nil => exact h.1 rfl (by rw [List.nil_append] at e; rw [e]; rfl)
      | cons d s => exact hstar s (by rw [(List.cons.inj e).1])
  | case8 =>
    have hnext : Token.next? c (s ++ t) = Token.ofNumber? (takeNumber (c :: (s ++ t))) := by
      rw [Token.next?] <;> try assumption
      exact fun _ e _ => ‹c = '*' → False› e
    rw [hnext, htake, Token.ofNumber?, Token.ofNumber?]
    split
    · rfl
    · rfl
  | _ => rfl

/-- **The tokens of two texts put together**, unless the one goes on in the other. -/
theorem tokenize_append (s t : List Char) (h : Separate s t) :
    tokenize (s ++ t) = (tokenize s).bind fun ts => (tokenize t).map (ts ++ ·) := by
  generalize hn : s.length = n
  induction n using Nat.strongRecOn generalizing s with
  | ind n ih =>
    cases s with
    | nil =>
      rw [List.nil_append, tokenize_nil, Option.bind_some]
      exact Option.map_id'.symm
    | cons c s =>
      rw [List.cons_append, tokenize_cons, tokenize_cons, Token.next?_append c s t h]
      cases hnext : Token.next? c s with
      | none => rfl
      | some next =>
        obtain ⟨a, rest⟩ := next
        have hsplit := Token.spelling_of_next? c s a rest hnext
        have hlen := Token.length_of_next? c s a rest hnext
        rw [← hsplit] at h
        show (tokenize (rest ++ t)).map (a :: ·) =
          ((tokenize rest).map (a :: ·)).bind fun ts => (tokenize t).map (ts ++ ·)
        rw [ih rest.length (hn ▸ hlen) rest (h.of_append a.spelling rest t) rfl]
        cases tokenize rest with
        | none => rfl
        | some ts =>
          rw [Option.bind_some, Option.map_map]
          rfl

/-! ## tokens beside each other -/

/-- the first token is not the beginning of a longer one that goes on with the second -/
def Token.Apart (a b : Token) : Prop := ∀ text, a = .number text → ∀ c ∈ b.spelling.head?,
  c.isDigit = false ∧ (c = '.' → '.' ∈ text)

/-- what is left goes on neither with digits nor with the first point -/
theorem takeNumber_rest (cs : List Char) : ∀ c ∈ (takeNumber cs).2.head?,
    c.isDigit = false ∧ (c = '.' → '.' ∈ (takeNumber cs).1) := by
  unfold takeNumber
  split
  · next rest _ =>
    exact fun c hc => ⟨head_dropWhile_digits rest c hc, fun _ =>
      List.mem_append_right _ List.mem_cons_self⟩
  · next h =>
    intro c hc
    refine ⟨head_dropWhile_digits cs c hc, ?_⟩
    rintro rfl
    obtain ⟨rest, e⟩ := List.head?_eq_some_iff.mp hc
    exact absurd e (h rest)

/-- a token that is a number was cut off as one -/
theorem Token.number_of_next? (c : Char) (cs text rest : List Char)
    (h : Token.next? c cs = some (.number text, rest)) : takeNumber (c :: cs) = (text, rest) := by
  unfold Token.next? at h
  split at h
  case h_8 =>
    unfold Token.ofNumber? at h
    split at h
    · cases h
    · simp only [Option.some.injEq, Prod.mk.injEq, Token.number.injEq] at h
      exact Prod.ext h.1 h.2
  all_goals cases h

/-- what stands behind a number does not go on with it -/
theorem Token.rest_of_number (c : Char) (cs text rest : List Char)
    (h : Token.next? c cs = some (.number text, rest)) :
    ∀ d ∈ rest.head?, d.isDigit = false ∧ (d = '.' → '.' ∈ text) := by
  have hrest := takeNumber_rest (c :: cs)
  rwa [Token.number_of_next? c cs text rest h] at hrest

/-- **Every token is as long as it can be.** -/
theorem isChain_tokenize (cs : List Char) (ts : List Token) (h : tokenize cs = some ts) :
    ts.IsChain Token.Apart := by
  generalize hn : cs.length = n
  induction n using Nat.strongRecOn generalizing cs ts with
  | ind n ih =>
    cases cs with
    | nil =>
      rw [tokenize_nil] at h
      obtain rfl := Option.some.inj h
      exact List.isChain_nil
    | cons c cs =>
      obtain ⟨t, rest, us, hnext, hus, rfl⟩ := tokenize_eq_some_cons c cs ts h
      have hlen := Token.length_of_next? c cs t rest hnext
      have hchain := ih rest.length (hn ▸ hlen) rest us hus rfl
      cases us with
      | nil => exact List.isChain_singleton t
      | cons u us =>
        refine List.isChain_cons_cons.mpr ⟨?_, hchain⟩
        rintro text rfl d hd
        have hrest : d ∈ rest.head? := by
          rw [← (spelling_of_tokenize rest _ hus).1, List.flatMap_cons, List.head?_append, Option.mem_def.mp hd]
          rfl
        exact Token.rest_of_number c cs text rest hnext d hrest

end FormulaGrid.Arith
