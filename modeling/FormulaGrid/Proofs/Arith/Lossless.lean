import Mathlib.Data.List.Basic
import FormulaGrid.Proofs.Arith.Scanner
import FormulaGrid.Proofs.Arith.Seams

/-!
# Scanning loses nothing

* `EndsInWhole`      a text ends in digits of a number that has no point yet;
* `endsInWhole_iff`  where the text has tokens, its last one is such a number;
* `LonePoint`        a point that no number takes, told by the texts on both sides;
* `tokenize_eq_none_iff`   a text of arithmetic has no tokens if and only if it has such a point;
* `StarRun`          the stars between two texts, of which `tokenize_stars` says that they are read in pairs;
* `scan_loses_nothing`     both of the scanner: the one fault that stops it, and what it puts down otherwise.

A point that a digit follows is taken by a number in any case: by the one in front, if that has no point yet, or by the
one that it begins. So for a lone point both sides count, and in front of it the whole group of digits with the
character before them.
-/

namespace FormulaGrid.Arith

open Number

/-! ## numbers that have no point yet -/

/-- the text ends in digits, and in front of these stands neither a further digit nor a point -/
def EndsInWhole (before : List Char) : Prop :=
  ∃ s ds, before = s ++ ds ∧ ds ≠ [] ∧ ds.all Char.isDigit ∧ Closed s

/-- the digits at the end, and what ends in something else -/
theorem exists_last_digits (t : List Char) : ∃ s ds, t = s ++ ds ∧ ds.all Char.isDigit ∧
    ∀ c ∈ s.getLast?, c.isDigit = false := by
  obtain ⟨ds, s, e, hd, hs⟩ := exists_digits t.reverse
  refine ⟨s.reverse, ds.reverse, ?_, ?_, ?_⟩
  · rw [← List.reverse_append, ← e, List.reverse_reverse]
  · rwa [List.all_reverse]
  · rwa [List.getLast?_reverse]

/-- there is one such cut only -/
theorem last_digits_inj {s s' ds ds' : List Char} (hd : ds.all Char.isDigit) (hd' : ds'.all Char.isDigit)
    (hs : ∀ c ∈ s.getLast?, c.isDigit = false) (hs' : ∀ c ∈ s'.getLast?, c.isDigit = false)
    (e : s ++ ds = s' ++ ds') : s = s' ∧ ds = ds' := by
  have hnil : ∀ s a b : List Char, (a ++ b).all Char.isDigit → (∀ c ∈ (s ++ a).getLast?, c.isDigit = false) →
      a = [] := by
    intro s a b hab hlast
    by_contra hne
    have hmem : a.getLast hne ∈ (s ++ a).getLast? := by
      rw [List.getLast?_append_of_ne_nil s hne, List.getLast?_eq_some_getLast hne]
      rfl
    have hdigit := List.all_eq_true.mp hab _ (List.mem_append_left b (List.getLast_mem hne))
    rw [hlast _ hmem] at hdigit
    cases hdigit
  obtain ⟨a, rfl, rfl⟩ | ⟨a, rfl, rfl⟩ := List.append_eq_append_iff.mp e
  · obtain rfl := hnil s a ds' hd hs'
    exact ⟨(List.append_nil s).symm, rfl⟩
  · obtain rfl := hnil s' a ds hd' hs
    exact ⟨List.append_nil s', rfl⟩

theorem endsInWhole_append_digits (s ds : List Char) (hd : ds.all Char.isDigit)
    (hs : ∀ c ∈ s.getLast?, c.isDigit = false) : EndsInWhole (s ++ ds) ↔ ds ≠ [] ∧ s.getLast? ≠ some '.' := by
  constructor
  · rintro ⟨s', ds', e, hne, hd', hclosed⟩
    obtain ⟨rfl, rfl⟩ := last_digits_inj hd hd' hs (fun c hc => (hclosed c hc).1) e
    exact ⟨hne, fun hp => (hclosed '.' hp).2 rfl⟩
  · rintro ⟨hne, hp⟩
    refine ⟨s, ds, rfl, hne, hd, fun c hc => ⟨hs c hc, ?_⟩⟩
    rintro rfl
    exact hp hc

theorem endsInWhole_digits (ds : List Char) (hne : ds ≠ []) (hd : ds.all Char.isDigit) : EndsInWhole ds :=
  ⟨[], ds, rfl, hne, hd, fun _ hc => by cases hc⟩

theorem not_endsInWhole_of_closed (s : List Char) (h : Closed s) : ¬ EndsInWhole s := by
  rintro ⟨r, ds, rfl, hne, hd, _⟩
  exact not_closed_append r ds hne hd h

theorem not_endsInWhole_nil : ¬ EndsInWhole [] :=
  not_endsInWhole_of_closed [] fun _ h => (Option.not_mem_none _ h).elim

/-- behind a point are no digits of a number without one -/
theorem not_endsInWhole_point (s fs : List Char) (hf : fs.all Char.isDigit) : ¬ EndsInWhole (s ++ '.' :: fs) := by
  have hlast : (s ++ ['.']).getLast? = some '.' := List.getLast?_concat
  rw [List.append_cons, endsInWhole_append_digits (s ++ ['.']) fs hf (by rw [hlast]; rintro _ ⟨⟩; decide)]
  exact fun h => h.2 hlast

/-- the text in front does not matter, unless its end may go on -/
theorem endsInWhole_append (s t : List Char) (h : Closed s ∨ ∃ c ∈ t.head?, c.isDigit = false) :
    EndsInWhole (s ++ t) ↔ EndsInWhole t := by
  obtain ⟨r, ds, rfl, hd, hr⟩ := exists_last_digits t
  by_cases hne : r = []
  · subst hne
    have hclosed : Closed s := by
      refine h.resolve_right ?_
      rintro ⟨c, hc, hdigit⟩
      rw [List.all_eq_true.mp hd c (List.mem_of_head? hc)] at hdigit
      cases hdigit
    rw [← List.append_assoc, List.append_nil, endsInWhole_append_digits s ds hd fun c hc => (hclosed c hc).1,
      endsInWhole_append_digits [] ds hd hr]
    exact and_congr_right' (iff_of_true (fun hp => (hclosed '.' hp).2 rfl) (Option.some_ne_none '.').symm)
  · have hlast : (s ++ r).getLast? = r.getLast? := List.getLast?_append_of_ne_nil s hne
    rw [← List.append_assoc, endsInWhole_append_digits r ds hd hr,
      endsInWhole_append_digits (s ++ r) ds hd (by rwa [hlast]), hlast]

/-! ## behind a token -/

theorem Token.closed_spelling (t : Token) (h : ∀ text, t ≠ .number text) : Closed t.spelling := by
  intro c hc
  have hnot : ¬ (c.isDigit ∨ c = '.') := fun hnumeric =>
    (t.number_of_mem c (List.mem_of_getLast? hc) hnumeric).elim h
  obtain ⟨hd, hp⟩ := not_or.mp hnot
  exact ⟨Bool.eq_false_iff.mpr hd, hp⟩

theorem endsInWhole_spelling (t : Token) (hwf : t.WellFormed) :
    EndsInWhole t.spelling ↔ ∃ text, t = .number text ∧ '.' ∉ text := by
  cases t with
  | number text =>
    have hnumeral : Numeral text := hwf
    by_cases hp : '.' ∈ text
    · obtain ⟨ds, fs, e, _, hf, _⟩ := hnumeral.of_mem_point text hp
      refine iff_of_false (e ▸ not_endsInWhole_point ds fs hf) ?_
      rintro ⟨_, ⟨⟩, hnot⟩
      exact hnot hp
    · have hdigits : text.all Char.isDigit := List.all_eq_true.mpr fun c hc =>
        (hnumeral.mem text c hc).resolve_right fun e => hp (e ▸ hc)
      exact iff_of_true (endsInWhole_digits text (spelling_ne_nil (.number text) hwf) hdigits) ⟨text, rfl, hp⟩
  | _ => exact iff_of_false (not_endsInWhole_of_closed _ (Token.closed_spelling _ nofun)) nofun

/-- a token does not go on in what stands behind it -/
theorem endsInWhole_behind {c : Char} {cs : List Char} {t : Token} (before after : List Char)
    (hnext : Token.next? c cs = some (t, before ++ after)) (hne : before ≠ []) :
    EndsInWhole (t.spelling ++ before) ↔ EndsInWhole before := by
  cases t with
  | number text =>
    obtain ⟨d, before, rfl⟩ := List.exists_cons_of_ne_nil hne
    have hd := (Token.rest_of_number c cs text _ hnext d rfl).1
    exact endsInWhole_append text (d :: before) (Or.inr ⟨d, rfl, hd⟩)
  | _ => exact endsInWhole_append _ before (Or.inl (Token.closed_spelling _ nofun))

/-- **Where a text has tokens, `EndsInWhole` says that the last of them is a number without a point.** -/
theorem endsInWhole_iff (cs : List Char) (ts : List Token) (h : tokenize cs = some ts) :
    EndsInWhole cs ↔ ∃ text, ts.getLast? = some (.number text) ∧ '.' ∉ text := by
  generalize hn : cs.length = n
  induction n using Nat.strongRecOn generalizing cs ts with
  | ind n ih =>
    cases cs with
    | nil =>
      rw [tokenize_nil] at h
      obtain rfl := Option.some.inj h
      exact iff_of_false not_endsInWhole_nil nofun
    | cons c cs =>
      obtain ⟨t, rest, us, hnext, hus, rfl⟩ := tokenize_eq_some_cons c cs ts h
      have hsplit := Token.spelling_of_next? c cs t rest hnext
      have hlen := Token.length_of_next? c cs t rest hnext
      by_cases hne : rest = []
      · subst hne
        rw [tokenize_nil] at hus
        obtain rfl := Option.some.inj hus
        rw [List.append_nil] at hsplit
        rw [← hsplit, endsInWhole_spelling t (Token.wellFormed_of_next? c cs t [] hnext), List.getLast?_singleton]
        simp only [Option.some.injEq]
      · have hus' : us ≠ [] := by
          rintro rfl
          exact hne (spelling_of_tokenize rest [] hus).1.symm
        rw [← hsplit, endsInWhole_behind rest [] (by rwa [List.append_nil]) hne,
          ih rest.length (hn ▸ hlen) rest us hus rfl, List.getLast?_cons_of_ne_nil hus']

/-- in front of a point behind it a token does not matter: a number that has no point yet would have taken it -/
theorem endsInWhole_of_next? {c : Char} {cs : List Char} {t : Token} {before after : List Char}
    (hnext : Token.next? c cs = some (t, before ++ '.' :: after)) :
    EndsInWhole (t.spelling ++ before) ↔ EndsInWhole before := by
  by_cases hne : before = []
  · subst hne
    rw [List.append_nil, endsInWhole_spelling t (Token.wellFormed_of_next? c cs t _ hnext)]
    refine iff_of_false ?_ not_endsInWhole_nil
    rintro ⟨text, rfl, hp⟩
    exact hp ((Token.rest_of_number c cs text _ hnext '.' rfl).2 rfl)
  · exact endsInWhole_behind before _ hnext hne

/-! ## lone points -/

/-- a point between two texts that belongs to no number: no digit follows, and no number in front takes it -/
structure LonePoint (before after : List Char) : Prop where
  behind : ∀ c ∈ after.head?, c.isDigit = false
  front : ¬ EndsInWhole before

def HasLonePoint (cs : List Char) : Prop := ∃ before after, cs = before ++ '.' :: after ∧ LonePoint before after

/-- the point of a number is no lone one -/
theorem not_lonePoint_of_numeral (p q r : List Char) (h : Numeral (p ++ '.' :: q)) : ¬ LonePoint p (q ++ r) := by
  obtain ⟨ds, fs, e, hd, hf, hne⟩ := h.of_mem_point _ (List.mem_append_right p List.mem_cons_self)
  have hnot : ∀ ds : List Char, ds.all Char.isDigit → '.' ∉ ds := fun ds hd hp =>
    absurd (List.all_eq_true.mp hd '.' hp) (by decide)
  obtain ⟨rfl, _, rfl⟩ := (List.append_cons_inj_of_notMem (hnot ds hd) (hnot fs hf)).mp e.symm
  rintro ⟨hbehind, hfront⟩
  rcases hne with hne | hne
  · exact hfront (endsInWhole_digits ds hne hd)
  · obtain ⟨f, fs, rfl⟩ := List.exists_cons_of_ne_nil hne
    have hdigit := List.all_eq_true.mp hf f List.mem_cons_self
    rw [hbehind f rfl] at hdigit
    cases hdigit

/-- a text has a lone point if it has one behind its first token -/
theorem hasLonePoint_of_next? {c : Char} {cs : List Char} {t : Token} {rest : List Char}
    (hnext : Token.next? c cs = some (t, rest)) : HasLonePoint (c :: cs) ↔ HasLonePoint rest := by
  have hsplit := Token.spelling_of_next? c cs t rest hnext
  have hwf := Token.wellFormed_of_next? c cs t rest hnext
  rw [← hsplit]
  constructor
  · rintro ⟨before, after, e, hbehind, hfront⟩
    obtain ⟨as, rfl, rfl⟩ | ⟨bs, hspelling, hafter⟩ := List.append_eq_append_iff.mp e
    · exact ⟨as, after, rfl, hbehind, by rwa [endsInWhole_of_next? hnext] at hfront⟩
    · cases bs with
      | nil => exact ⟨[], after, hafter.symm, hbehind, not_endsInWhole_nil⟩
      | cons b bs =>
        -- the point stands inside the token, which then is a number
        obtain ⟨rfl, rfl⟩ := List.cons.inj hafter
        have hmem : '.' ∈ t.spelling := hspelling ▸ List.mem_append_right before List.mem_cons_self
        obtain ⟨text, rfl⟩ := t.number_of_mem '.' hmem (Or.inr rfl)
        obtain rfl : text = before ++ '.' :: bs := hspelling
        exact absurd ⟨hbehind, hfront⟩ (not_lonePoint_of_numeral before bs rest hwf)
  · rintro ⟨before, after, rfl, hbehind, hfront⟩
    refine ⟨t.spelling ++ before, after, (List.append_assoc ..).symm, hbehind, ?_⟩
    rwa [endsInWhole_of_next? hnext]

/-- **A text of arithmetic has no tokens if and only if it has a lone point.** -/
theorem tokenize_eq_none_iff (cs : List Char) (hcs : cs.all isAllowed) : tokenize cs = none ↔ HasLonePoint cs := by
  generalize hn : cs.length = n
  induction n using Nat.strongRecOn generalizing cs with
  | ind n ih =>
    cases cs with
    | nil =>
      rw [tokenize_nil]
      refine iff_of_false (Option.some_ne_none _) ?_
      rintro ⟨before, after, e, _⟩
      exact List.append_ne_nil_of_right_ne_nil before (List.cons_ne_nil _ _) e.symm
    | cons c cs =>
      have hc := List.all_eq_true.mp hcs c List.mem_cons_self
      rw [tokenize_cons]
      cases hnext : Token.next? c cs with
      | none =>
        obtain ⟨rfl, hbehind⟩ := (Token.next?_eq_none_iff c cs hc).mp hnext
        exact iff_of_true rfl ⟨[], cs, rfl, hbehind, not_endsInWhole_nil⟩
      | some found =>
        obtain ⟨t, rest⟩ := found
        have hlen := Token.length_of_next? c cs t rest hnext
        have hrest : rest.all isAllowed := by
          rw [← Token.spelling_of_next? c cs t rest hnext, List.all_append, Bool.and_eq_true] at hcs
          exact hcs.2
        rw [Option.bind_some, Option.map_eq_none_iff, ih rest.length (hn ▸ hlen) rest hrest rfl,
          hasLonePoint_of_next? hnext]

/-! ## runs of stars -/

theorem tokenize_stars (k : Nat) : tokenize (List.replicate k '*') =
    some (List.replicate (k / 2) .power ++ List.replicate (k % 2) .star) := by
  induction k using Nat.twoStepInduction with
  | zero => exact tokenize_nil
  | one =>
    rw [List.replicate_one, tokenize_cons]
    show (tokenize []).map (.star :: ·) = _
    rw [tokenize_nil]
    rfl
  | more k ih _ =>
    rw [List.replicate_succ, List.replicate_succ, tokenize_cons]
    show (tokenize (List.replicate k '*')).map (.power :: ·) = _
    rw [ih, Nat.add_div_right k Nat.two_pos, Nat.add_mod_right, List.replicate_succ]
    rfl

/-- the stars between two texts that neither end nor begin with one -/
structure StarRun (cs before : List Char) (k : Nat) (after : List Char) : Prop where
  eq_append : cs = before ++ (List.replicate k '*' ++ after)
  pos : 0 < k
  first : before.getLast? ≠ some '*'
  last : after.head? ≠ some '*'

/-- the tokens on both sides of a run are those of the texts there -/
theorem StarRun.tokenize_eq {cs before : List Char} {k : Nat} {after : List Char} (h : StarRun cs before k after) :
    tokenize cs = (tokenize before).bind fun us => (tokenize after).map fun vs =>
      us ++ (List.replicate (k / 2) .power ++ List.replicate (k % 2) .star ++ vs) := by
  obtain ⟨n, rfl⟩ := Nat.exists_eq_succ_of_ne_zero (Nat.ne_of_gt h.pos)
  have hstops : Stops (List.replicate (n + 1) '*' ++ after) :=
    Stops.cons '*' (List.replicate n '*' ++ after) (by decide) (by decide)
  have hclosed : Closed (List.replicate (n + 1) '*') := by
    intro c hc
    rw [List.eq_of_mem_replicate (List.mem_of_getLast? hc)]
    decide
  rw [h.eq_append, tokenize_append before _ ⟨fun e => absurd e h.first, Or.inl hstops⟩,
    tokenize_append _ after ⟨fun _ => h.last, Or.inr hclosed⟩, tokenize_stars, Option.bind_some]
  simp only [Option.map_map]
  rfl

/-! ## scanning -/

/-- **Scanning loses nothing, and nothing but a lone point stops it.** A text of arithmetic has no tokens if and only
if it has a lone point, and that is the fault. Otherwise the scanner puts down the tokens and, once and last, the end of
the text. The tokens spell the text, the numbers among them have values, and a run of stars has come as pairs, with one
star behind them if their number is odd. -/
theorem scan_loses_nothing (cs : List Char) (hcs : cs.all isAllowed) :
    (tokenize cs = none ↔ HasLonePoint cs) ∧
    (∀ fault, scan cs = .error fault ↔ HasLonePoint cs ∧ fault = .lonePoint) ∧
    ∀ ts, tokenize cs = some ts →
      scan cs = .ok (ts.map .token ++ [.ending]) ∧
      ts.flatMap Token.spelling = cs ∧
      (∀ text, .number text ∈ ts → ∃ v, readFloat? text = some v) ∧
      ∀ before k after, StarRun cs before k after → ∃ us vs,
        ts = us ++ (List.replicate (k / 2) .power ++ List.replicate (k % 2) .star ++ vs) ∧
        us.flatMap Token.spelling = before ∧ vs.flatMap Token.spelling = after := by
  have hnone := tokenize_eq_none_iff cs hcs
  refine ⟨hnone, fun fault => ?_, fun ts hts => ?_⟩
  · rw [← hnone]
    cases hts : tokenize cs with
    | none => simp [scan_of_tokenize_none hcs hts, eq_comm]
    | some ts => simp [scan_of_tokenize ts hts]
  · obtain ⟨hspelling, hwf⟩ := spelling_of_tokenize cs ts hts
    refine ⟨scan_of_tokenize ts hts, hspelling, fun text hmem => ?_, fun before k after hrun => ?_⟩
    · have hnumeral : Numeral text := hwf _ hmem
      obtain ⟨d, hd⟩ := hnumeral.exists_decimal
      exact ⟨d.toFloat, by rw [hnumeral.readFloat?_eq, hd]; rfl⟩
    · rw [hrun.tokenize_eq] at hts
      obtain ⟨us, hus, hts⟩ := Option.bind_eq_some_iff.mp hts
      obtain ⟨vs, hvs, rfl⟩ := Option.map_eq_some_iff.mp hts
      exact ⟨us, vs, rfl, (spelling_of_tokenize before us hus).1, (spelling_of_tokenize after vs hvs).1⟩

/-- two numbers that touch and a run of three stars, and a number that has its point -/
theorem scan_touching_numbers_and_stars :
    let cs := ['1', '.', '2', '.', '3', '*', '*', '*', '4', '.']
    let ts : List Token := [.number ['1', '.', '2'], .number ['.', '3'], .power, .star, .number ['4', '.']]
    (cs.all isAllowed ∧ tokenize cs = some ts ∧ StarRun cs (cs.take 5) 3 (cs.drop 8) ∧
      ¬ HasLonePoint cs ∧ scan cs = .ok (ts.map .token ++ [.ending]) ∧
      ∃ us vs, ts = us ++ ([.power, .star] ++ vs) ∧ us.flatMap Token.spelling = cs.take 5 ∧
        vs.flatMap Token.spelling = cs.drop 8) ∧
    scan ['.', '5', '.'] = .error .lonePoint := by
  intro cs ts
  have hcs : cs.all isAllowed := by decide
  have hts : tokenize cs = some ts := by decide +kernel
  have hrun : StarRun cs (cs.take 5) 3 (cs.drop 8) := ⟨rfl, by decide, by decide, by decide⟩
  have hlone : LonePoint ['.', '5'] [] :=
    ⟨fun _ h => (Option.not_mem_none _ h).elim, not_endsInWhole_point [] ['5'] (by decide)⟩
  obtain ⟨hnone, _, hsome⟩ := scan_loses_nothing cs hcs
  obtain ⟨hscan, _, _, hstars⟩ := hsome ts hts
  refine ⟨⟨hcs, hts, hrun, fun h => ?_, hscan, hstars _ 3 _ hrun⟩, ?_⟩
  · rw [hnone.mpr h] at hts
    cases hts
  · exact ((scan_loses_nothing ['.', '5', '.'] (by decide)).2.1 .lonePoint).mpr ⟨⟨['.', '5'], [], rfl, hlone⟩, rfl⟩

end FormulaGrid.Arith
