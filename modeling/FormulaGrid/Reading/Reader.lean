/-!
# Readers

* `Reader`   takes a value from the front of a list, or fails; what it takes is not empty;
* `Scan`     takes a value from the front of a list and never fails; it may take nothing.

A list gets shorter by every reader, so a reader can be used again and again until it fails: this is
the scan `Reader.many`.  The other functions put readers and scans one after the other
(`andThen`, `andScan`, `Scan.andRead`), choose between readers (`orElse`) and change what is read
(`map`, `filterMap`).
-/

namespace FormulaGrid

structure Reader (σ α : Type) where
  read : List σ → Option (α × List σ)
  /-- what is taken is not empty -/
  consumes : ∀ cs a rest, read cs = some (a, rest) → rest.length < cs.length

structure Scan (σ α : Type) where
  scan : List σ → α × List σ
  /-- nothing is put back -/
  shrinks : ∀ cs, (scan cs).2.length ≤ cs.length

variable {σ α β : Type}

/-! ## single elements -/

/-- reads nothing -/
def Reader.fail : Reader σ α := ⟨fun _ => none, fun _ _ _ h => by cases h⟩

/-- one element with a property -/
def Reader.satisfy (p : σ → Bool) : Reader σ σ where
  read
    | [] => none
    | c :: cs => if p c then some (c, cs) else none
  consumes := by
    intro cs a rest h
    split at h
    · cases h
    · split at h
      · simp only [Option.some.injEq, Prod.mk.injEq] at h
        obtain ⟨_, rfl⟩ := h
        exact Nat.lt_succ_self _
      · cases h

/-- one given element -/
def Reader.element [BEq σ] (c : σ) : Reader σ σ := Reader.satisfy (· == c)

/-- the longest stretch of elements with a property -/
def Scan.takeWhile (p : σ → Bool) : Scan σ (List σ) where
  scan cs := (cs.takeWhile p, cs.dropWhile p)
  shrinks _ := (List.dropWhile_sublist p).length_le

/-! ## other values -/

/-- the value changed -/
def Reader.map (f : α → β) (r : Reader σ α) : Reader σ β where
  read cs := (r.read cs).map fun (a, rest) => (f a, rest)
  consumes := by
    intro cs b rest h
    simp only [Option.map_eq_some_iff, Prod.exists, Prod.mk.injEq] at h
    obtain ⟨a, mid, hr, _, rfl⟩ := h
    exact r.consumes _ _ _ hr

/-- the value changed, or refused -/
def Reader.filterMap (f : α → Option β) (r : Reader σ α) : Reader σ β where
  read cs :=
    match r.read cs with
    | none => none
    | some (a, rest) => (f a).map (·, rest)
  consumes := by
    intro cs b rest h
    split at h
    · cases h
    · next a mid hr =>
      simp only [Option.map_eq_some_iff, Prod.mk.injEq] at h
      obtain ⟨_, _, _, rfl⟩ := h
      exact r.consumes _ _ _ hr

/-- the value changed -/
def Scan.map (f : α → β) (s : Scan σ α) : Scan σ β where
  scan cs := (f (s.scan cs).1, (s.scan cs).2)
  shrinks := s.shrinks

/-! ## one after the other, and one or the other -/

/-- the first reader, and if it fails the second -/
def Reader.orElse (r s : Reader σ α) : Reader σ α where
  read cs := (r.read cs).or (s.read cs)
  consumes := by
    intro cs a rest h
    rcases Option.or_eq_some_iff.mp h with h | ⟨_, h⟩
    · exact r.consumes _ _ _ h
    · exact s.consumes _ _ _ h

/-- the first reader that does not fail -/
def Reader.firstOf (rs : List (Reader σ α)) : Reader σ α := rs.foldr Reader.orElse Reader.fail

/-- a reader after a reader -/
def Reader.andThen (r : Reader σ α) (next : α → Reader σ β) : Reader σ β where
  read cs :=
    match r.read cs with
    | none => none
    | some (a, rest) => (next a).read rest
  consumes := by
    intro cs b rest h
    split at h
    · cases h
    · next a mid hr =>
      exact Nat.lt_trans ((next a).consumes _ _ _ h) (r.consumes _ _ _ hr)

/-- a value at once or a reader, after a reader -/
def Reader.andThenOr (r : Reader σ α) (next : α → β ⊕ Reader σ β) : Reader σ β where
  read cs :=
    match r.read cs with
    | none => none
    | some (a, rest) =>
      match next a with
      | .inl b => some (b, rest)
      | .inr s => s.read rest
  consumes := by
    intro cs b rest h
    split at h
    · cases h
    · next a mid hr =>
      split at h
      · simp only [Option.some.injEq, Prod.mk.injEq] at h
        obtain ⟨_, rfl⟩ := h
        exact r.consumes _ _ _ hr
      · next s _ => exact Nat.lt_trans (s.consumes _ _ _ h) (r.consumes _ _ _ hr)

/-- a scan after a reader -/
def Reader.andScan (r : Reader σ α) (next : α → Scan σ β) : Reader σ β where
  read cs :=
    match r.read cs with
    | none => none
    | some (a, rest) => some ((next a).scan rest)
  consumes := by
    intro cs b rest h
    split at h
    · cases h
    · next a mid hr =>
      have e : ((next a).scan mid).2 = rest := congrArg Prod.snd (Option.some.inj h)
      exact e ▸ Nat.lt_of_le_of_lt ((next a).shrinks mid) (r.consumes _ _ _ hr)

/-- a reader after a scan -/
def Scan.andRead (s : Scan σ α) (next : α → Reader σ β) : Reader σ β where
  read cs := (next (s.scan cs).1).read (s.scan cs).2
  consumes := by
    intro cs b rest h
    exact Nat.lt_of_lt_of_le ((next _).consumes _ _ _ h) (s.shrinks cs)

/-- a scan after a scan -/
def Scan.andThen (s : Scan σ α) (next : α → Scan σ β) : Scan σ β where
  scan cs := (next (s.scan cs).1).scan (s.scan cs).2
  shrinks cs := Nat.le_trans ((next _).shrinks _) (s.shrinks cs)

/-- a reader with a scan behind it whose value does not matter -/
def Reader.before (r : Reader σ α) (s : Scan σ β) : Reader σ α := r.andScan fun a => s.map fun _ => a

/-- a reader after a scan whose value does not matter -/
def Scan.skipThen (s : Scan σ β) (r : Reader σ α) : Reader σ α := s.andRead fun _ => r

/-- a reader after a reader whose value does not matter -/
def Reader.skipThen (s : Reader σ β) (r : Reader σ α) : Reader σ α := s.andThen fun _ => r

/-- a reader before a reader whose value does not matter -/
def Reader.followedBy (r : Reader σ α) (s : Reader σ β) : Reader σ α :=
  r.andThen fun a => s.map fun _ => a

/-! ## again and again -/

/-- the values of a reader until it fails, after those of `done`, which stand in reverse order -/
def Reader.manyOnto (r : Reader σ α) (done : List α) (cs : List σ) : List α × List σ :=
  match _h : r.read cs with
  | none => (done.reverse, cs)
  | some (a, rest) => r.manyOnto (a :: done) rest
termination_by cs.length
decreasing_by exact r.consumes _ _ _ _h

theorem Reader.length_manyOnto (r : Reader σ α) (done : List α) (cs : List σ) :
    (r.manyOnto done cs).2.length ≤ cs.length := by
  fun_induction Reader.manyOnto r done cs with
  | case1 => exact Nat.le_refl _
  | case2 done cs a rest h ih =>
    exact Nat.le_trans ih (Nat.le_of_lt (r.consumes _ _ _ h))

/-- the values of a reader until it fails -/
def Reader.many (r : Reader σ α) : Scan σ (List α) := ⟨r.manyOnto [], r.length_manyOnto []⟩

/-- one or more values of a reader -/
def Reader.many1 (r : Reader σ α) : Reader σ (List α) :=
  r.andScan fun a => r.many.map (a :: ·)

/-- the value of a reader, or nothing where it fails -/
def Reader.optional (r : Reader σ α) : Scan σ (Option α) where
  scan cs :=
    match r.read cs with
    | none => (none, cs)
    | some (a, rest) => (some a, rest)
  shrinks := by
    intro cs
    split
    · exact Nat.le_refl _
    · next h => exact Nat.le_of_lt (r.consumes _ _ _ h)

/-- one or more values of a reader with a separator between them -/
def Reader.separated (r : Reader σ α) (separator : Reader σ β) : Reader σ (List α) :=
  r.andScan fun a => (separator.andThen fun _ => r).many.map (a :: ·)

/-- given elements in a row -/
def Reader.elements [BEq σ] : (c : σ) → (cs : List σ) → Reader σ (List σ)
  | c, [] => (Reader.element c).map fun a => [a]
  | c, d :: cs => (Reader.element c).andThen fun a => (Reader.elements d cs).map (a :: ·)

/-- the value of a scan that takes the whole list -/
def Scan.all? (s : Scan σ α) (cs : List σ) : Option α :=
  match s.scan cs with
  | (a, []) => some a
  | _ => none

/-- the value of a reader that takes the whole list -/
def Reader.all? (r : Reader σ α) (cs : List σ) : Option α :=
  match r.read cs with
  | some (a, []) => some a
  | _ => none

end FormulaGrid
