import Mathlib.Algebra.Order.BigOperators.Group.List
import Mathlib.Algebra.Order.Ring.Int
import FormulaGrid.Document.Operation
import FormulaGrid.Proofs.Number.Word
import FormulaGrid.Proofs.Sheet.Cells

/-!
# Moves of the selection

* `nearest`          the place in a row of places that is nearest to an integer;
* `nearestCell`      the cell of the grid that is nearest to two integers;
* `Ready`            the selection lies in the grid and nothing is edited: `Ready.move`;
* `walk`             moves one after the other;
* `SameWay`, `OneWay`   offsets that do not go back: `walk_of_oneWay`, one move by their sum;
* `unitMoves`        a move as moves to neighbouring cells;
* `min_saturatingAdd`   the same place is found in words, where a sum may leave them;
* `move_is_clamped_walk`   a move goes to the nearest cell, and so do its unit moves in any order.
-/

namespace FormulaGrid.Document

open Number (saturatingAdd toNat_saturatingAdd maxIndex)

/-! ## places -/

/-- two offsets that do not have opposite directions -/
def SameWay (a b : Int) : Prop := 0 ≤ a ∧ 0 ≤ b ∨ a ≤ 0 ∧ b ≤ 0

/-- the integer clamped into the places from `0` on of which there are `n` -/
def nearest (n : Nat) (x : Int) : Nat := (max 0 (min x (n - 1))).toNat

section
variable (n : Nat)

theorem min_toNat_eq_nearest (x : Int) : min x.toNat (n - 1) = nearest n x := by
  unfold nearest
  omega

theorem nearest_of_lt (x : Nat) (h : x < n) : nearest n x = x := by
  unfold nearest
  omega

theorem nearest_lt (h : 0 < n) (x : Int) : nearest n x < n := by
  unfold nearest
  omega

/-- two offsets in one direction may be taken one after the other -/
theorem nearest_add (x : Nat) (h : x < n) (a b : Int) (hab : SameWay a b) :
    nearest n (nearest n (x + a) + b) = nearest n (x + (a + b)) := by
  unfold SameWay at hab
  unfold nearest
  omega

/-- in words the sum may be cut off, at a place behind the last one or at the first -/
theorem min_saturatingAdd (hn : n < 2 ^ 64) (x : Nat) (h : x < n) (d : Int64) :
    min (saturatingAdd (UInt64.ofNat x) d).toNat (n - 1) = nearest n (x + d.toInt) := by
  have hsum := toNat_saturatingAdd (UInt64.ofNat x) d
  have hword : (UInt64.ofNat x).toNat = x := UInt64.toNat_ofNat_of_lt (Nat.lt_trans h hn)
  have hmax : maxIndex = 2 ^ 64 - 1 := rfl
  rw [hword] at hsum
  unfold nearest
  omega

end

/-! ## single moves -/

/-- the cell of the grid nearest to a row and a column that may lie outside -/
def nearestCell (document : Document) (row col : Int) : CellRef :=
  ⟨nearest document.rows row, nearest document.cols col⟩

/-- the document with another cell selected, and the same in all else -/
def selecting (document : Document) (cell : CellRef) : Document := { document with selection := cell }

/-- the selection lies in the grid, and it can be moved -/
structure Ready (document : Document) : Prop where
  selected : document.sheet.contains document.selection.row document.selection.col
  editing_eq : document.editing = false

section
variable {document : Document} (h : Ready document)
include h

theorem Ready.lt : document.selection.row < document.rows ∧ document.selection.col < document.cols :=
  (document.sheet.contains_iff _ _).mp h.selected

theorem Ready.move (rows cols : Int) : document.move rows cols = (document.selecting
    (document.nearestCell (document.selection.row + rows) (document.selection.col + cols)), true) := by
  have he : ¬ document.editing = true := Bool.eq_false_iff.mp h.editing_eq
  rw [Document.move, if_neg he]
  simp only [clamp, min_toNat_eq_nearest]
  rfl

theorem Ready.selecting (row col : Int) : Ready (document.selecting (document.nearestCell row col)) where
  selected := by
    obtain ⟨hrow, hcol⟩ := h.lt
    rw [Sheet.contains_iff]
    exact ⟨nearest_lt _ (Nat.zero_lt_of_lt hrow) row, nearest_lt _ (Nat.zero_lt_of_lt hcol) col⟩
  editing_eq := h.editing_eq

/-- a move by nothing -/
theorem Ready.move_zero : document.move 0 0 = (document, true) := by
  obtain ⟨hrow, hcol⟩ := h.lt
  rw [h.move, Int.add_zero, Int.add_zero, nearestCell, nearest_of_lt _ _ hrow, nearest_of_lt _ _ hcol]
  rfl

/-- **Two moves that do not go back are one**, also where the first one ends at the edge of the grid. -/
theorem Ready.move_move (rows cols rows' cols' : Int) (hrows : SameWay rows rows') (hcols : SameWay cols cols') :
    (document.move rows cols).1.move rows' cols' = document.move (rows + rows') (cols + cols') := by
  obtain ⟨hrow, hcol⟩ := h.lt
  have hrow' := nearest_add _ _ hrow rows rows' hrows
  have hcol' := nearest_add _ _ hcol cols cols' hcols
  rw [h.move, (h.selecting _ _).move, h.move]
  simp only [Document.selecting, nearestCell, Document.rows, Document.cols] at hrow' hcol' ⊢
  rw [hrow', hcol']

end

/-! ## walks -/

/-- the document after moves, and whether all of them were made -/
def walk (document : Document) : List (Int × Int) → Document × Bool
  | [] => (document, true)
  | (rows, cols) :: moves =>
    match document.move rows cols with
    | (next, true) => walk next moves
    | (next, false) => (next, false)

theorem Ready.walk_cons {document : Document} (h : Ready document) (rows cols : Int) (moves : List (Int × Int)) :
    document.walk ((rows, cols) :: moves) = (document.move rows cols).1.walk moves := by
  rw [walk, h.move]

/-- no two offsets have opposite directions -/
def OneWay (offsets : List Int) : Prop := (∀ a ∈ offsets, 0 ≤ a) ∨ ∀ a ∈ offsets, a ≤ 0

theorem OneWay.tail {a : Int} {offsets : List Int} (h : OneWay (a :: offsets)) : OneWay offsets :=
  h.imp (fun h b hb => h b (List.mem_cons_of_mem a hb)) fun h b hb => h b (List.mem_cons_of_mem a hb)

/-- the first offset has the direction of all others together -/
theorem OneWay.head {a : Int} {offsets : List Int} (h : OneWay (a :: offsets)) : SameWay a offsets.sum := by
  rcases h with h | h
  · obtain ⟨ha, hrest⟩ := List.forall_mem_cons.mp h
    exact .inl ⟨ha, List.sum_nonneg hrest⟩
  · obtain ⟨ha, hrest⟩ := List.forall_mem_cons.mp h
    have hsum := List.sum_le_card_nsmul offsets 0 hrest
    rw [nsmul_zero] at hsum
    exact .inr ⟨ha, hsum⟩

/-- **Moves that do not go back add up**, though each of them stops at the edge of the grid. -/
theorem walk_of_oneWay (moves : List (Int × Int)) {document : Document} (h : Ready document)
    (hrows : OneWay (moves.map Prod.fst)) (hcols : OneWay (moves.map Prod.snd)) :
    document.walk moves = document.move (moves.map Prod.fst).sum (moves.map Prod.snd).sum := by
  induction moves generalizing document with
  | nil => exact h.move_zero.symm
  | cons move moves ih =>
    obtain ⟨rows, cols⟩ := move
    have hnext : Ready (document.move rows cols).1 := by
      rw [h.move]
      exact h.selecting _ _
    rw [h.walk_cons, ih hnext hrows.tail hcols.tail, h.move_move _ _ _ _ hrows.head hcols.head]
    rfl

/-! ## unit moves -/

/-- a move taken apart into moves by one row or one column -/
def unitMoves (rows cols : Int) : List (Int × Int) :=
  List.replicate rows.natAbs (rows.sign, 0) ++ List.replicate cols.natAbs (0, cols.sign)

/-- offsets of one step in a direction, among others of none, in any order -/
theorem oneWay_of_perm (d : Int) (n : Nat) (offsets : List Int)
    (h : offsets.Perm (List.replicate d.natAbs d.sign ++ List.replicate n 0)) :
    OneWay offsets ∧ offsets.sum = d := by
  have hmem : ∀ a ∈ offsets, a = d.sign ∨ a = 0 := fun a ha =>
    (List.mem_append.mp (h.mem_iff.mp ha)).imp List.eq_of_mem_replicate List.eq_of_mem_replicate
  constructor
  · rcases Int.le_total 0 d with hd | hd
    · left
      intro a ha
      have hsign : 0 ≤ d.sign := Int.sign_nonneg_iff.mpr hd
      rcases hmem a ha with rfl | rfl
      · exact hsign
      · exact Int.le_refl 0
    · right
      intro a ha
      have hsign : d.sign ≤ 0 := Int.sign_nonpos_iff.mpr hd
      rcases hmem a ha with rfl | rfl
      · exact hsign
      · exact Int.le_refl 0
  · rw [h.sum_eq, List.sum_append, List.sum_replicate_int, List.sum_replicate_int, Int.mul_zero, Int.add_zero,
      Int.mul_comm, Int.sign_mul_natAbs]

/-- **Unit moves may be made in any order.** -/
theorem walk_of_perm (rows cols : Int) {document : Document} (h : Ready document) (moves : List (Int × Int))
    (hmoves : moves.Perm (unitMoves rows cols)) : document.walk moves = document.move rows cols := by
  have hfst := hmoves.map Prod.fst
  have hsnd := hmoves.map Prod.snd
  rw [unitMoves, List.map_append, List.map_replicate, List.map_replicate] at hfst hsnd
  obtain ⟨hrows, hrowsum⟩ := oneWay_of_perm rows _ _ hfst
  obtain ⟨hcols, hcolsum⟩ := oneWay_of_perm cols _ _ (hsnd.trans List.perm_append_comm)
  rw [walk_of_oneWay moves h hrows hcols, hrowsum, hcolsum]

/-- **A move goes to the nearest cell of the grid, as do its unit moves.** It is always made while nothing is
edited, and selects the cell with the row and the column moved to, both clamped as integers; nothing else is
changed. The same cell is reached row by row and column by column in any order, and it is found in words, too,
where the sums are cut off at the ends of the words. -/
theorem move_is_clamped_walk (document : Document)
    (hin : document.sheet.contains document.selection.row document.selection.col) (he : document.editing = false)
    (rows cols : Int) :
    let target : CellRef := ⟨(max 0 (min (document.selection.row + rows) (document.rows - 1))).toNat,
      (max 0 (min (document.selection.col + cols) (document.cols - 1))).toNat⟩
    document.move rows cols = ({ document with selection := target }, true) ∧
    (∀ moves, moves.Perm (unitMoves rows cols) →
      document.walk moves = ({ document with selection := target }, true)) ∧
    ∀ r c : Int64, r.toInt = rows → c.toInt = cols → document.rows < 2 ^ 64 → document.cols < 2 ^ 64 →
      document.clamp (saturatingAdd (UInt64.ofNat document.selection.row) r).toNat
        (saturatingAdd (UInt64.ofNat document.selection.col) c).toNat = target := by
  intro target
  have h : Ready document := ⟨hin, he⟩
  obtain ⟨hrow, hcol⟩ := h.lt
  have hmove : document.move rows cols = ({ document with selection := target }, true) := h.move rows cols
  refine ⟨hmove, fun moves hmoves => (walk_of_perm rows cols h moves hmoves).trans hmove, ?_⟩
  rintro r c rfl rfl hrows hcols
  rw [clamp, min_saturatingAdd _ hrows _ hrow, min_saturatingAdd _ hcols _ hcol]
  rfl

/-- to the corner from the middle: by the largest offsets, and by unit moves -/
theorem move_to_the_corner :
    let document := (ofSheet (Sheet.blank 3 4) .reclick).selecting ⟨1, 1⟩
    document.sheet.contains document.selection.row document.selection.col ∧ document.editing = false ∧
      document.move (-2 ^ 63) (2 ^ 63 - 1) = (document.selecting ⟨0, 3⟩, true) ∧
      document.clamp (saturatingAdd 1 Int64.minValue).toNat (saturatingAdd 1 Int64.maxValue).toNat = ⟨0, 3⟩ ∧
      document.walk [(0, 1), (-1, 0), (0, 1), (-1, 0), (0, 1)] = (document.selecting ⟨0, 3⟩, true) := by
  intro document
  have hin : document.sheet.contains document.selection.row document.selection.col := by decide
  have hfar := move_is_clamped_walk document hin rfl (-2 ^ 63) (2 ^ 63 - 1)
  have hnear := move_is_clamped_walk document hin rfl (-2) 3
  exact ⟨hin, rfl, hfar.1, hfar.2.2 _ _ rfl rfl (by decide) (by decide), hnear.2.1 _ (by decide)⟩

end FormulaGrid.Document
