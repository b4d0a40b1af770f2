import FormulaGrid.Proofs.Formula.References

/-!
# A text as references and what stands between them

* `Segment`            a reference, or a stretch of a text that is kept by substitution;
* `segments`           the segments of a text, in order;
* `Segment.text`, `Segment.written`   what a segment is in the text, and after substitution;
* `flatMap_text`, `flatMap_written`   all segments together are the text, and the text after
                       substitution;
* `isChain_segments`   references and kept stretches take turns, and no word goes on from one to the
                       next.
-/

namespace FormulaGrid.Formula

open Text

inductive Segment where
  | kept (text : List Char)
  | reference (letters digits : List Char)
  deriving DecidableEq, Repr

/-- a segment as it stands in the text -/
def Segment.text : Segment → List Char
  | .kept text => text
  | .reference letters digits => letters ++ digits

/-- a segment after substitution -/
def Segment.written (value : (letters digits : List Char) → Float) : Segment → List Char
  | .kept text => text
  | .reference letters digits => operandText (value letters digits)

/-! ## cutting a text -/

/-- a stretch in front of segments; it is one with a kept stretch at their start -/
def keepOnto (s : List Char) : List Segment → List Segment
  | .kept t :: rest => .kept (s ++ t) :: rest
  | rest => .kept s :: rest

def segmentOnto (run : List Char) (rest : List Segment) : List Segment :=
  match referenceParts? run with
  | some (letters, digits) => .reference letters digits :: rest
  | none => keepOnto run rest

def segments (cs : List Char) : List Segment := (runs cs).foldr segmentOnto []

theorem keepOnto_append (s t : List Char) (rest : List Segment) :
    keepOnto (s ++ t) rest = keepOnto s (keepOnto t rest) := by
  match rest with
  | [] => rfl
  | .kept u :: rest => exact congrArg (Segment.kept · :: rest) (List.append_assoc s t u)
  | .reference _ _ :: rest => rfl

theorem keepOnto_eq (s : List Char) (rest : List Segment) :
    ∃ t rest', keepOnto s rest = .kept (s ++ t) :: rest' := by
  match rest with
  | [] => exact ⟨[], [], by rw [List.append_nil]; rfl⟩
  | .kept t :: rest => exact ⟨t, rest, rfl⟩
  | .reference l d :: rest => exact ⟨[], .reference l d :: rest, by rw [List.append_nil]; rfl⟩

theorem segmentOnto_of_none (run : List Char) (rest : List Segment) (h : referenceParts? run = none) :
    segmentOnto run rest = keepOnto run rest := by
  rw [segmentOnto, h]

theorem segments_cons (c : Char) (cs : List Char) (hc : isWord c = false) :
    segments (c :: cs) = keepOnto [c] (segments cs) := by
  have hnone : ∀ s, referenceParts? (c :: s) = none := fun s =>
    referenceParts?_cons c s (isUpper_of_not_isWord c hc)
  unfold segments
  rcases runs_cons c cs hc with e | ⟨s, rest, hne, hs, ecs, e⟩
  · rw [e, List.foldr_cons, segmentOnto_of_none _ _ (hnone [])]
  · obtain ⟨d, s, rfl⟩ := List.exists_cons_of_ne_nil hne
    have hnone' := referenceParts?_cons d s (isUpper_of_not_isWord d (hs d List.mem_cons_self))
    rw [e, ecs, List.foldr_cons, List.foldr_cons, segmentOnto_of_none _ _ (hnone _),
      segmentOnto_of_none _ _ hnone', ← keepOnto_append]
    rfl

theorem segments_word_append (w cs : List Char) (hne : w ≠ []) (hw : ∀ c ∈ w, isWord c)
    (hcs : OtherFirst cs) : segments (w ++ cs) = segmentOnto w (segments cs) := by
  rw [segments, runs_word_append w cs hne hw hcs]
  rfl

/-! ## all segments together -/

/-- whatever keeps the kept stretches is put together run by run -/
theorem flatMap_segments (f : Segment → List Char) (hf : ∀ t, f (.kept t) = t) (cs : List Char) :
    (segments cs).flatMap f = (runs cs).flatMap fun run => match referenceParts? run with
      | some (letters, digits) => f (.reference letters digits)
      | none => run := by
  have hkeep : ∀ s rest, (keepOnto s rest).flatMap f = s ++ rest.flatMap f := by
    intro s rest
    match rest with
    | [] => exact congrArg (· ++ _) (hf s)
    | .kept t :: rest =>
      rw [keepOnto, List.flatMap_cons, List.flatMap_cons, hf, hf, List.append_assoc]
    | .reference l d :: rest => exact congrArg (· ++ _) (hf s)
  unfold segments
  induction runs cs with
  | nil => rfl
  | cons run rest ih =>
    rw [List.foldr_cons, List.flatMap_cons, ← ih, segmentOnto]
    cases referenceParts? run with
    | none => exact hkeep run _
    | some parts => rfl

theorem flatMap_text (cs : List Char) : (segments cs).flatMap Segment.text = cs := by
  have hrun : ∀ run : List Char, (match referenceParts? run with
      | some (letters, digits) => letters ++ digits
      | none => run) = run := by
    intro run
    cases h : referenceParts? run with
    | none => rfl
    | some parts => exact referenceParts?_append run parts.1 parts.2 h
  rw [flatMap_segments Segment.text (fun _ => rfl)]
  calc (runs cs).flatMap _ = (runs cs).flatMap id := List.flatMap_congr fun run _ => hrun run
    _ = cs := by rw [List.flatMap_id, flatten_runs]

theorem flatMap_written (value : (letters digits : List Char) → Float) (cs : List Char) :
    (segments cs).flatMap (Segment.written value) = substituteWith value cs :=
  flatMap_segments (Segment.written value) (fun _ => rfl) cs

/-! ## neighbours -/

/-- one is a reference and the other is kept, and no word goes on from the one to the other -/
def Segment.Adjoins : Segment → Segment → Prop
  | .kept text, .reference _ _ => ∃ c ∈ text.getLast?, isWord c = false
  | .reference _ _, .kept text => ∃ c ∈ text.head?, isWord c = false
  | _, _ => False

theorem isChain_keepOnto (s : List Char) (rest : List Segment) (h : rest.IsChain Segment.Adjoins)
    (hs : ∀ l d, .reference l d ∈ rest.head? → ∃ c ∈ s.getLast?, isWord c = false) :
    (keepOnto s rest).IsChain Segment.Adjoins := by
  match rest with
  | [] => exact List.isChain_singleton _
  | .reference l d :: rest => exact List.isChain_cons_cons.mpr ⟨hs l d rfl, h⟩
  | [.kept t] => exact List.isChain_singleton _
  | .kept t :: .kept u :: rest => exact (List.isChain_cons_cons.mp h).1.elim
  | .kept t :: .reference l d :: rest =>
    obtain ⟨⟨c, hc, hw⟩, hrest⟩ := List.isChain_cons_cons.mp h
    refine List.isChain_cons_cons.mpr ⟨⟨c, ?_, hw⟩, hrest⟩
    rw [List.getLast?_append, Option.mem_def.mp hc]
    rfl

/-- a text that begins with no word begins with a kept stretch -/
theorem head_segments (cs : List Char) (hcs : OtherFirst cs) (a : Segment) (ha : a ∈ (segments cs).head?) :
    ∃ text, a = .kept text ∧ ∃ c ∈ text.head?, isWord c = false := by
  cases cs with
  | nil => cases ha
  | cons c cs =>
    have hc := hcs c rfl
    obtain ⟨t, rest, e⟩ := keepOnto_eq [c] (segments cs)
    rw [segments_cons c cs hc, e] at ha
    obtain rfl := Option.some.inj ha
    exact ⟨_, rfl, c, rfl, hc⟩

theorem isChain_segments (cs : List Char) : (segments cs).IsChain Segment.Adjoins := by
  induction cs using text_induction with
  | nil => exact List.isChain_nil
  | other c cs hc ih =>
    rw [segments_cons c cs hc]
    exact isChain_keepOnto [c] _ ih fun _ _ _ => ⟨c, rfl, hc⟩
  | word w cs hne hw hcs ih =>
    rw [segments_word_append w cs hne hw hcs, segmentOnto]
    split
    · refine ih.cons fun a ha => ?_
      obtain ⟨text, rfl, hother⟩ := head_segments cs hcs a ha
      exact hother
    · refine isChain_keepOnto w _ ih fun l d hd => ?_
      obtain ⟨text, e, _⟩ := head_segments cs hcs _ hd
      cases e

end FormulaGrid.Formula
