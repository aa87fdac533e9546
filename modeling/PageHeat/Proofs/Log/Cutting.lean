import PageHeat.Log.Stream

/-
  Cutting bytes after every line feed.

  A cutting of some bytes is a list of pieces that loses no
  byte, has no empty piece, and has line feeds exactly at
  the ends of its pieces, the last piece perhaps without
  one. There is one cutting of any bytes, and `cutLines`
  is it.

  Behind a line feed cutting starts anew, so the pieces of
  bytes that end with one stand in front of the pieces of
  whatever follows them.

  Key definitions include:
    * `IsCutting`
    * `EndsLine`

  Key lemmas include:
    * `cutLines_append_lineFeed`
    * `isCutting_iff`
    * `cutLines_append`
    * `exists_unfinished`
    * `Stream.pieces_append`
    * `Stream.isCutting_pieces`
-/

------------------------------------------------------------
-- Cuttings
------------------------------------------------------------

namespace PageHeat

/- Pieces that are cut after every line feed. -/
structure IsCutting
    (pieces : List Bytes)
    (bytes : Bytes) : Prop where
  flatten_eq : pieces.flatten = bytes
  ne_nil : ∀ piece ∈ pieces, piece ≠ []
  feed_last : ∀ piece ∈ pieces, lineFeed ∉ piece.dropLast
  complete : ∀ piece ∈ pieces.dropLast, IsComplete piece

------------------------------------------------------------
-- One Step Of Cutting
------------------------------------------------------------

theorem cutLines_cons_lineFeed (rest : Bytes) :
    cutLines (lineFeed :: rest) =
      [lineFeed] :: cutLines rest := by
  rw [cutLines, if_pos rfl]

/- The bytes up to a line feed are one piece. -/
theorem cutLines_append_lineFeed
    {begun : Bytes}
    (hBegun : lineFeed ∉ begun)
    (rest : Bytes) :
    cutLines (begun ++ lineFeed :: rest) =
      (begun ++ [lineFeed]) :: cutLines rest := by
  induction begun with
  | nil => exact cutLines_cons_lineFeed rest
  | cons b begun ih =>
      have hNe : b ≠ lineFeed := fun hEq =>
        hBegun (hEq ▸ List.mem_cons_self)
      have hRest := ih fun hMem =>
        hBegun (List.mem_cons_of_mem _ hMem)
      rw [List.cons_append, cutLines, if_neg hNe, hRest]
      rfl

/- Bytes without a line feed are one piece, if any. -/
theorem cutLines_of_notMem
    {begun : Bytes}
    (hBegun : lineFeed ∉ begun)
    (hSome : begun ≠ []) :
    cutLines begun = [begun] := by
  induction begun with
  | nil => exact absurd rfl hSome
  | cons b begun ih =>
      have hNe : b ≠ lineFeed := fun hEq =>
        hBegun (hEq ▸ List.mem_cons_self)
      have hRest : lineFeed ∉ begun := fun hMem =>
        hBegun (List.mem_cons_of_mem _ hMem)
      cases begun with
      | nil => rw [cutLines, if_neg hNe, cutLines]
      | cons c begun =>
          rw [cutLines, if_neg hNe,
            ih hRest (List.cons_ne_nil _ _)]

/-
  Bytes are empty, or a last line without a line feed, or a
  line with one and the bytes behind it.
-/
theorem bytes_line_induction
    {motive : Bytes → Prop}
    (nil : motive [])
    (last :
      ∀ begun : Bytes,
        lineFeed ∉ begun → begun ≠ [] → motive begun)
    (line :
      ∀ begun rest : Bytes,
        lineFeed ∉ begun → motive rest →
          motive (begun ++ lineFeed :: rest))
    (bytes : Bytes) :
    motive bytes := by
  by_cases hMem : lineFeed ∈ bytes
  · rcases List.eq_append_cons_of_mem hMem with
      ⟨begun, rest, rfl, hBegun⟩
    exact line begun rest hBegun
      (bytes_line_induction nil last line rest)
  · by_cases hNil : bytes = []
    · rw [hNil]
      exact nil
    · exact last bytes hMem hNil
termination_by bytes.length
decreasing_by
  rename_i hEq
  rw [hEq, List.length_append, List.length_cons]
  omega

------------------------------------------------------------
-- Existence
------------------------------------------------------------

namespace IsCutting

theorem nil : IsCutting [] [] where
  flatten_eq := rfl
  ne_nil := fun _ hMem => absurd hMem List.not_mem_nil
  feed_last := fun _ hMem => absurd hMem List.not_mem_nil
  complete := fun _ hMem => absurd hMem List.not_mem_nil

/- A last line without line feed is a piece. -/
theorem last
    {begun : Bytes}
    (hBegun : lineFeed ∉ begun)
    (hSome : begun ≠ []) :
    IsCutting [begun] begun where
  flatten_eq := by simp
  ne_nil := by
    intro piece hMem
    rwa [List.mem_singleton.mp hMem]
  feed_last := by
    intro piece hMem hFeed
    rw [List.mem_singleton.mp hMem] at hFeed
    exact hBegun (List.dropLast_subset _ hFeed)
  complete := fun _ hMem => absurd hMem List.not_mem_nil

/- A line with its line feed is a piece. -/
theorem line
    {begun rest : Bytes}
    {pieces : List Bytes}
    (hBegun : lineFeed ∉ begun)
    (hRest : IsCutting pieces rest) :
    IsCutting ((begun ++ [lineFeed]) :: pieces)
      (begun ++ lineFeed :: rest) where
  flatten_eq := by
    rw [List.flatten_cons, hRest.flatten_eq,
      List.append_assoc]
    rfl
  ne_nil := by
    intro piece hMem
    rcases List.mem_cons.mp hMem with rfl | hMem
    · simp
    · exact hRest.ne_nil piece hMem
  feed_last := by
    intro piece hMem
    rcases List.mem_cons.mp hMem with rfl | hMem
    · rwa [List.dropLast_concat]
    · exact hRest.feed_last piece hMem
  complete := by
    intro piece hMem
    cases pieces with
    | nil => exact absurd hMem List.not_mem_nil
    | cons first others =>
        rw [List.dropLast_cons_cons] at hMem
        rcases List.mem_cons.mp hMem with rfl | hMem
        · exact List.getLast?_concat
        · exact hRest.complete piece hMem

end IsCutting

/- Cutting after every line feed gives a cutting. -/
theorem isCutting_cutLines (bytes : Bytes) :
    IsCutting (cutLines bytes) bytes := by
  induction bytes using bytes_line_induction with
  | nil => exact IsCutting.nil
  | last begun hBegun hSome =>
      rw [cutLines_of_notMem hBegun hSome]
      exact IsCutting.last hBegun hSome
  | line begun rest hBegun ih =>
      rw [cutLines_append_lineFeed hBegun]
      exact ih.line hBegun

------------------------------------------------------------
-- Uniqueness
------------------------------------------------------------

/- A complete piece is a line and its line feed. -/
theorem IsComplete.eq_dropLast_append
    {piece : Bytes}
    (hComplete : IsComplete piece) :
    piece = piece.dropLast ++ [lineFeed] := by
  rcases List.getLast?_eq_some_iff.mp hComplete with
    ⟨begun, rfl⟩
  rw [List.dropLast_concat]

namespace IsCutting

/- Behind the first piece, the rest of the pieces is cut. -/
theorem tail
    {piece : Bytes}
    {pieces : List Bytes}
    {bytes : Bytes}
    (hCut : IsCutting (piece :: pieces) bytes) :
    IsCutting pieces pieces.flatten where
  flatten_eq := rfl
  ne_nil := fun p hMem =>
    hCut.ne_nil p (List.mem_cons_of_mem _ hMem)
  feed_last := fun p hMem =>
    hCut.feed_last p (List.mem_cons_of_mem _ hMem)
  complete := by
    intro p hMem
    cases pieces with
    | nil => exact absurd hMem List.not_mem_nil
    | cons first others =>
        apply hCut.complete
        rw [List.dropLast_cons_cons]
        exact List.mem_cons_of_mem _ hMem

/- The last piece is cut into itself. -/
theorem cutLines_last
    {piece bytes : Bytes}
    (hCut : IsCutting [piece] bytes) :
    cutLines piece = [piece] := by
  have hSome : piece ≠ [] :=
    hCut.ne_nil piece List.mem_cons_self
  have hFeed : lineFeed ∉ piece.dropLast :=
    hCut.feed_last piece List.mem_cons_self
  by_cases hComplete : IsComplete piece
  · have hEq := hComplete.eq_dropLast_append
    have hLine := cutLines_append_lineFeed hFeed []
    rw [← hEq] at hLine
    exact hLine
  · apply cutLines_of_notMem _ hSome
    intro hMem
    rw [← List.dropLast_concat_getLast hSome] at hMem
    rcases List.mem_append.mp hMem with hMem | hMem
    · exact hFeed hMem
    · apply hComplete
      rw [IsComplete, List.getLast?_eq_some_getLast hSome,
        ← List.mem_singleton.mp hMem]

/- The pieces of a cutting are those of `cutLines`. -/
theorem eq_cutLines
    {pieces : List Bytes}
    {bytes : Bytes}
    (hCut : IsCutting pieces bytes) :
    pieces = cutLines bytes := by
  induction pieces generalizing bytes with
  | nil =>
      rw [← hCut.flatten_eq]
      rfl
  | cons piece pieces ih =>
      rw [← hCut.flatten_eq, List.flatten_cons]
      cases pieces with
      | nil =>
          rw [List.flatten_nil, List.append_nil,
            hCut.cutLines_last]
      | cons next others =>
          have hComplete : IsComplete piece := by
            apply hCut.complete
            rw [List.dropLast_cons_cons]
            exact List.mem_cons_self
          have hFeed : lineFeed ∉ piece.dropLast :=
            hCut.feed_last piece List.mem_cons_self
          have hRest := ih hCut.tail
          rw [hComplete.eq_dropLast_append,
            List.append_assoc, List.singleton_append,
            cutLines_append_lineFeed hFeed, ← hRest]

end IsCutting

/- There is one cutting of any bytes. -/
theorem isCutting_iff
    (pieces : List Bytes)
    (bytes : Bytes) :
    IsCutting pieces bytes ↔ pieces = cutLines bytes := by
  constructor
  · exact IsCutting.eq_cutLines
  · rintro rfl
    exact isCutting_cutLines bytes

------------------------------------------------------------
-- Concatenations
------------------------------------------------------------

/- Bytes that are empty or end with a line feed. -/
def EndsLine (bytes : Bytes) : Prop :=
  bytes = [] ∨ IsComplete bytes

instance (bytes : Bytes) : Decidable (EndsLine bytes) :=
  inferInstanceAs (Decidable (_ ∨ _))

namespace EndsLine

theorem nil : EndsLine [] :=
  Or.inl rfl

theorem concat (bytes : Bytes) :
    EndsLine (bytes ++ [lineFeed]) :=
  Or.inr List.getLast?_concat

/- What is behind a line feed ends as the whole does. -/
theorem of_append
    {begun rest : Bytes}
    (hEnds : EndsLine (begun ++ lineFeed :: rest)) :
    EndsLine rest := by
  cases rest with
  | nil => exact nil
  | cons b rest =>
      rcases hEnds with hNil | hComplete
      · simp at hNil
      · right
        simpa [IsComplete, List.getLast?_append] using
          hComplete

/- Lines behind a line end with the last one of them. -/
theorem append_lineFeed
    {rest : Bytes}
    (hEnds : EndsLine rest)
    (begun : Bytes) :
    EndsLine (begun ++ lineFeed :: rest) := by
  cases rest with
  | nil => exact concat begun
  | cons b rest =>
      rcases hEnds with hNil | hComplete
      · cases hNil
      · right
        simpa [IsComplete, List.getLast?_append] using
          hComplete

/- Bytes that end a line have a line feed, if any octet. -/
theorem lineFeed_mem
    {bytes : Bytes}
    (hEnds : EndsLine bytes)
    (hSome : bytes ≠ []) :
    lineFeed ∈ bytes := by
  rcases hEnds with hNil | hComplete
  · exact absurd hNil hSome
  · exact List.mem_of_getLast? hComplete

end EndsLine

/- Behind a line end, cutting starts anew. -/
theorem cutLines_append
    {front : Bytes}
    (hEnds : EndsLine front)
    (back : Bytes) :
    cutLines (front ++ back) =
      cutLines front ++ cutLines back := by
  induction front using bytes_line_induction with
  | nil => rfl
  | last begun hBegun hSome =>
      exact absurd (hEnds.lineFeed_mem hSome) hBegun
  | line begun rest hBegun ih =>
      rw [List.append_assoc, List.cons_append,
        cutLines_append_lineFeed hBegun,
        cutLines_append_lineFeed hBegun,
        ih hEnds.of_append, List.cons_append]

/- Bytes that end a line have complete pieces only. -/
theorem EndsLine.isComplete_of_mem
    {bytes piece : Bytes}
    (hEnds : EndsLine bytes)
    (hMem : piece ∈ cutLines bytes) :
    IsComplete piece := by
  induction bytes using bytes_line_induction with
  | nil => exact absurd hMem List.not_mem_nil
  | last begun hBegun hSome =>
      exact absurd (hEnds.lineFeed_mem hSome) hBegun
  | line begun rest hBegun ih =>
      rw [cutLines_append_lineFeed hBegun,
        List.mem_cons] at hMem
      rcases hMem with rfl | hMem
      · exact List.getLast?_concat
      · exact ih hEnds.of_append hMem

/- Bytes are lines and what is begun behind them. -/
theorem exists_unfinished (bytes : Bytes) :
    ∃ front tail,
      bytes = front ++ tail ∧
        EndsLine front ∧ lineFeed ∉ tail := by
  induction bytes using bytes_line_induction with
  | nil => exact ⟨[], [], rfl, EndsLine.nil, List.not_mem_nil⟩
  | last begun hBegun hSome =>
      exact ⟨[], begun, rfl, EndsLine.nil, hBegun⟩
  | line begun rest hBegun ih =>
      rcases ih with ⟨front, tail, rfl, hEnds, hTail⟩
      refine
        ⟨begun ++ lineFeed :: front, tail, ?_, ?_, hTail⟩
      · rw [List.append_assoc, List.cons_append]
      · exact hEnds.append_lineFeed begun

------------------------------------------------------------
-- Pieces Of Streams
------------------------------------------------------------

namespace Stream

/- Of lines that have ended, every stream gives all. -/
theorem pieces_append
    {front : Bytes}
    (hEnds : EndsLine front)
    (back : Bytes)
    (failure : Option DeviceFault) :
    (Stream.mk (front ++ back) failure).pieces =
      cutLines front ++ (Stream.mk back failure).pieces := by
  cases failure with
  | none => exact cutLines_append hEnds back
  | some fault =>
      have hAll :
          (cutLines front).filter
              (decide <| IsComplete ·) =
            cutLines front := by
        apply List.filter_eq_self.mpr
        intro piece hMem
        exact decide_eq_true (hEnds.isComplete_of_mem hMem)
      simp only [pieces]
      rw [cutLines_append hEnds, List.filter_append, hAll]

/- Of a line that has ended, every stream gives it all. -/
theorem pieces_append_lineFeed
    {begun : Bytes}
    (hBegun : lineFeed ∉ begun)
    (rest : Bytes)
    (failure : Option DeviceFault) :
    (Stream.mk (begun ++ lineFeed :: rest) failure).pieces =
      (begun ++ [lineFeed]) ::
        (Stream.mk rest failure).pieces := by
  have hLine : cutLines (begun ++ [lineFeed]) =
      [begun ++ [lineFeed]] :=
    cutLines_append_lineFeed hBegun []
  rw [List.append_cons,
    pieces_append (EndsLine.concat begun), hLine]
  rfl

/- An unfinished line is lost when the stream fails. -/
theorem pieces_unfinished
    {tail : Bytes}
    (hTail : lineFeed ∉ tail)
    (fault : DeviceFault) :
    (Stream.mk tail (some fault)).pieces = [] := by
  apply List.filter_eq_nil_iff.mpr
  intro piece hMem
  rw [decide_eq_true_iff]
  intro hComplete
  apply hTail
  rw [← (isCutting_cutLines tail).flatten_eq]
  exact List.mem_flatten_of_mem hMem
    (List.mem_of_getLast? hComplete)

theorem flatten_pieces
    {t : Stream}
    (hEnds : t.failure = none) :
    t.pieces.flatten = t.bytes := by
  rw [pieces, hEnds]
  exact (isCutting_cutLines t.bytes).flatten_eq

/- What a stream gives is cut after every line feed. -/
theorem isCutting_pieces (t : Stream) :
    IsCutting t.pieces t.pieces.flatten := by
  rcases t with ⟨bytes, failure⟩
  cases failure with
  | none =>
      have hCut := isCutting_cutLines bytes
      change IsCutting (cutLines bytes) (cutLines bytes).flatten
      rwa [hCut.flatten_eq]
  | some fault =>
      rcases exists_unfinished bytes with
        ⟨front, tail, rfl, hEnds, hTail⟩
      have hCut := isCutting_cutLines front
      rw [pieces_append hEnds, pieces_unfinished hTail,
        List.append_nil, hCut.flatten_eq]
      exact hCut

end Stream

end PageHeat
