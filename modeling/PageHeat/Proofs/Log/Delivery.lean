import Mathlib.Data.List.TakeWhile
import PageHeat.Log.Source
import PageHeat.Proofs.Log.Cutting
import PageHeat.Tally.Basic

/-
  How the lines of a stream are delivered.

  A line may lie in one buffer or reach over several, and
  its line feed may be the last octet of a buffer or the
  first one of the next. Reading one line takes the octets
  up to the first line feed in all buffers together, so
  reading all lines visits the lines of the stream, whatever
  the buffers are.

  Key definitions include:
    * `Stream.ending`
    * `Source.visitAll`

  Key lemmas include:
    * `Source.readOn_of_lineFeed`
    * `Source.readOn_of_notMem`
    * `Source.eachLine_eq`
    * `Stream.delivers_lines_by_any_buffers`
-/

------------------------------------------------------------
-- Reading One Line
------------------------------------------------------------

namespace PageHeat

/- Octets without a line feed stand before the first one. -/
theorem exists_of_append_eq
    {buffer rest front back : Bytes}
    (hNone : lineFeed ∉ buffer)
    (hEq : buffer ++ rest = front ++ lineFeed :: back) :
    ∃ more, front = buffer ++ more ∧
      rest = more ++ lineFeed :: back := by
  rcases List.append_eq_append_iff.mp hEq with
    ⟨more, hFront, hRest⟩ | ⟨more, hBuffer, hRest⟩
  · exact ⟨more, hFront, hRest⟩
  · cases more with
    | nil =>
        rw [List.append_nil] at hBuffer
        refine ⟨[], ?_, hRest.symm⟩
        rw [hBuffer, List.append_nil]
    | cons b more =>
        rw [List.cons_append, List.cons.injEq] at hRest
        exfalso
        apply hNone
        rw [hBuffer, hRest.1]
        exact List.mem_append_right _ List.mem_cons_self

theorem ne_lineFeed_of_notMem
    {bytes : Bytes}
    (hNone : lineFeed ∉ bytes) :
    ∀ b ∈ bytes, (b != lineFeed) = true := by
  intro b hMem
  exact bne_iff_ne.mpr fun hEq => hNone (hEq ▸ hMem)

namespace Source

variable {failure : Option DeviceFault}
variable {begun : Bytes}

/- A buffer without a line feed belongs to the line. -/
theorem readOn_cons_of_notMem
    {buffer : Bytes}
    (hNone : lineFeed ∉ buffer)
    (buffers : List Bytes) :
    readOn failure begun (buffer :: buffers) =
      readOn failure (begun ++ buffer) buffers := by
  have hDrop : buffer.dropWhile (· != lineFeed) = [] :=
    List.dropWhile_eq_nil_iff.mpr
      (ne_lineFeed_of_notMem hNone)
  rw [readOn, hDrop]

/- The first line feed of a buffer ends the line. -/
theorem readOn_cons_of_mem
    {front : Bytes}
    (hFront : lineFeed ∉ front)
    (back : Bytes)
    (buffers : List Bytes) :
    readOn failure begun
        ((front ++ lineFeed :: back) :: buffers) =
      .ok (begun ++ front ++ [lineFeed], back :: buffers) := by
  have hAll := ne_lineFeed_of_notMem hFront
  have hDrop :
      (front ++ lineFeed :: back).dropWhile
          (· != lineFeed) =
        lineFeed :: back := by
    rw [List.dropWhile_append_of_pos hAll]
    rfl
  have hTake :
      (front ++ lineFeed :: back).takeWhile
          (· != lineFeed) = front := by
    rw [List.takeWhile_append_of_pos hAll]
    exact List.append_nil front
  rw [readOn, hDrop, hTake]

variable (failure begun)

/-
  The first line feed in the buffers ends the line, in
  whichever buffer it is.
-/
theorem readOn_of_lineFeed
    {front back : Bytes}
    {buffers : List Bytes}
    (hBuffers :
      buffers.flatten = front ++ lineFeed :: back)
    (hFront : lineFeed ∉ front) :
    ∃ rest, rest.flatten = back ∧
      readOn failure begun buffers =
        .ok (begun ++ front ++ [lineFeed], rest) := by
  induction buffers generalizing begun front with
  | nil => simp at hBuffers
  | cons buffer buffers ih =>
      rw [List.flatten_cons] at hBuffers
      by_cases hMem : lineFeed ∈ buffer
      · rcases List.eq_append_cons_of_mem hMem with
          ⟨start, others, rfl, hStart⟩
        rw [List.append_assoc] at hBuffers
        rcases exists_of_append_eq hStart hBuffers with
          ⟨more, rfl, hMore⟩
        -- no second line feed is in front of the first one
        cases more with
        | nil =>
            rw [List.append_nil, readOn_cons_of_mem hStart]
            refine ⟨others :: buffers, ?_, rfl⟩
            exact (List.cons.inj hMore).2
        | cons b more =>
            rw [List.cons_append, List.cons_append,
              List.cons.injEq] at hMore
            exfalso
            apply hFront
            rw [hMore.1]
            exact List.mem_append_right _ List.mem_cons_self
      · rcases exists_of_append_eq hMem hBuffers with
          ⟨more, rfl, hMore⟩
        have hRest : lineFeed ∉ more := fun hFeed =>
          hFront (List.mem_append_right _ hFeed)
        rw [readOn_cons_of_notMem hMem]
        rcases ih (begun ++ buffer) hMore hRest with
          ⟨rest, hBack, hRead⟩
        refine ⟨rest, hBack, ?_⟩
        rw [hRead, List.append_assoc begun]

/- Without a line feed, the end or the fault is reached. -/
theorem readOn_of_notMem
    {buffers : List Bytes}
    (hNone : lineFeed ∉ buffers.flatten) :
    readOn failure begun buffers =
      match failure with
      | some fault => .error fault
      | none => .ok (begun ++ buffers.flatten, []) := by
  induction buffers generalizing begun with
  | nil =>
      rw [List.flatten_nil, List.append_nil]
      rfl
  | cons buffer buffers ih =>
      rw [List.flatten_cons, List.mem_append, not_or]
        at hNone
      rw [readOn_cons_of_notMem hNone.1, ih _ hNone.2,
        List.flatten_cons, List.append_assoc]

end Source

------------------------------------------------------------
-- Reading All Lines
------------------------------------------------------------

/- How reading a stream ends. -/
def Stream.ending (t : Stream) : Except DeviceFault Unit :=
  match t.failure with
  | none => .ok ()
  | some fault => .error fault

namespace Source

variable {σ : Type}
variable {visit : σ → Nat → Except LineFault Text → σ}
variable {number : Nat}
variable {state : σ}
variable {s rest : Source}

/-
  One step of the reading. The match does not keep the
  equation that ends the recursion.
-/
theorem eachLine_unfold :
    s.eachLine visit number state =
      match s.readLine with
      | .error fault => (state, .error fault)
      | .ok ([], _) => (state, .ok ())
      | .ok (b :: piece, rest) =>
          rest.eachLine visit (number + 1)
            (visit state (number + 1)
              (readPiece (b :: piece))) := by
  rw [eachLine]
  split
  · rename_i hRead
    rw [hRead]
  · rename_i hRead
    rw [hRead]
  · rename_i hRead
    rw [hRead]

theorem eachLine_of_error
    {fault : DeviceFault}
    (hRead : s.readLine = .error fault) :
    s.eachLine visit number state =
      (state, .error fault) := by
  rw [eachLine_unfold, hRead]

theorem eachLine_of_end
    (hRead : s.readLine = .ok ([], rest)) :
    s.eachLine visit number state = (state, .ok ()) := by
  rw [eachLine_unfold, hRead]

/- Any other line is visited, and the next one is read. -/
theorem eachLine_of_line
    {piece : Bytes}
    (hSome : piece ≠ [])
    (hRead : s.readLine = .ok (piece, rest)) :
    s.eachLine visit number state =
      rest.eachLine visit (number + 1)
        (visit state (number + 1) (readPiece piece)) := by
  rw [eachLine_unfold, hRead]
  cases piece with
  | nil => exact absurd rfl hSome
  | cons b piece => rfl

/-
  What `eachLine` comes to when the lines of a stream are
  visited one after another.
-/
def visitAll
    (visit : σ → Nat → Except LineFault Text → σ)
    (number : Nat)
    (state : σ)
    (t : Stream) : σ × Except DeviceFault Unit :=
  ((t.lines.zipIdx number).foldl
      (fun state (line, i) => visit state (i + 1) line)
      state,
    t.ending)

/- Octets without a line feed are a last line, if any. -/
theorem eachLine_of_notMem
    {buffers : List Bytes}
    {failure : Option DeviceFault}
    (hNone : lineFeed ∉ buffers.flatten) :
    (Source.mk buffers failure).eachLine visit number state =
      visitAll visit number state
        ⟨buffers.flatten, failure⟩ := by
  have hOn :=
    readOn_of_notMem failure [] hNone
  cases failure with
  | some fault =>
      rw [visitAll, Stream.lines,
        Stream.pieces_unfinished hNone]
      apply eachLine_of_error
      rw [readLine, hOn]
      rfl
  | none =>
      have hRead :
          (Source.mk buffers none).readLine =
            .ok (buffers.flatten, ⟨[], none⟩) := by
        rw [readLine, hOn]
        rfl
      by_cases hNil : buffers.flatten = []
      · rw [hNil] at hRead ⊢
        exact eachLine_of_end hRead
      · have hPieces :
            (Stream.mk buffers.flatten none).pieces =
              [buffers.flatten] :=
          cutLines_of_notMem hNone hNil
        have hEnd : (Source.mk [] none).readLine =
            .ok ([], ⟨[], none⟩) := rfl
        rw [eachLine_of_line hNil hRead,
          eachLine_of_end hEnd, visitAll, Stream.lines,
          hPieces]
        rfl

/-
  Whatever the buffers are, the lines of the stream are
  visited one after another, and the reading ends as the
  stream does. The induction is on the lines of the stream;
  the buffers that are left are those behind the line.
-/
theorem eachLine_eq (s : Source) :
    s.eachLine visit number state =
      visitAll visit number state s.stream := by
  rcases s with ⟨buffers, failure⟩
  rw [stream]
  induction hBytes : buffers.flatten
    using bytes_line_induction
    generalizing buffers number state with
  | nil =>
      rw [← hBytes]
      apply eachLine_of_notMem
      rw [hBytes]
      exact List.not_mem_nil
  | last begun hBegun hSome =>
      rw [← hBytes]
      apply eachLine_of_notMem
      rwa [hBytes]
  | line begun rest hBegun ih =>
      rcases
        readOn_of_lineFeed failure [] hBytes hBegun with
        ⟨others, hOthers, hOn⟩
      have hRead :
          (Source.mk buffers failure).readLine =
            .ok (begun ++ [lineFeed], ⟨others, failure⟩) := by
        rw [readLine, hOn]
        rfl
      have hSome : begun ++ [lineFeed] ≠ [] := by simp
      rw [eachLine_of_line hSome hRead, ih _ hOthers,
        visitAll, visitAll, Stream.lines, Stream.lines,
        Stream.pieces_append_lineFeed hBegun]
      rfl

end Source

------------------------------------------------------------
-- Readers Of Lines
------------------------------------------------------------

/- Visiting all lines is a fold over the numbered lines. -/
theorem Source.visitAll_eq_numbered
    {σ : Type}
    (visit : σ → Nat → Except LineFault Text → σ)
    (start : σ)
    (t : Stream) :
    visitAll visit 0 start t =
      ((numbered t.lines).foldl
          (fun state (n, line) => visit state n line) start,
        t.ending) := by
  rw [visitAll, numbered, List.foldl_map]

/- Folding a visitor that does not look at the numbers. -/
theorem Source.foldLines_eq
    {σ : Type}
    (absorb : σ → Except LineFault Text → σ)
    (start : σ)
    (s : Source) :
    s.foldLines absorb start =
      s.stream.ending.map fun _ =>
        s.stream.lines.foldl absorb start := by
  have hFold :
      (s.stream.lines.zipIdx 0).foldl
          (fun state (line, _) => absorb state line) start =
        s.stream.lines.foldl absorb start := by
    have hFst := List.zipIdx_map_fst 0 s.stream.lines
    conv =>
      rhs
      rw [← hFst, List.foldl_map]
  rw [foldLines, eachLine_eq, visitAll, hFold]

/- A baseline is read from a source as from its stream. -/
theorem Baseline.ofSource_eq (s : Source) :
    ofSource s = ofStream s.stream := by
  rw [ofSource, Source.foldLines_eq, ofStream,
    Stream.ending]
  cases s.stream.failure with
  | none => rfl
  | some fault => rfl

/- So is a comparison. -/
theorem Comparison.ofSource_eq
    (b : Baseline)
    (s : Source) :
    ofSource b s = ofStream b s.stream := by
  rw [ofSource, Source.foldLines_eq, ofStream,
    Stream.ending]
  cases s.stream.failure with
  | none => rfl
  | some fault => rfl

theorem flatten_buffers
    (size : Nat)
    (bytes : Bytes) :
    (buffers size bytes).flatten = bytes := by
  fun_induction buffers size bytes with
  | case1 => rfl
  | case2 b rest ih =>
      rw [List.flatten_cons, ih, List.cons_append,
        List.take_append_drop]

namespace Stream

/- Reading by buffers of one size gives the same lines. -/
theorem linesByBuffer_eq
    (size : Nat)
    (t : Stream) :
    t.linesByBuffer size = t.lines := by
  have hStream :
      Source.stream ⟨buffers size t.bytes, t.failure⟩ =
        t := by
    rw [Source.stream, flatten_buffers]
  have hCons :
      (t.lines.zipIdx 0).foldl
          (fun visited (line, _) => line :: visited) [] =
        t.lines.reverse := by
    have hFst := List.zipIdx_map_fst 0 t.lines
    have hFlip :
        (t.lines.zipIdx 0).foldl
            (fun visited (line, _) => line :: visited) [] =
          ((t.lines.zipIdx 0).map Prod.fst).reverse ++ [] :=
      List.foldl_flip_cons_eq_append
    rwa [hFst, List.append_nil] at hFlip
  simp only [linesByBuffer]
  rw [Source.eachLine_eq, hStream, Source.visitAll, hCons,
    List.reverse_reverse]

------------------------------------------------------------
-- Lines That Are Delivered
------------------------------------------------------------

/- The numbers of numbered lines start at one. -/
theorem map_fst_numbered
    {α : Type}
    (lines : List α) :
    (numbered lines).map Prod.fst =
      List.range' 1 lines.length := by
  have hSucc :
      (numbered lines).map Prod.fst =
        ((lines.zipIdx 0).map Prod.snd).map (1 + ·) := by
    rw [numbered, List.map_map, List.map_map]
    apply List.map_congr_left
    intro entry _
    exact Nat.add_comm _ _
  rw [hSucc, List.zipIdx_map_snd, List.map_add_range']

theorem map_snd_numbered
    {α : Type}
    (lines : List α) :
    (numbered lines).map Prod.snd = lines := by
  rw [numbered, List.map_map]
  exact List.zipIdx_map_fst 0 lines

/-
  A stream that fails gives the lines that were ended before
  the fault, which are the first lines of the whole.
-/
theorem pieces_breakingAt
    (n : Nat)
    (fault : DeviceFault)
    (bytes : Bytes) :
    ∃ tail,
      (breakingAt n fault bytes).pieces.flatten ++ tail =
        bytes.take n ∧
      lineFeed ∉ tail ∧
      (∀ piece ∈ (breakingAt n fault bytes).pieces,
        IsComplete piece) ∧
      (breakingAt n fault bytes).pieces <+:
        cutLines bytes := by
  rcases exists_unfinished (bytes.take n) with
    ⟨front, tail, hTake, hEnds, hTail⟩
  have hPieces :
      (breakingAt n fault bytes).pieces = cutLines front := by
    rw [breakingAt, hTake, pieces_append hEnds,
      pieces_unfinished hTail, List.append_nil]
  have hFlatten := (isCutting_cutLines front).flatten_eq
  have hWhole : bytes = front ++ (tail ++ bytes.drop n) := by
    rw [← List.append_assoc, ← hTake,
      List.take_append_drop]
  rw [hPieces, hFlatten]
  refine ⟨tail, hTake.symm, hTail, ?_, ?_⟩
  · intro piece hMem
    exact hEnds.isComplete_of_mem hMem
  · rw [hWhole, cutLines_append hEnds]
    exact List.prefix_append _ _

/-
  However the bytes of a stream are cut into buffers, the
  reader visits the same lines with the numbers from one
  on, and ends as the stream does. The lines are the pieces
  of the stream: all pieces if it ends, and the complete
  ones in front of the fault if it fails.
-/
theorem delivers_lines_by_any_buffers (t : Stream) :
    (∀ buffers : List Bytes,
      buffers.flatten = t.bytes →
      let s : Source := ⟨buffers, t.failure⟩
      (∀ (σ : Type)
          (visit : σ → Nat → Except LineFault Text → σ)
          (start : σ),
        s.eachLine visit 0 start =
          ((numbered t.lines).foldl
              (fun state (n, line) => visit state n line)
              start,
            t.ending)) ∧
      Baseline.ofSource s = Baseline.ofStream t ∧
      ∀ b, Comparison.ofSource b s =
        Comparison.ofStream b t) ∧
    (∀ size, t.linesByBuffer size = t.lines) ∧
    (numbered t.lines).map Prod.fst =
      List.range' 1 t.pieces.length ∧
    (numbered t.lines).map Prod.snd =
      t.pieces.map readPiece ∧
    IsCutting t.pieces t.pieces.flatten ∧
    (t.failure = none →
      t.ending = .ok () ∧ t.pieces.flatten = t.bytes) ∧
    ∀ n fault bytes,
      t = breakingAt n fault bytes →
      t.ending = .error fault ∧
      ∃ tail,
        t.pieces.flatten ++ tail = bytes.take n ∧
        lineFeed ∉ tail ∧
        (∀ piece ∈ t.pieces, IsComplete piece) ∧
        t.pieces <+: cutLines bytes := by
  refine ⟨?_, fun size => linesByBuffer_eq size t, ?_,
    map_snd_numbered t.lines, t.isCutting_pieces, ?_, ?_⟩
  · intro buffers hBuffers s
    have hStream : s.stream = t := by
      rw [Source.stream, hBuffers]
    refine ⟨?_, ?_, ?_⟩
    · intro σ visit start
      rw [Source.eachLine_eq, hStream,
        Source.visitAll_eq_numbered]
    · rw [Baseline.ofSource_eq, hStream]
    · intro b
      rw [Comparison.ofSource_eq, hStream]
  · rw [map_fst_numbered, lines, List.length_map]
  · intro hEnds
    refine ⟨?_, flatten_pieces hEnds⟩
    rw [ending, hEnds]
  · rintro n fault bytes rfl
    exact ⟨rfl, pieces_breakingAt n fault bytes⟩

/-
  A line that is no text, cut behind its first octet, and
  the same bytes with a fault behind the third of them.
-/
theorem delivers_lines_of_split_line :
    (Source.mk [[97, 10, 255], [10], [99]] none).eachLine
        (fun seen n line => seen ++ [(n, line)]) 0 [] =
      ([(1, .ok ['a', '\n']), (2, .error .invalidUtf8),
          (3, .ok ['c'])],
        .ok ()) ∧
    (ofBytes [97, 10, 255, 10, 99]).pieces.flatten =
      [97, 10, 255, 10, 99] ∧
    (Stream.breakingAt 3 .isFolder
        [97, 10, 255, 10, 99]).pieces <+:
      cutLines [97, 10, 255, 10, 99] := by
  have hWhole :=
    delivers_lines_by_any_buffers
      (ofBytes [97, 10, 255, 10, 99])
  have hBroken :=
    delivers_lines_by_any_buffers
      (breakingAt 3 .isFolder [97, 10, 255, 10, 99])
  refine ⟨?_, ?_, ?_⟩
  · exact (hWhole.1 [[97, 10, 255], [10], [99]] rfl).1 _ _ _
  · exact (hWhole.2.2.2.2.2.1 rfl).2
  · rcases hBroken.2.2.2.2.2.2 3 .isFolder _ rfl with
      ⟨-, tail, -, -, -, hFirst⟩
    exact hFirst

end Stream

end PageHeat
