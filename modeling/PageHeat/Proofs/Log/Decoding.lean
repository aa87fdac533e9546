import PageHeat.Proofs.Log.Cutting
import PageHeat.Proofs.Text.Utf8

/-
  Lines that are decoded one by one.

  A line feed is no part of a longer character. So a
  character that is begun in one line is not finished in
  the next, and the lines of some bytes are texts exactly
  if the whole of the bytes is one. For the same reason
  what stands in one line has no influence on any other.

  Key lemmas include:
    * `decode_eq_mapM_decode`
    * `Stream.decode_pieces_iff`
    * `Stream.getElem?_pieces_succ`
    * `Stream.decodes_line_by_line`
-/

------------------------------------------------------------
-- The Whole And Its Lines
------------------------------------------------------------

namespace PageHeat

theorem lineFeed_notMem_encode
    {t : Text}
    (hNone : '\n' ∉ t) :
    lineFeed ∉ Utf8.encode t := by
  intro hMem
  apply hNone
  exact Utf8.ofNat_mem_of_mem_encode (by decide) hMem

/- Bytes decode to the texts of their lines, if all do. -/
theorem decode_eq_mapM_decode (bytes : Bytes) :
    Utf8.decode bytes =
      ((cutLines bytes).mapM Utf8.decode).map
        List.flatten := by
  induction bytes using bytes_line_induction with
  | nil => rfl
  | last begun hBegun hSome =>
      rw [cutLines_of_notMem hBegun hSome, List.mapM_cons,
        List.mapM_nil]
      cases Utf8.decode begun with
      | none => rfl
      | some t => simp
  | line begun rest hBegun ih =>
      have hNone : Utf8.decode [] = some [] := rfl
      rw [cutLines_append_lineFeed hBegun, List.mapM_cons,
        Utf8.decode_append_cons (by decide),
        Utf8.decode_append_cons (by decide), ih, hNone]
      cases Utf8.decode begun with
      | none => rfl
      | some t =>
          cases (cutLines rest).mapM Utf8.decode with
          | none => rfl
          | some texts => simp

theorem readPiece_eq_ok_iff
    (piece : Bytes)
    (t : Text) :
    readPiece piece = .ok t ↔ Utf8.decode piece = some t := by
  rw [readPiece]
  cases Utf8.decode piece with
  | none => simp
  | some u => simp

theorem readPiece_eq_invalid_iff (piece : Bytes) :
    readPiece piece = .error .invalidUtf8 ↔
      Utf8.decode piece = none := by
  rw [readPiece]
  cases Utf8.decode piece with
  | none => simp
  | some u => simp

/- Pieces decode to texts that they are all read as. -/
theorem mapM_decode_eq_some_iff
    (pieces : List Bytes)
    (texts : List Text) :
    pieces.mapM Utf8.decode = some texts ↔
      pieces.map readPiece = texts.map .ok := by
  induction pieces generalizing texts with
  | nil =>
      cases texts with
      | nil => simp
      | cons t texts => simp
  | cons piece pieces ih =>
      rw [List.mapM_cons, List.map_cons]
      simp only [bind, Option.bind_eq_some_iff, pure,
        Option.some.injEq, ih]
      constructor
      · rintro ⟨t, hT, others, hOthers, rfl⟩
        rw [List.map_cons, hOthers,
          (readPiece_eq_ok_iff piece t).mpr hT]
      · intro hRead
        cases texts with
        | nil => cases hRead
        | cons t texts =>
            rw [List.map_cons, List.cons.injEq] at hRead
            exact
              ⟨t, (readPiece_eq_ok_iff piece t).mp hRead.1,
                texts, hRead.2, rfl⟩

/- Pieces decode to nothing if one of them is no text. -/
theorem mapM_decode_eq_none_iff (pieces : List Bytes) :
    pieces.mapM Utf8.decode = none ↔
      .error .invalidUtf8 ∈ pieces.map readPiece := by
  induction pieces with
  | nil => simp
  | cons piece pieces ih =>
      rw [List.mapM_cons, List.map_cons, List.mem_cons,
        eq_comm (a := Except.error LineFault.invalidUtf8),
        readPiece_eq_invalid_iff, ← ih]
      cases Utf8.decode piece with
      | none => simp
      | some t =>
          cases pieces.mapM Utf8.decode with
          | none => simp
          | some texts => simp

namespace Stream

theorem decode_pieces_eq (t : Stream) :
    Utf8.decode t.pieces.flatten =
      (t.pieces.mapM Utf8.decode).map List.flatten := by
  rw [decode_eq_mapM_decode,
    ← t.isCutting_pieces.eq_cutLines]

/- What a stream gives is no text if one of its lines is none. -/
theorem decode_pieces_eq_none_iff (t : Stream) :
    Utf8.decode t.pieces.flatten = none ↔
      .error .invalidUtf8 ∈ t.lines := by
  rw [decode_pieces_eq, Option.map_eq_none_iff,
    mapM_decode_eq_none_iff, lines]

theorem decode_pieces_eq_some_iff
    (t : Stream)
    (text : Text) :
    Utf8.decode t.pieces.flatten = some text ↔
      ∃ texts : List Text, t.lines = texts.map .ok ∧
        texts.flatten = text := by
  simp only [decode_pieces_eq, Option.map_eq_some_iff,
    mapM_decode_eq_some_iff, lines]

------------------------------------------------------------
-- Lines Behind One Another
------------------------------------------------------------

/-
  The lines behind the first one are those of the bytes
  behind its line feed.
-/
theorem getElem?_pieces_succ
    {begun back : Bytes}
    (hBegun : lineFeed ∉ begun)
    (hBack : ∀ b, back.head? = some b → b = lineFeed)
    (failure : Option DeviceFault)
    (i : Nat) :
    (Stream.mk (begun ++ back) failure).pieces[i + 1]? =
      (Stream.mk (back.drop 1) failure).pieces[i]? := by
  cases back with
  | nil =>
      rw [List.append_nil, List.drop_nil]
      cases failure with
      | none =>
          by_cases hNil : begun = []
          · rw [hNil]
            rfl
          · have hOne : (Stream.mk begun none).pieces =
                [begun] :=
              cutLines_of_notMem hBegun hNil
            rw [hOne]
            rfl
      | some fault =>
          rw [pieces_unfinished hBegun,
            pieces_unfinished List.not_mem_nil]
          rfl
  | cons b rest =>
      rw [hBack b rfl, pieces_append_lineFeed hBegun]
      rfl

/-
  What stands in a line has no influence on the others: the
  pieces at all other places are the same.
-/
theorem getElem?_pieces_of_ne
    {front old new back : Bytes}
    (hFront : EndsLine front)
    (hOld : lineFeed ∉ old)
    (hNew : lineFeed ∉ new)
    (hBack : ∀ b, back.head? = some b → b = lineFeed)
    (failure : Option DeviceFault)
    {i : Nat}
    (hOther : i ≠ (cutLines front).length) :
    (Stream.mk (front ++ new ++ back) failure).pieces[i]? =
      (Stream.mk (front ++ old ++ back) failure).pieces[i]? := by
  rw [List.append_assoc, List.append_assoc,
    pieces_append hFront, pieces_append hFront]
  rcases Nat.lt_or_gt_of_ne hOther with hBefore | hBehind
  · rw [List.getElem?_append_left hBefore,
      List.getElem?_append_left hBefore]
  · rcases Nat.exists_eq_add_of_lt hBehind with ⟨k, rfl⟩
    have hLe :
        (cutLines front).length ≤
          (cutLines front).length + k + 1 := by
      omega
    have hSub :
        (cutLines front).length + k + 1 -
          (cutLines front).length = k + 1 := by
      omega
    rw [List.getElem?_append_right hLe,
      List.getElem?_append_right hLe, hSub,
      getElem?_pieces_succ hNew hBack,
      getElem?_pieces_succ hOld hBack]

/- The number of a line is its place in the log. -/
theorem getElem?_numbered_lines
    (t : Stream)
    (i : Nat) :
    (numbered t.lines)[i]? =
      t.pieces[i]?.map fun piece => (i + 1, readPiece piece) := by
  rw [numbered, List.getElem?_map, List.getElem?_zipIdx,
    lines, List.getElem?_map, Nat.zero_add]
  cases t.pieces[i]? with
  | none => rfl
  | some piece => rfl

------------------------------------------------------------
-- Decoding Line By Line
------------------------------------------------------------

/-
  What a stream gives is a text exactly if no line of it is
  refused, and then the text is that of the lines, one
  behind the other. A stream that ends gives all its bytes.

  Whatever octets without a line feed are put in the place
  of a line, every other line keeps its number and is the
  same text, or no text, as before.
-/
theorem decodes_line_by_line :
    (∀ t : Stream,
      (t.failure = none → t.pieces.flatten = t.bytes) ∧
      ((∃ text, Utf8.decode t.pieces.flatten = some text) ↔
        .error .invalidUtf8 ∉ t.lines) ∧
      ∀ text,
        Utf8.decode t.pieces.flatten = some text ↔
          ∃ texts : List Text, t.lines = texts.map .ok ∧
            texts.flatten = text) ∧
    ∀ (front old new back : Bytes)
      (failure : Option DeviceFault),
      EndsLine front →
      lineFeed ∉ old →
      lineFeed ∉ new →
      (∀ b, back.head? = some b → b = lineFeed) →
      ∀ i, i ≠ (cutLines front).length →
        (numbered
            (Stream.mk (front ++ new ++ back)
              failure).lines)[i]? =
          (numbered
            (Stream.mk (front ++ old ++ back)
              failure).lines)[i]? := by
  constructor
  · intro t
    refine
      ⟨flatten_pieces, ?_, t.decode_pieces_eq_some_iff⟩
    rw [← decode_pieces_eq_none_iff]
    exact Option.ne_none_iff_exists'.symm
  · intro front old new back failure hFront hOld hNew hBack
      i hOther
    rw [getElem?_numbered_lines, getElem?_numbered_lines,
      getElem?_pieces_of_ne hFront hOld hNew hBack failure
        hOther]

/- A text of two lines, and one put in the place of no text. -/
theorem decodes_line_by_line_sample :
    (∃ texts : List Text,
      (ofBytes [97, 10, 195, 169]).lines = texts.map .ok ∧
        texts.flatten = ['a', '\n', 'é']) ∧
    (numbered
        (Stream.mk ([97, 10] ++ [98] ++ [10, 99])
          none).lines)[2]? =
      (numbered
        (Stream.mk ([97, 10] ++ [195] ++ [10, 99])
          none).lines)[2]? := by
  constructor
  · exact
      ((decodes_line_by_line.1
        (ofBytes [97, 10, 195, 169])).2.2 _).mp (by decide)
  · exact
      decodes_line_by_line.2 [97, 10] [195] [98] [10, 99] none
        (by decide) (by decide) (by decide)
        (by simp [lineFeed]) 2 (by decide)

end Stream

end PageHeat
