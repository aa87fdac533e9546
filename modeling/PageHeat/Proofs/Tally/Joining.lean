import Mathlib.Data.List.Nodup
import PageHeat.Proofs.Log.Tags
import PageHeat.Proofs.Report.Totals
import PageHeat.Proofs.Tally.Comparison

/-
  Logs that are put together, and lines in another order.

  Behind a line end a log starts anew, so what is read of
  two logs in a row is the sum of what is read of each: the
  counters add up and stay at the largest one, and the sets
  of tags are united. Neither the sums nor the sets depend
  on the order of the lines.

  Key definitions include:
    * `Stream.append`
    * `Comparison.add`
    * `Baseline.union`
    * `Baseline.Alike`
    * `Baseline.IsOf`

  Key lemmas include:
    * `Comparison.ofStream_append`
    * `Comparison.ofStream_perm`
    * `Baseline.IsOf.union`
    * `Baseline.IsOf.alike`
    * `readings_add_up_in_any_order`
-/

------------------------------------------------------------
-- Streams In A Row
------------------------------------------------------------

namespace PageHeat

/-
  Read one stream and then another. If the first one fails,
  the other one is not reached.
-/
def Stream.append (s t : Stream) : Stream :=
  match s.failure with
  | some _ => s
  | none => ⟨s.bytes ++ t.bytes, t.failure⟩

/- A line with the line feed that ends it. -/
structure IsLine (line : Bytes) : Prop where
  complete : IsComplete line
  feed_last : lineFeed ∉ line.dropLast

instance (line : Bytes) : Decidable (IsLine line) :=
  decidable_of_iff
    (IsComplete line ∧ lineFeed ∉ line.dropLast)
    ⟨fun h => ⟨h.1, h.2⟩, fun h => ⟨h.1, h.2⟩⟩

/- Lines in a row are cut into these lines again. -/
theorem isCutting_of_isLine
    {lines : List Bytes}
    (hLines : ∀ line ∈ lines, IsLine line) :
    IsCutting lines lines.flatten where
  flatten_eq := rfl
  ne_nil := by
    intro line hMem hNil
    have hComplete := (hLines line hMem).complete
    rw [hNil] at hComplete
    cases hComplete
  feed_last := fun line hMem => (hLines line hMem).feed_last
  complete := fun line hMem =>
    (hLines line (List.dropLast_subset _ hMem)).complete

/- Lines in a row end with a line feed, if there are any. -/
theorem endsLine_of_isLine
    {lines : List Bytes}
    (hLines : ∀ line ∈ lines, IsLine line) :
    EndsLine lines.flatten := by
  induction lines with
  | nil => exact EndsLine.nil
  | cons line lines ih =>
      have hLine := hLines line List.mem_cons_self
      have hRest := ih fun other hMem =>
        hLines other (List.mem_cons_of_mem _ hMem)
      have hConcat := hLine.complete.eq_dropLast_append
      rw [List.flatten_cons, hConcat, List.append_assoc]
      exact hRest.append_lineFeed line.dropLast

/- Behind a line end, the bare lines start anew. -/
theorem bareLines_append
    {front : Bytes}
    (hEnds : EndsLine front)
    (back : Bytes) :
    bareLines (front ++ back) =
      bareLines front ++ bareLines back := by
  rw [bareLines, cutLines_append hEnds, List.map_append]
  rfl

theorem bareLines_flatten
    {lines : List Bytes}
    (hLines : ∀ line ∈ lines, IsLine line) :
    bareLines lines.flatten = lines.map bareLine := by
  rw [bareLines, ← (isCutting_of_isLine hLines).eq_cutLines]

theorem map_readingOf_bareLines (bytes : Bytes) :
    (bareLines bytes).map readingOf =
      (cutLines bytes).map readingOf := by
  rw [bareLines, List.map_map]
  apply List.map_congr_left
  intro piece _
  exact readingOf_bareLine piece

------------------------------------------------------------
-- Sums Of Comparisons
------------------------------------------------------------

/- Add up two tallies, counter by counter. -/
def Tally.add (t u : Tally) : Tally where
  coldPages := Count.add t.coldPages u.coldPages
  coldAccesses := Count.add t.coldAccesses u.coldAccesses
  totalAccesses := Count.add t.totalAccesses u.totalAccesses

/- Add up two exact tallies, number by number. -/
def ExactTally.add (e f : ExactTally) : ExactTally where
  coldPages := e.coldPages + f.coldPages
  coldAccesses := e.coldAccesses + f.coldAccesses
  totalAccesses := e.totalAccesses + f.totalAccesses

theorem ExactTally.clip_add (e f : ExactTally) :
    (e.add f).clip = e.clip.add f.clip := by
  simp only [add, clip, Tally.add, Count.add_clip_clip]

namespace Comparison

/- Add up two comparisons. -/
def add (c d : Comparison) : Comparison where
  tally := c.tally.add d.tally
  malformed := c.malformed + d.malformed

theorem exact_append
    (b : Baseline)
    (front back : List Reading) :
    exact b (front ++ back) =
      (exact b front).add (exact b back) := by
  simp only [exact, ExactTally.add, total_append,
    List.filter_append, List.map_append,
    List.length_append]

theorem exact_perm
    (b : Baseline)
    {readings others : List Reading}
    (hPerm : readings.Perm others) :
    exact b readings = exact b others := by
  have hCold := hPerm.filter fun r => decide (r.IsCold b)
  have hColdTotal := total_perm (hCold.map Reading.count)
  have hTotal := total_perm (hPerm.map Reading.count)
  simp only [exact, hCold.length_eq, hColdTotal, hTotal]

/- A stream that ends is compared by its bare lines. -/
theorem ofStream_eq_bareLines
    (b : Baseline)
    (bytes : Bytes) :
    ofStream b ⟨bytes, none⟩ =
      .ok
        ⟨(exact b ((bareLines bytes).map readingOf)).clip,
          ((bareLines bytes).map readingOf).count
            .malformed⟩ := by
  rw [map_readingOf_bareLines]
  exact ofStream_eq_clip_exact b bytes

/- Streams in a row are compared one after the other. -/
theorem ofStream_append
    (b : Baseline)
    {s : Stream}
    (hEnds : EndsLine s.bytes)
    (t : Stream) :
    ofStream b (s.append t) =
      (ofStream b s).bind fun c =>
        (ofStream b t).map c.add := by
  rcases s with ⟨front, failure⟩
  cases failure with
  | some fault => rfl
  | none =>
      rcases t with ⟨back, failure⟩
      cases failure with
      | some fault =>
          rw [ofStream_eq_bareLines]
          rfl
      | none =>
          rw [Stream.append, ofStream_eq_bareLines,
            ofStream_eq_bareLines, ofStream_eq_bareLines,
            bareLines_append hEnds, List.map_append,
            exact_append, ExactTally.clip_add,
            List.count_append]
          rfl

/- The order of the lines does not matter. -/
theorem ofStream_perm
    (b : Baseline)
    {s t : Stream}
    (hFailure : s.failure = t.failure)
    (hPerm : (bareLines s.bytes).Perm (bareLines t.bytes)) :
    ofStream b s = ofStream b t := by
  rcases s with ⟨front, failure⟩
  rcases t with ⟨back, other⟩
  subst hFailure
  cases failure with
  | some fault => rfl
  | none =>
      have hReadings := hPerm.map readingOf
      rw [ofStream_eq_bareLines, ofStream_eq_bareLines,
        exact_perm b hReadings, hReadings.count_eq]

end Comparison

------------------------------------------------------------
-- Unions Of Baselines
------------------------------------------------------------

namespace Baseline

/- Unite the tags of two baselines. -/
def union (b c : Baseline) : Baseline where
  tags := b.tags ∪ c.tags
  malformed := b.malformed + c.malformed

/-
  Two baselines that nobody can tell apart: the order in
  which the tags were seen does not show.
-/
structure Alike (b c : Baseline) : Prop where
  knows : ∀ tag, b.Knows tag ↔ c.Knows tag
  size : b.size = c.size
  malformed : b.malformed = c.malformed

/- Two results of reading a baseline that are alike. -/
def ReadAlike :
    Except DeviceFault Baseline →
      Except DeviceFault Baseline → Prop
  | .ok b, .ok c => b.Alike c
  | .error fault, .error other => fault = other
  | _, _ => False

/-
  A baseline that has each tag of some lines once, and has
  counted the lines that it rejects.
-/
structure IsOf (b : Baseline) (lines : List Bytes) : Prop where
  nodup : b.tags.Nodup
  knows : ∀ tag, b.Knows tag ↔
    ∃ line ∈ lines, Names (readPiece line) tag
  malformed : b.malformed =
    lines.countP fun line => rejects (readPiece line)

/- A baseline is one of the bare lines that it was read from. -/
theorem exists_isOf (bytes : Bytes) :
    ∃ b, ofStream ⟨bytes, none⟩ = .ok b ∧
      b.IsOf (bareLines bytes) := by
  rcases ofStream_ofBytes bytes with
    ⟨b, hRead, hKnows, hMalformed⟩
  have hNames (piece : Bytes) (tag : Text) :
      Names (readPiece (bareLine piece)) tag ↔
        Names (readPiece piece) tag := by
    unfold Names
    rw [readEntry_bareLine]
  refine ⟨b, hRead, ?_, ?_, ?_⟩
  · cases hRead
    exact nodup_foldl_absorb _ List.nodup_nil
  · intro tag
    simp only [hKnows, bareLines, List.mem_map,
      exists_exists_and_eq_and, hNames]
  · rw [hMalformed, bareLines, List.countP_map]
    apply List.countP_congr
    intro piece _
    simp only [Function.comp_apply, rejects,
      readEntry_bareLine]

namespace IsOf

variable {b c : Baseline}
variable {lines others : List Bytes}

/- A union is of the lines of both baselines. -/
theorem union
    (hB : b.IsOf lines)
    (hC : c.IsOf others) :
    (b.union c).IsOf (lines ++ others) where
  nodup := hC.nodup.union b.tags
  knows := by
    intro tag
    have hUnion :
        (b.union c).Knows tag ↔ b.Knows tag ∨ c.Knows tag :=
      List.mem_union_iff
    rw [hUnion, hB.knows, hC.knows]
    simp only [List.mem_append, or_and_right, exists_or]
  malformed := by
    rw [List.countP_append, ← hB.malformed, ← hC.malformed]
    rfl

/- Baselines of the same lines in any order are alike. -/
theorem alike
    (hPerm : lines.Perm others)
    (hB : b.IsOf lines)
    (hC : c.IsOf others) :
    b.Alike c := by
  have hKnows : ∀ tag, b.Knows tag ↔ c.Knows tag := by
    intro tag
    rw [hB.knows, hC.knows]
    simp only [hPerm.mem_iff]
  have hTags : b.tags.Perm c.tags :=
    (List.perm_ext_iff_of_nodup hB.nodup hC.nodup).mpr
      hKnows
  refine ⟨hKnows, hTags.length_eq, ?_⟩
  rw [hB.malformed, hC.malformed, hPerm.countP_eq]

end IsOf

/- Streams in a row give the union of their baselines. -/
theorem ofStream_append
    {s : Stream}
    (hEnds : EndsLine s.bytes)
    (t : Stream) :
    ReadAlike (ofStream (s.append t))
      ((ofStream s).bind fun b =>
        (ofStream t).map b.union) := by
  rcases s with ⟨front, failure⟩
  cases failure with
  | some fault => exact rfl
  | none =>
      rcases exists_isOf front with ⟨b, hReadB, hB⟩
      rcases t with ⟨back, failure⟩
      cases failure with
      | some fault =>
          rw [hReadB]
          exact rfl
      | none =>
          rcases exists_isOf back with ⟨c, hReadC, hC⟩
          rcases exists_isOf (front ++ back) with
            ⟨d, hReadD, hD⟩
          rw [bareLines_append hEnds] at hD
          rw [Stream.append, hReadB, hReadC, hReadD]
          exact hD.alike (List.Perm.refl _) (hB.union hC)

/- The order of the lines does not matter. -/
theorem ofStream_perm
    {s t : Stream}
    (hFailure : s.failure = t.failure)
    (hPerm : (bareLines s.bytes).Perm (bareLines t.bytes)) :
    ReadAlike (ofStream s) (ofStream t) := by
  rcases s with ⟨front, failure⟩
  rcases t with ⟨back, other⟩
  subst hFailure
  cases failure with
  | some fault => exact rfl
  | none =>
      rcases exists_isOf front with ⟨b, hReadB, hB⟩
      rcases exists_isOf back with ⟨c, hReadC, hC⟩
      rw [hReadB, hReadC]
      exact hB.alike hPerm hC

end Baseline

------------------------------------------------------------
-- Logs In A Row And Lines In Another Order
------------------------------------------------------------

/- Lines in another order in front of the same stream. -/
theorem bareLines_perm
    {lines others : List Bytes}
    (hLines : ∀ line ∈ lines, IsLine line)
    (hPerm : lines.Perm others)
    (rest : Bytes) :
    (bareLines (lines.flatten ++ rest)).Perm
      (bareLines (others.flatten ++ rest)) := by
  have hOthers : ∀ line ∈ others, IsLine line := by
    intro line hMem
    exact hLines line (hPerm.mem_iff.mpr hMem)
  rw [bareLines_append (endsLine_of_isLine hLines),
    bareLines_append (endsLine_of_isLine hOthers),
    bareLines_flatten hLines, bareLines_flatten hOthers]
  exact (hPerm.map bareLine).append_right _

/-
  If a stream ends with a line feed, or is empty, and
  another one is read behind it, the comparison is the sum
  of both comparisons and the baseline is the union of both
  baselines.

  Lines with their line feeds can be put in any order, in
  front of whatever follows them. So can all lines of a log,
  the last one with or without a line feed.
-/
theorem readings_add_up_in_any_order (b : Baseline) :
    (∀ s t : Stream,
      EndsLine s.bytes →
      Comparison.ofStream b (s.append t) =
          ((Comparison.ofStream b s).bind fun c =>
            (Comparison.ofStream b t).map c.add) ∧
        Baseline.ReadAlike (Baseline.ofStream (s.append t))
          ((Baseline.ofStream s).bind fun c =>
            (Baseline.ofStream t).map c.union)) ∧
    (∀ lines others : List Bytes,
      (∀ line ∈ lines, IsLine line) →
      lines.Perm others →
      ∀ rest : Stream,
        let s := (Stream.ofBytes lines.flatten).append rest
        let t := (Stream.ofBytes others.flatten).append rest
        Comparison.ofStream b s = Comparison.ofStream b t ∧
          Baseline.ReadAlike (Baseline.ofStream s)
            (Baseline.ofStream t)) ∧
    ∀ s t : Stream,
      s.failure = t.failure →
      (bareLines s.bytes).Perm (bareLines t.bytes) →
      Comparison.ofStream b s = Comparison.ofStream b t ∧
        Baseline.ReadAlike (Baseline.ofStream s)
          (Baseline.ofStream t) := by
  refine ⟨?_, ?_, ?_⟩
  · intro s t hEnds
    exact
      ⟨Comparison.ofStream_append b hEnds t,
        Baseline.ofStream_append hEnds t⟩
  · intro lines others hLines hPerm rest s t
    have hBare := bareLines_perm hLines hPerm rest.bytes
    exact
      ⟨Comparison.ofStream_perm b rfl hBare,
        Baseline.ofStream_perm rfl hBare⟩
  · intro s t hFailure hPerm
    exact
      ⟨Comparison.ofStream_perm b hFailure hPerm,
        Baseline.ofStream_perm hFailure hPerm⟩

/-
  A counter that is full before the second log begins, two
  lines that change their places, and a last line without a
  line feed that becomes the first one.
-/
theorem readings_add_up_sample :
    Comparison.ofStream { }
        ((Stream.ofBytes
            (Utf8.encode
              "p,x,18446744073709551615\n")).append
          (Stream.ofBytes (Utf8.encode "q,y,1\nr"))) =
      .ok
        ⟨⟨2, 18446744073709551615, 18446744073709551615⟩,
          1⟩ ∧
    Comparison.ofStream { }
        ((Stream.ofBytes
            [Utf8.encode "p\n",
              Utf8.encode "q,y,1\n"].flatten).append
          (Stream.ofBytes (Utf8.encode "r,z,2"))) =
      Comparison.ofStream { }
        ((Stream.ofBytes
            [Utf8.encode "q,y,1\n",
              Utf8.encode "p\n"].flatten).append
          (Stream.ofBytes (Utf8.encode "r,z,2"))) ∧
    Baseline.ReadAlike
      (Baseline.ofStream
        (Stream.ofBytes (Utf8.encode "p,x\nq,y")))
      (Baseline.ofStream
        (Stream.ofBytes (Utf8.encode "q,y\np,x\n"))) := by
  have hMain := readings_add_up_in_any_order { }
  refine ⟨?_, ?_, ?_⟩
  · apply (hMain.1 _ _ (by decide +kernel)).1.trans
    decide +kernel
  · have hLines :
        ∀ line ∈ [Utf8.encode "p\n", Utf8.encode "q,y,1\n"],
          IsLine line := by
      decide +kernel
    exact
      (hMain.2.1 _ _ hLines (List.Perm.swap _ _ _) _).1
  · refine
      (hMain.2.2
        (Stream.ofBytes (Utf8.encode "p,x\nq,y"))
        (Stream.ofBytes (Utf8.encode "q,y\np,x\n"))
        rfl ?_).2
    decide +kernel

end PageHeat
