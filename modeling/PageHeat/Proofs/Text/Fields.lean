import PageHeat.Text.Basic

/-
  The pieces of a text between its separators, and what
  stands in front of it.

  `Text.pieceAt` looks a piece up without splitting the
  text: it skips as many separators as are asked for and
  takes what stands before the next one.

  Key definitions include:
    * `Text.pieceAt`

  Key lemmas include:
    * `Text.length_splitOn`
    * `Text.notMem_pieceAt`
    * `Text.pieceAt_subset`
    * `Text.getElem?_splitOn`
    * `Text.stripPrefix?_eq_some_iff`
-/

------------------------------------------------------------
-- Splitting
------------------------------------------------------------

namespace PageHeat

namespace Text

section Splitting

variable {α : Type} [DecidableEq α]

theorem splitOn_sep
    (sep : α)
    (t : List α) :
    splitOn sep (sep :: t) = [] :: splitOn sep t := by
  rw [splitOn, if_pos rfl]

/- There is always a first piece. -/
theorem splitOn_ne_nil
    (sep : α)
    (t : List α) :
    splitOn sep t ≠ [] := by
  cases t with
  | nil => exact List.cons_ne_nil _ _
  | cons c t =>
      rw [splitOn]
      split
      · exact List.cons_ne_nil _ _
      · split <;> exact List.cons_ne_nil _ _

/- Any other character belongs to the first piece. -/
theorem splitOn_cons_of_ne
    {sep c : α}
    (hNe : c ≠ sep)
    (t : List α) :
    ∃ piece pieces,
      splitOn sep t = piece :: pieces ∧
        splitOn sep (c :: t) = (c :: piece) :: pieces := by
  cases hSplit : splitOn sep t with
  | nil => exact absurd hSplit (splitOn_ne_nil sep t)
  | cons piece pieces =>
      refine ⟨piece, pieces, rfl, ?_⟩
      rw [splitOn, if_neg hNe, hSplit]

/- There is one piece more than there are separators. -/
theorem length_splitOn
    (sep : α)
    (t : List α) :
    (splitOn sep t).length = t.count sep + 1 := by
  induction t with
  | nil => rfl
  | cons c t ih =>
      by_cases hSep : c = sep
      · subst hSep
        rw [splitOn_sep, List.length_cons, ih,
          List.count_cons_self]
      · rcases splitOn_cons_of_ne hSep t with
          ⟨piece, pieces, hRest, hAll⟩
        rw [hAll, List.length_cons,
          List.count_cons_of_ne hSep, ← ih, hRest,
          List.length_cons]

/- A text without separator is its only piece. -/
theorem splitOn_of_notMem
    {sep : α}
    {t : List α}
    (hNone : sep ∉ t) :
    splitOn sep t = [t] := by
  induction t with
  | nil => rfl
  | cons c t ih =>
      have hNe : c ≠ sep := fun hEq =>
        hNone (hEq ▸ List.mem_cons_self)
      have hRest := ih (fun hMem =>
        hNone (List.mem_cons_of_mem _ hMem))
      rw [splitOn, if_neg hNe, hRest]

/- A separator splits whatever stands around it. -/
theorem splitOn_append
    (sep : α)
    (t rest : List α) :
    splitOn sep (t ++ sep :: rest) =
      splitOn sep t ++ splitOn sep rest := by
  induction t with
  | nil => exact splitOn_sep sep rest
  | cons c t ih =>
      rw [List.cons_append]
      by_cases hSep : c = sep
      · subst hSep
        rw [splitOn_sep, splitOn_sep, ih]
        rfl
      · rcases splitOn_cons_of_ne hSep t with
          ⟨piece, pieces, hSplit, hCons⟩
        rw [hSplit] at ih
        rw [splitOn, if_neg hSep, ih, hCons]
        rfl

/- A text without separator is added to the last piece. -/
theorem splitOn_append_of_notMem
    {sep : α}
    {v : List α}
    (hNone : sep ∉ v)
    (t : List α) :
    ∃ pieces last,
      splitOn sep t = pieces ++ [last] ∧
        splitOn sep (t ++ v) = pieces ++ [last ++ v] := by
  induction t with
  | nil => exact ⟨[], [], rfl, splitOn_of_notMem hNone⟩
  | cons c t ih =>
      rcases ih with ⟨pieces, last, hShort, hLong⟩
      by_cases hSep : c = sep
      · subst hSep
        refine ⟨[] :: pieces, last, ?_, ?_⟩
        · rw [splitOn_sep, hShort, List.cons_append]
        · rw [List.cons_append, splitOn_sep, hLong,
            List.cons_append]
      · rw [List.cons_append, splitOn, splitOn, if_neg hSep,
          if_neg hSep, hShort, hLong]
        cases pieces with
        | nil => exact ⟨[], c :: last, rfl, rfl⟩
        | cons piece pieces =>
            exact ⟨(c :: piece) :: pieces, last, rfl, rfl⟩

/- No piece has a separator. -/
theorem notMem_of_mem_splitOn
    {sep : α}
    {t piece : List α}
    (hPiece : piece ∈ splitOn sep t) :
    sep ∉ piece := by
  induction t generalizing piece with
  | nil =>
      rw [List.mem_singleton.mp hPiece]
      exact List.not_mem_nil
  | cons c t ih =>
      by_cases hSep : c = sep
      · subst hSep
        rw [splitOn_sep, List.mem_cons] at hPiece
        rcases hPiece with rfl | hRest
        · exact List.not_mem_nil
        · exact ih hRest
      · rcases splitOn_cons_of_ne hSep t with
          ⟨first, pieces, hSplit, hCons⟩
        rw [hCons, List.mem_cons] at hPiece
        rw [hSplit] at ih
        rcases hPiece with rfl | hRest
        · intro hMem
          rcases List.mem_cons.mp hMem with hEq | hFirst
          · exact hSep hEq.symm
          · exact ih List.mem_cons_self hFirst
        · exact ih (List.mem_cons_of_mem _ hRest)

end Splitting

------------------------------------------------------------
-- Looking Up Pieces
------------------------------------------------------------

/- The piece behind a number of separators. -/
def pieceAt (sep : Char) : Nat → Text → Text
  | 0, t => t.takeWhile (· != sep)
  | n + 1, t =>
      pieceAt sep n ((t.dropWhile (· != sep)).drop 1)

theorem pieceAt_zero_cons
    {sep c : Char}
    (hNe : c ≠ sep)
    (t : Text) :
    pieceAt sep 0 (c :: t) = c :: pieceAt sep 0 t := by
  simp [pieceAt, hNe]

theorem pieceAt_succ_cons
    {sep c : Char}
    (hNe : c ≠ sep)
    (n : Nat)
    (t : Text) :
    pieceAt sep (n + 1) (c :: t) = pieceAt sep (n + 1) t := by
  simp [pieceAt, hNe]

theorem pieceAt_succ_sep
    (sep : Char)
    (n : Nat)
    (t : Text) :
    pieceAt sep (n + 1) (sep :: t) = pieceAt sep n t := by
  simp [pieceAt]

/- A piece that is looked up has no separator. -/
theorem notMem_pieceAt
    (sep : Char)
    (n : Nat)
    (t : Text) :
    sep ∉ pieceAt sep n t := by
  induction n generalizing t with
  | zero =>
      intro hMem
      have hNe := List.all_eq_true.mp List.all_takeWhile sep hMem
      simp at hNe
  | succ n ih => exact ih _

/- It is a part of the text. -/
theorem pieceAt_subset
    (sep : Char)
    (n : Nat)
    (t : Text) :
    pieceAt sep n t ⊆ t := by
  induction n generalizing t with
  | zero => exact (List.takeWhile_sublist _).subset
  | succ n ih =>
      have hRest :=
        (List.drop_sublist 1 (t.dropWhile (· != sep))).trans
          (List.dropWhile_sublist _)
      exact List.Subset.trans (ih _) hRest.subset

/- Splitting gives the pieces that are looked up. -/
theorem getElem?_splitOn
    (sep : Char)
    (t : Text)
    (n : Nat) :
    (splitOn sep t)[n]? =
      if n ≤ t.count sep then some (pieceAt sep n t)
      else none := by
  induction t generalizing n with
  | nil =>
      cases n with
      | zero => rfl
      | succ n => simp [splitOn]
  | cons c t ih =>
      by_cases hSep : c = sep
      · subst hSep
        rw [splitOn_sep, List.count_cons_self]
        cases n with
        | zero => simp [pieceAt]
        | succ n =>
            rw [List.getElem?_cons_succ, ih,
              pieceAt_succ_sep]
            simp only [Nat.add_le_add_iff_right]
      · rcases splitOn_cons_of_ne hSep t with
          ⟨piece, pieces, hRest, hAll⟩
        rw [hAll, List.count_cons_of_ne hSep]
        have hIh := ih n
        rw [hRest] at hIh
        cases n with
        | zero =>
            simp only [List.getElem?_cons_zero, Nat.zero_le,
              if_true, Option.some.injEq] at hIh ⊢
            rw [hIh, pieceAt_zero_cons hSep]
        | succ n =>
            rw [List.getElem?_cons_succ] at hIh ⊢
            rw [hIh, pieceAt_succ_cons hSep]

------------------------------------------------------------
-- Prefixes
------------------------------------------------------------

/- A prefix is stripped exactly if it stands in front. -/
theorem stripPrefix?_eq_some_iff
    (lead t rest : Text) :
    stripPrefix? lead t = some rest ↔ t = lead ++ rest := by
  unfold stripPrefix?
  by_cases hLead : lead <+: t
  · rw [if_pos (List.isPrefixOf_iff_prefix.mpr hLead),
      Option.some.injEq]
    rcases hLead with ⟨behind, rfl⟩
    rw [List.drop_left, List.append_cancel_left_eq]
  · have hNot : ¬ lead.isPrefixOf t = true := fun h =>
      hLead (List.isPrefixOf_iff_prefix.mp h)
    rw [if_neg hNot]
    constructor
    · intro hNone
      cases hNone
    · rintro rfl
      exact absurd (List.prefix_append lead rest) hLead

theorem stripPrefix?_append (lead t : Text) :
    stripPrefix? lead (lead ++ t) = some t :=
  (stripPrefix?_eq_some_iff lead _ t).mpr rfl

end Text

end PageHeat
