import PageHeat.Proofs.Selection.Splitting
import PageHeat.Selection.Basic

/-
  The words of terms, and what is added to a selection.

  The word of a term is what it says behind its sign. A word
  that starts with a slash ends with another one if it comes
  from splitting an expression, so a selection is never
  given an unterminated one.

  Key definitions include:
    * `wordOf`
    * `IsSlashed`

  Key lemmas include:
    * `isSlashed_of_isTerm`
    * `addTerm_marked`
    * `addTerm_unmarked`
    * `read_ne_unterminated`
-/

------------------------------------------------------------
-- Words
------------------------------------------------------------

namespace PageHeat

/- What a term says, without a sign in front of it. -/
def wordOf : Text → Text
  | '!' :: rest => Text.trim rest
  | term => term

/- A word that a slash opens, and that another one closes. -/
def IsSlashed (word : Text) : Prop :=
  ∃ body, word = '/' :: (body ++ ['/'])

theorem wordOf_unmarked
    {term : Text}
    (hMark : term.head? ≠ some '!') :
    wordOf term = term := by
  unfold wordOf
  split
  · exact absurd rfl hMark
  · rfl

/- The word of a term between slashes is without its sign. -/
theorem wordOf_slashed
    {sign body : Text}
    (hSign : IsSign sign) :
    wordOf (sign ++ '/' :: (body ++ ['/'])) =
      '/' :: (body ++ ['/']) := by
  rcases hSign with rfl | ⟨gap, hGap, rfl⟩
  · rfl
  · have hTrim := Text.trim_padded hGap
      (isTrimmed_slashes body) Text.isBlank_nil
    rw [List.append_nil] at hTrim
    exact hTrim

/- A word that a slash opens is closed, if it is a term's. -/
theorem isSlashed_of_isTerm
    {term inside : Text}
    (hTerm : IsTerm term)
    (hWord : wordOf term = '/' :: inside) :
    IsSlashed (wordOf term) := by
  cases hTerm with
  | slashed hSign hBody => exact ⟨_, wordOf_slashed hSign⟩
  | plain hTrimmed hComma hOpen =>
      exfalso
      apply hOpen
      unfold wordOf at hWord
      split at hWord
      · rename_i rest
        rcases Text.exists_padding rest with
          ⟨w, v, hW, -, hEq⟩
        refine ⟨'!' :: w, inside ++ v, .inr ⟨w, hW, rfl⟩, ?_⟩
        rw [hWord, List.append_assoc, List.cons_append] at hEq
        rw [List.cons_append, ← hEq]
      · exact ⟨[], inside, .inl rfl, hWord⟩

------------------------------------------------------------
-- Adding Terms
------------------------------------------------------------

section Adding

variable {α : Type}

/- A term with a sign excludes, unless it says nothing. -/
theorem addTerm_marked
    (engine : PatternEngine α)
    (s : Selection α)
    {rest : Text}
    (hSome : Text.trim rest ≠ []) :
    s.addTerm engine ('!' :: rest) =
      (Matcher.read engine (Text.trim rest)).map
        fun m => { s with excluded := s.excluded ++ [m] } := by
  rw [Selection.addTerm]
  simp only [List.isEmpty_iff, if_neg hSome]

/- Any other term selects. -/
theorem addTerm_unmarked
    (engine : PatternEngine α)
    (s : Selection α)
    {term : Text}
    (hMark : term.head? ≠ some '!') :
    s.addTerm engine term =
      (Matcher.read engine term).map
        fun m => { s with wanted := s.wanted ++ [m] } := by
  unfold Selection.addTerm
  split
  · exact absurd rfl hMark
  · rfl

/- What fails after a change has failed before it. -/
theorem of_map_eq_error
    {ε β γ : Type}
    {x : Except ε β}
    {f : β → γ}
    {fault : ε}
    (hMap : x.map f = .error fault) :
    x = .error fault := by
  cases x with
  | error other =>
      cases hMap
      rfl
  | ok value => cases hMap

/- A term is unterminated only if its word is. -/
theorem of_addTerm_unterminated
    {engine : PatternEngine α}
    {s : Selection α}
    {term fault : Text}
    (hAdd :
      s.addTerm engine term = .error (.unterminated fault)) :
    Matcher.read engine (wordOf term) =
      .error (.unterminated fault) := by
  by_cases hMark : term.head? = some '!'
  · rcases List.head?_eq_some_iff.mp hMark with ⟨rest, rfl⟩
    by_cases hNone : Text.trim rest = []
    · rw [Selection.addTerm] at hAdd
      simp only [List.isEmpty_iff, if_pos hNone] at hAdd
      cases hAdd
    · rw [addTerm_marked engine s hNone] at hAdd
      exact of_map_eq_error hAdd
  · rw [addTerm_unmarked engine s hMark] at hAdd
    rw [wordOf_unmarked hMark]
    exact of_map_eq_error hAdd

------------------------------------------------------------
-- Faults Of Selections
------------------------------------------------------------

/- Only a word that a slash opens can be unterminated. -/
theorem of_matcher_unterminated
    {engine : PatternEngine α}
    {word term : Text}
    (hRead :
      Matcher.read engine word = .error (.unterminated term)) :
    ∃ inside, word = '/' :: inside ∧ ¬ IsSlashed word := by
  unfold Matcher.read at hRead
  split at hRead
  · rename_i inside
    split at hRead
    · split at hRead
      · cases hRead
      · cases hRead
    · rename_i hLast
      refine ⟨inside, rfl, ?_⟩
      rintro ⟨body, hEq⟩
      cases hEq
      exact hLast List.getLast?_concat
  · cases hRead

/- A fault of a selection is the fault of one of its terms. -/
theorem of_foldlM_addTerm_error
    {engine : PatternEngine α}
    {s : Selection α}
    {terms : List Text}
    {fault : FilterFault}
    (hFold :
      terms.foldlM (Selection.addTerm engine) s =
        .error fault) :
    ∃ term ∈ terms, ∃ s',
      Selection.addTerm engine s' term = .error fault := by
  induction terms generalizing s with
  | nil => cases hFold
  | cons term terms ih =>
      rw [List.foldlM_cons] at hFold
      cases hAdd : s.addTerm engine term with
      | error other =>
          rw [hAdd] at hFold
          cases hFold
          exact ⟨term, List.mem_cons_self, s, hAdd⟩
      | ok next =>
          rw [hAdd] at hFold
          rcases ih hFold with ⟨later, hMem, s', hError⟩
          exact ⟨later, List.mem_cons_of_mem _ hMem, s', hError⟩

/- No term that is split off is unterminated. -/
theorem read_ne_unterminated
    (engine : PatternEngine α)
    {t : Text}
    {terms : List Text}
    (hSplit : splitTerms t = .ok terms)
    (term : Text) :
    Selection.read engine t ≠ .error (.unterminated term) := by
  intro hRead
  have hSpells := (splitTerms_eq_ok_iff t terms).mp hSplit
  unfold Selection.read at hRead
  rw [hSplit] at hRead
  rcases of_foldlM_addTerm_error hRead with
    ⟨later, hMem, s, hAdd⟩
  have hTerm :=
    hSpells.forall_mem later (List.mem_filter.mp hMem).1
  rcases of_matcher_unterminated (of_addTerm_unterminated hAdd)
    with ⟨inside, hWord, hOpen⟩
  exact hOpen (isSlashed_of_isTerm hTerm hWord)

end Adding

end PageHeat
