import PageHeat.Proofs.Selection.Term

/-
  How an expression is split into its terms.

  An expression spells its terms if they stand between its
  commas, with nothing but blanks around them. Splitting
  finds the one list of terms that an expression spells. It
  fails if, behind some terms and their commas, an unclosed
  text is left.

  Key definitions include:
    * `Leads`
    * `Spells`

  Key lemmas include:
    * `splitTerms_of_leads`
    * `splitTerms_eq_ok_iff`
    * `splitTerms_eq_error_iff`
-/

------------------------------------------------------------
-- Expressions
------------------------------------------------------------

namespace PageHeat

/-
  An expression that starts with some terms, a comma behind
  each of them, and goes on with a rest.
-/
inductive Leads (P : Text → Prop) :
    List Text → Text → Text → Prop
  | done (rest : Text) : Leads P [] rest rest
  | term
      {before term after next rest : Text}
      {terms : List Text}
      (hBefore : before.IsBlank)
      (hTerm : P term)
      (hAfter : after.IsBlank)
      (hNext : Leads P terms rest next) :
      Leads P (term :: terms) rest
        (before ++ term ++ after ++ ',' :: next)

/-
  An expression of some terms, with commas between them and
  nothing but blanks around them.
-/
inductive Spells (P : Text → Prop) :
    List Text → Text → Prop
  | last
      {before term after : Text}
      (hBefore : before.IsBlank)
      (hTerm : P term)
      (hAfter : after.IsBlank) :
      Spells P [term] (before ++ term ++ after)
  | term
      {before term after next : Text}
      {terms : List Text}
      (hBefore : before.IsBlank)
      (hTerm : P term)
      (hAfter : after.IsBlank)
      (hNext : Spells P terms next) :
      Spells P (term :: terms)
        (before ++ term ++ after ++ ',' :: next)

/- Terms of a kind are terms of any wider kind. -/
theorem Spells.imp
    {P Q : Text → Prop}
    (hImp : ∀ t, P t → Q t)
    {terms : List Text}
    {t : Text}
    (hSpells : Spells P terms t) :
    Spells Q terms t := by
  induction hSpells with
  | last hBefore hTerm hAfter =>
      exact .last hBefore (hImp _ hTerm) hAfter
  | term hBefore hTerm hAfter hNext ih =>
      exact .term hBefore (hImp _ hTerm) hAfter ih

/- All terms of an expression are of their kind. -/
theorem Spells.forall_mem
    {P : Text → Prop}
    {terms : List Text}
    {t : Text}
    (hSpells : Spells P terms t) :
    ∀ term ∈ terms, P term := by
  induction hSpells with
  | last hBefore hTerm hAfter =>
      intro other hMem
      rw [List.mem_singleton.mp hMem]
      exact hTerm
  | term hBefore hTerm hAfter hNext ih =>
      intro other hMem
      rcases List.mem_cons.mp hMem with rfl | hLater
      · exact hTerm
      · exact ih other hLater

------------------------------------------------------------
-- One Step
------------------------------------------------------------

/- A term that cannot be read ends the splitting. -/
theorem splitTerms_of_error
    {t : Text}
    {fault : Unterminated}
    (hRead : readTerm (Text.trimStart t) = .error fault) :
    splitTerms t = .error fault := by
  rw [splitTerms]
  split
  · rename_i other hOther
    cases hOther.symm.trans hRead
    rfl
  · rename_i term rest hOther
    cases hOther.symm.trans hRead

/- Behind a comma, the splitting goes on. -/
theorem splitTerms_of_comma
    {t term behind next : Text}
    (hRead : readTerm (Text.trimStart t) = .ok (term, behind))
    (hBehind : Text.trimStart behind = ',' :: next) :
    splitTerms t = (splitTerms next).map (term :: ·) := by
  rw [splitTerms]
  split
  · rename_i other hOther
    cases hOther.symm.trans hRead
  · rename_i other rest hOther
    cases hOther.symm.trans hRead
    split
    · rename_i after hAfter
      cases hAfter.symm.trans hBehind
      rfl
    · rename_i hNone
      exact absurd hBehind (hNone next)

/- Behind the last term, there is nothing. -/
theorem splitTerms_of_nil
    {t term behind : Text}
    (hRead : readTerm (Text.trimStart t) = .ok (term, behind))
    (hBehind : Text.trimStart behind = []) :
    splitTerms t = .ok [term] := by
  rw [splitTerms]
  split
  · rename_i other hOther
    cases hOther.symm.trans hRead
  · rename_i other rest hOther
    cases hOther.symm.trans hRead
    split
    · rename_i after hAfter
      cases hAfter.symm.trans hBehind
    · rfl

/- A term and its comma are split off. -/
theorem splitTerms_append_comma
    {before term after : Text}
    (hBefore : before.IsBlank)
    (hTerm : IsTerm term)
    (hAfter : after.IsBlank)
    (next : Text) :
    splitTerms (before ++ term ++ after ++ ',' :: next) =
      (splitTerms next).map (term :: ·) := by
  rcases readTerm_of_isTerm hBefore hTerm hAfter
    (.comma next) with ⟨behind, hRead, hBehind⟩
  exact splitTerms_of_comma hRead hBehind

/- A single term is the last one. -/
theorem splitTerms_single
    {before term after : Text}
    (hBefore : before.IsBlank)
    (hTerm : IsTerm term)
    (hAfter : after.IsBlank) :
    splitTerms (before ++ term ++ after) = .ok [term] := by
  rcases readTerm_of_isTerm hBefore hTerm hAfter .nothing
    with ⟨behind, hRead, hBehind⟩
  rw [List.append_nil] at hRead
  exact splitTerms_of_nil hRead hBehind

------------------------------------------------------------
-- All Terms
------------------------------------------------------------

theorem map_nil_append
    (terms? : Except Unterminated (List Text)) :
    terms?.map ([] ++ ·) = terms? := by
  cases terms? with
  | error fault => rfl
  | ok terms => rfl

/- Terms that lead are split off, whatever follows. -/
theorem splitTerms_of_leads
    {terms : List Text}
    {rest t : Text}
    (hLeads : Leads IsTerm terms rest t) :
    splitTerms t = (splitTerms rest).map (terms ++ ·) := by
  induction hLeads with
  | done rest => rw [map_nil_append]
  | term hBefore hTerm hAfter hNext ih =>
      rw [splitTerms_append_comma hBefore hTerm hAfter, ih]
      cases splitTerms _ with
      | error fault => rfl
      | ok others => rfl

/- The terms that an expression spells are split off. -/
theorem splitTerms_of_spells
    {terms : List Text}
    {t : Text}
    (hSpells : Spells IsTerm terms t) :
    splitTerms t = .ok terms := by
  induction hSpells with
  | last hBefore hTerm hAfter =>
      exact splitTerms_single hBefore hTerm hAfter
  | term hBefore hTerm hAfter hNext ih =>
      rw [splitTerms_append_comma hBefore hTerm hAfter, ih]
      rfl

/-
  What is left of an expression when it cannot be split: a
  text that is unclosed behind its blanks.
-/
def IsStuck (rest : Text) : Prop :=
  ∃ gap unclosed : Text, gap.IsBlank ∧ IsUnclosed unclosed ∧
    rest = gap ++ unclosed

/- A stuck text cannot be split. -/
theorem splitTerms_of_isStuck
    {rest : Text}
    (hStuck : IsStuck rest) :
    splitTerms rest = .error ⟨Text.trim rest⟩ := by
  rcases hStuck with ⟨gap, unclosed, hGap, hUnclosed, rfl⟩
  have hStart : Text.trimStart unclosed = unclosed := by
    rcases hUnclosed with ⟨sign, inside, hSign, rfl, -⟩
    rcases hSign with rfl | ⟨blanks, -, rfl⟩
    · exact Text.trimStart_cons (by decide) _
    · exact Text.trimStart_cons (by decide) _
  apply splitTerms_of_error
  rw [Text.trimStart_append hGap, hStart,
    readTerm_eq_error_iff]
  refine ⟨hUnclosed, ?_⟩
  rw [Text.trim, Text.trimStart_append hGap, Text.trim]

/-
  An expression spells the terms that it is split into, or
  some terms lead to the stuck text that is complained of.
-/
theorem splitTerms_spec (t : Text) :
    (∃ terms, splitTerms t = .ok terms ∧
      Spells IsTerm terms t) ∨
    ∃ terms rest, Leads IsTerm terms rest t ∧ IsStuck rest := by
  rcases Text.exists_trimStart t with ⟨w, hW, hStart⟩
  cases hRead : readTerm (Text.trimStart t) with
  | error fault =>
      right
      have hUnclosed :=
        ((readTerm_eq_error_iff _ _).mp hRead).1
      exact ⟨[], t, .done t, w, _, hW, hUnclosed, hStart⟩
  | ok read =>
      rcases read with ⟨term, behind⟩
      rcases isTerm_of_readTerm
          (Text.trimStart_trimStart t) hRead with
        ⟨hTerm, ⟨v, hV, hEq⟩, hRest⟩
      have hWhole :
          t = w ++ term ++ v ++ Text.trimStart behind := by
        rw [List.append_assoc, List.append_assoc,
          ← List.append_assoc term, ← hEq, ← hStart]
      cases hBehind : Text.trimStart behind with
      | nil =>
          left
          refine ⟨[term], splitTerms_of_nil hRead hBehind, ?_⟩
          rw [hBehind, List.append_nil] at hWhole
          rw [hWhole]
          exact .last hW hTerm hV
      | cons c next =>
          rw [hBehind] at hRest hWhole
          cases hRest
          have hShorter : next.length < t.length := by
            rw [hWhole, List.length_append, List.length_cons]
            omega
          rcases splitTerms_spec next with
            ⟨terms, hSplit, hSpells⟩ |
            ⟨terms, rest, hLeads, hStuck⟩
          · left
            refine ⟨term :: terms, ?_, ?_⟩
            · rw [splitTerms_of_comma hRead hBehind, hSplit]
              rfl
            · rw [hWhole]
              exact .term hW hTerm hV hSpells
          · right
            refine ⟨term :: terms, rest, ?_, hStuck⟩
            rw [hWhole]
            exact .term hW hTerm hV hLeads
termination_by t.length

/- Splitting gives the terms that an expression spells. -/
theorem splitTerms_eq_ok_iff
    (t : Text)
    (terms : List Text) :
    splitTerms t = .ok terms ↔ Spells IsTerm terms t := by
  constructor
  · intro hOk
    rcases splitTerms_spec t with
      ⟨others, hSplit, hSpells⟩ | ⟨others, rest, hLeads, hStuck⟩
    · cases hSplit.symm.trans hOk
      exact hSpells
    · rw [splitTerms_of_leads hLeads,
        splitTerms_of_isStuck hStuck] at hOk
      cases hOk
  · exact splitTerms_of_spells

/- Splitting fails at the stuck text behind some terms. -/
theorem splitTerms_eq_error_iff
    (t : Text)
    (fault : Unterminated) :
    splitTerms t = .error fault ↔
      ∃ terms rest, Leads IsTerm terms rest t ∧
        IsStuck rest ∧ fault = ⟨Text.trim rest⟩ := by
  constructor
  · intro hError
    rcases splitTerms_spec t with
      ⟨terms, hSplit, -⟩ | ⟨terms, rest, hLeads, hStuck⟩
    · cases hSplit.symm.trans hError
    · refine ⟨terms, rest, hLeads, hStuck, ?_⟩
      rw [splitTerms_of_leads hLeads,
        splitTerms_of_isStuck hStuck] at hError
      cases hError
      rfl
  · rintro ⟨terms, rest, hLeads, hStuck, rfl⟩
    rw [splitTerms_of_leads hLeads,
      splitTerms_of_isStuck hStuck]
    rfl

end PageHeat
