import PageHeat.Proofs.Selection.Meaning

/-
  Expressions that are joined by a comma.

  No end of a term moves when something is appended behind a
  comma, so a joined expression has the terms of both, one
  list behind the other. What an expression selects is said
  by its terms alone, whatever their order: no negated term
  may ask for a name, and a positive one has to, if there is
  one.

  Key definitions include:
    * `IsNegatedTerm`
    * `IsPositiveTerm`
    * `WordAsks`
    * `IsReadable`
    * `Selection.place`

  Key lemmas include:
    * `splitTerms_append`
    * `addTerm_eq_ok_iff`
    * `exists_read_iff`
    * `selects_iff_terms`
    * `joined_expressions_have_all_terms`
-/

------------------------------------------------------------
-- Terms Of Joined Expressions
------------------------------------------------------------

namespace PageHeat

/- An expression leads with its terms to what is appended. -/
theorem Spells.leads
    {P : Text → Prop}
    {terms : List Text}
    {a : Text}
    (hSpells : Spells P terms a)
    (b : Text) :
    Leads P terms b (a ++ ',' :: b) := by
  induction hSpells with
  | last hBefore hTerm hAfter =>
      exact .term hBefore hTerm hAfter (.done b)
  | term hBefore hTerm hAfter hNext ih =>
      rw [List.append_assoc, List.cons_append]
      exact .term hBefore hTerm hAfter ih

/- A joined expression has the terms of both. -/
theorem splitTerms_append
    {a : Text}
    {terms : List Text}
    (hSplit : splitTerms a = .ok terms)
    (b : Text) :
    splitTerms (a ++ ',' :: b) =
      (splitTerms b).map (terms ++ ·) := by
  have hSpells := (splitTerms_eq_ok_iff a terms).mp hSplit
  exact splitTerms_of_leads (hSpells.leads b)

------------------------------------------------------------
-- What Terms Ask For
------------------------------------------------------------

/- A term that excludes the names that its word asks for. -/
def IsNegatedTerm (term : Text) : Prop :=
  term.head? = some '!'

instance (term : Text) : Decidable (IsNegatedTerm term) :=
  inferInstanceAs (Decidable (_ = _))

/- A term that selects the names that its word asks for. -/
def IsPositiveTerm (term : Text) : Prop :=
  term ≠ [] ∧ ¬ IsNegatedTerm term

section Terms

variable {α : Type}
variable {engine : PatternEngine α}

/-
  A word that asks for a name: the pattern between its
  slashes occurs in the name, or the name has the word as a
  part.
-/
inductive WordAsks
    (engine : PatternEngine α)
    (name : Text) : Text → Prop
  | pattern
      {body : Text}
      {pattern : α}
      (hRead : engine.read body = .ok pattern)
      (hOccurs : engine.occursIn pattern name = true) :
      WordAsks engine name ('/' :: (body ++ ['/']))
  | part
      {word : Text}
      (hSlash : word.head? ≠ some '/')
      (hPart : word <:+: name) :
      WordAsks engine name word

/- A matcher matches the names that its word asks for. -/
theorem matches_iff_wordAsks
    {word : Text}
    {m : Matcher α}
    (hRead : Matcher.read engine word = .ok m)
    (name : Text) :
    m.Matches engine name ↔ WordAsks engine name word := by
  unfold Matcher.read at hRead
  split at hRead
  · rename_i rest
    split at hRead
    · rename_i hLast
      rcases List.getLast?_eq_some_iff.mp hLast with
        ⟨body, rfl⟩
      rw [List.dropLast_concat] at hRead
      split at hRead
      · rename_i pattern hPattern
        cases hRead
        constructor
        · exact .pattern hPattern
        · intro hAsks
          generalize hWord : '/' :: (body ++ ['/']) = word
            at hAsks
          cases hAsks with
          | @pattern other found hFound hOccurs =>
              have hBody : body = other := by
                simpa using hWord
              subst hBody
              cases hFound.symm.trans hPattern
              exact hOccurs
          | part hSlash hPart =>
              rw [← hWord] at hSlash
              exact absurd rfl hSlash
      · cases hRead
    · cases hRead
  · rename_i hSlash
    cases hRead
    have hHead : word.head? ≠ some '/' := by
      intro hHead
      rcases List.head?_eq_some_iff.mp hHead with ⟨rest, hEq⟩
      exact hSlash rest hEq
    rw [Matcher.Matches, Text.occursIn_iff]
    constructor
    · exact .part hHead
    · intro hAsks
      cases hAsks with
      | pattern hRead hOccurs => exact absurd rfl hHead
      | part _ hPart => exact hPart

------------------------------------------------------------
-- Selections Of Terms
------------------------------------------------------------

/- A term that says something that can be read. -/
def IsReadable
    (engine : PatternEngine α)
    (term : Text) : Prop :=
  wordOf term ≠ [] ∧
    ∃ m, Matcher.read engine (wordOf term) = .ok m

/- Put the matcher of a term where it belongs. -/
def Selection.place
    (s : Selection α)
    (term : Text)
    (m : Matcher α) : Selection α :=
  if IsNegatedTerm term then
    { s with excluded := s.excluded ++ [m] }
  else
    { s with wanted := s.wanted ++ [m] }

/- The matcher of a negated term excludes. -/
theorem place_of_negated
    {term : Text}
    (hNegated : IsNegatedTerm term)
    (s : Selection α)
    (m : Matcher α) :
    s.place term m =
      { s with excluded := s.excluded ++ [m] } :=
  if_pos hNegated

/- The matcher of any other term selects. -/
theorem place_of_not_negated
    {term : Text}
    (hPlain : ¬ IsNegatedTerm term)
    (s : Selection α)
    (m : Matcher α) :
    s.place term m = { s with wanted := s.wanted ++ [m] } :=
  if_neg hPlain

/- What succeeds after a change has succeeded before it. -/
theorem map_eq_ok_iff
    {ε β γ : Type}
    {x : Except ε β}
    {f : β → γ}
    {c : γ} :
    x.map f = .ok c ↔ ∃ b, x = .ok b ∧ c = f b := by
  cases x with
  | error fault => simp [Except.map]
  | ok b => simp [Except.map, eq_comm]

/- A term is added by placing the matcher of its word. -/
theorem addTerm_eq_ok_iff
    {term : Text}
    (hSome : term ≠ [])
    (s s' : Selection α) :
    s.addTerm engine term = .ok s' ↔
      wordOf term ≠ [] ∧
        ∃ m, Matcher.read engine (wordOf term) = .ok m ∧
          s' = s.place term m := by
  by_cases hNegated : IsNegatedTerm term
  · simp only [place_of_negated hNegated]
    rcases List.head?_eq_some_iff.mp hNegated with
      ⟨rest, rfl⟩
    have hWord : wordOf ('!' :: rest) = Text.trim rest := rfl
    rw [hWord]
    by_cases hNone : Text.trim rest = []
    · simp [Selection.addTerm, hNone]
    · rw [addTerm_marked engine s hNone, map_eq_ok_iff]
      simp only [ne_eq, hNone, not_false_eq_true, true_and]
  · simp only [place_of_not_negated hNegated]
    rw [wordOf_unmarked hNegated,
      addTerm_unmarked engine s hNegated, map_eq_ok_iff]
    simp only [ne_eq, hSome, not_false_eq_true, true_and]

variable {terms : List Text}

/- Terms are added exactly if each of them can be read. -/
theorem exists_foldlM_addTerm_iff
    (hSome : ∀ term ∈ terms, term ≠ [])
    (s : Selection α) :
    (∃ s', terms.foldlM (Selection.addTerm engine) s =
        .ok s') ↔
      ∀ term ∈ terms, IsReadable engine term := by
  induction terms generalizing s with
  | nil =>
      constructor
      · intro _ term hMem
        exact absurd hMem List.not_mem_nil
      · intro _
        exact ⟨s, rfl⟩
  | cons term terms ih =>
      rw [List.forall_mem_cons] at hSome ⊢
      rw [List.foldlM_cons]
      have hAdd := @addTerm_eq_ok_iff _ engine _ hSome.1 s
      constructor
      · rintro ⟨s', hFold⟩
        cases hNext : s.addTerm engine term with
        | error fault =>
            rw [hNext] at hFold
            cases hFold
        | ok next =>
            rw [hNext] at hFold
            rcases (hAdd next).mp hNext with
              ⟨hWord, m, hRead, -⟩
            exact
              ⟨⟨hWord, m, hRead⟩,
                (ih hSome.2 next).mp ⟨s', hFold⟩⟩
      · rintro ⟨⟨hWord, m, hRead⟩, hOthers⟩
        rw [(hAdd _).mpr ⟨hWord, m, hRead, rfl⟩]
        exact (ih hSome.2 _).mpr hOthers

/- The matchers of a selection are those of its terms. -/
theorem mem_foldlM_addTerm_iff
    (hSome : ∀ term ∈ terms, term ≠ [])
    {s s' : Selection α}
    (hFold :
      terms.foldlM (Selection.addTerm engine) s = .ok s')
    (m : Matcher α) :
    (m ∈ s'.wanted ↔ m ∈ s.wanted ∨
      ∃ term ∈ terms, ¬ IsNegatedTerm term ∧
        Matcher.read engine (wordOf term) = .ok m) ∧
    (m ∈ s'.excluded ↔ m ∈ s.excluded ∨
      ∃ term ∈ terms, IsNegatedTerm term ∧
        Matcher.read engine (wordOf term) = .ok m) := by
  induction terms generalizing s with
  | nil =>
      cases hFold
      simp
  | cons term terms ih =>
      rw [List.forall_mem_cons] at hSome
      rw [List.foldlM_cons] at hFold
      cases hNext : s.addTerm engine term with
      | error fault =>
          rw [hNext] at hFold
          cases hFold
      | ok next =>
          rw [hNext] at hFold
          rcases (addTerm_eq_ok_iff hSome.1 s next).mp hNext
            with ⟨-, other, hRead, rfl⟩
          rw [(ih hSome.2 hFold).1, (ih hSome.2 hFold).2]
          by_cases hNegated : IsNegatedTerm term
          · rw [place_of_negated hNegated]
            simp [hNegated, hRead, or_assoc, eq_comm]
          · rw [place_of_not_negated hNegated]
            simp [hNegated, hRead, or_assoc, eq_comm]

------------------------------------------------------------
-- Expressions
------------------------------------------------------------

variable {expression : Text}

theorem mem_filter_said_iff (term : Text) :
    term ∈ terms.filter (!·.isEmpty) ↔
      term ∈ terms ∧ term ≠ [] := by
  rw [List.mem_filter]
  simp

theorem read_of_splitTerms
    (hSplit : splitTerms expression = .ok terms) :
    Selection.read engine expression =
      (terms.filter (!·.isEmpty)).foldlM
        (Selection.addTerm engine) { } := by
  rw [Selection.read, hSplit]

theorem exists_splitTerms_of_read
    {s : Selection α}
    (hRead : Selection.read engine expression = .ok s) :
    ∃ terms, splitTerms expression = .ok terms := by
  cases hSplit : splitTerms expression with
  | error fault =>
      rw [Selection.read, hSplit] at hRead
      cases hRead
  | ok terms => exact ⟨terms, rfl⟩

/-
  An expression is read exactly if each of its terms that
  says something can be read.
-/
theorem exists_read_iff
    (hSplit : splitTerms expression = .ok terms) :
    (∃ s, Selection.read engine expression = .ok s) ↔
      ∀ term ∈ terms, term ≠ [] → IsReadable engine term := by
  have hSome :
      ∀ term ∈ terms.filter (!·.isEmpty), term ≠ [] := by
    intro term hMem
    exact ((mem_filter_said_iff term).mp hMem).2
  rw [read_of_splitTerms hSplit,
    exists_foldlM_addTerm_iff hSome]
  simp only [mem_filter_said_iff, and_imp]

/- The matchers of an expression are those of its terms. -/
theorem mem_read_iff
    {s : Selection α}
    (hSplit : splitTerms expression = .ok terms)
    (hRead : Selection.read engine expression = .ok s)
    (m : Matcher α) :
    (m ∈ s.wanted ↔
      ∃ term ∈ terms, IsPositiveTerm term ∧
        Matcher.read engine (wordOf term) = .ok m) ∧
    (m ∈ s.excluded ↔
      ∃ term ∈ terms, IsNegatedTerm term ∧
        Matcher.read engine (wordOf term) = .ok m) := by
  rw [read_of_splitTerms hSplit] at hRead
  have hSome :
      ∀ term ∈ terms.filter (!·.isEmpty), term ≠ [] := by
    intro term hMem
    exact ((mem_filter_said_iff term).mp hMem).2
  rcases mem_foldlM_addTerm_iff hSome hRead m with
    ⟨hWanted, hExcluded⟩
  constructor
  · rw [hWanted, or_iff_right List.not_mem_nil]
    simp only [mem_filter_said_iff, IsPositiveTerm, and_assoc]
  · rw [hExcluded, or_iff_right List.not_mem_nil]
    constructor
    · rintro ⟨term, hMem, hRest⟩
      exact
        ⟨term, ((mem_filter_said_iff term).mp hMem).1, hRest⟩
    · rintro ⟨term, hMem, hNegated, hWord⟩
      refine ⟨term, ?_, hNegated, hWord⟩
      rw [mem_filter_said_iff]
      refine ⟨hMem, ?_⟩
      rintro rfl
      cases hNegated

/- Matchers of readable terms match what their words ask for. -/
theorem exists_matches_iff
    {P : Text → Prop}
    {matchers : List (Matcher α)}
    (hReadable :
      ∀ term ∈ terms, P term → IsReadable engine term)
    (hMatchers :
      ∀ m, m ∈ matchers ↔
        ∃ term ∈ terms, P term ∧
          Matcher.read engine (wordOf term) = .ok m)
    (name : Text) :
    (∃ m ∈ matchers, m.Matches engine name) ↔
      ∃ term ∈ terms, P term ∧
        WordAsks engine name (wordOf term) := by
  constructor
  · rintro ⟨m, hMem, hMatches⟩
    rcases (hMatchers m).mp hMem with
      ⟨term, hTerm, hP, hRead⟩
    exact
      ⟨term, hTerm, hP,
        (matches_iff_wordAsks hRead name).mp hMatches⟩
  · rintro ⟨term, hTerm, hP, hAsks⟩
    rcases (hReadable term hTerm hP).2 with ⟨m, hRead⟩
    exact
      ⟨m, (hMatchers m).mpr ⟨term, hTerm, hP, hRead⟩,
        (matches_iff_wordAsks hRead name).mpr hAsks⟩

/-
  What an expression selects is said by its terms: no
  negated one asks for the name, and a positive one does, if
  there is one.
-/
theorem selects_iff_terms
    {s : Selection α}
    (hSplit : splitTerms expression = .ok terms)
    (hRead : Selection.read engine expression = .ok s)
    (name : Text) :
    s.Selects engine name ↔
      (∀ term ∈ terms, IsNegatedTerm term →
        ¬ WordAsks engine name (wordOf term)) ∧
      ((∀ term ∈ terms, ¬ IsPositiveTerm term) ∨
        ∃ term ∈ terms, IsPositiveTerm term ∧
          WordAsks engine name (wordOf term)) := by
  have hReadable := (exists_read_iff hSplit).mp ⟨s, hRead⟩
  have hPositive :
      ∀ term ∈ terms, IsPositiveTerm term →
        IsReadable engine term := by
    intro term hMem hTerm
    exact hReadable term hMem hTerm.1
  have hNegated :
      ∀ term ∈ terms, IsNegatedTerm term →
        IsReadable engine term := by
    intro term hMem hTerm
    apply hReadable term hMem
    rintro rfl
    cases hTerm
  have hWanted := exists_matches_iff hPositive
    (fun m => (mem_read_iff hSplit hRead m).1) name
  have hExcluded := exists_matches_iff hNegated
    (fun m => (mem_read_iff hSplit hRead m).2) name
  have hNone :
      s.wanted = [] ↔ ∀ term ∈ terms, ¬ IsPositiveTerm term := by
    constructor
    · intro hNil term hMem hTerm
      rcases (hPositive term hMem hTerm).2 with ⟨m, hWord⟩
      have hMatcher := (mem_read_iff hSplit hRead m).1.mpr
        ⟨term, hMem, hTerm, hWord⟩
      rw [hNil] at hMatcher
      exact absurd hMatcher List.not_mem_nil
    · intro hAll
      rw [List.eq_nil_iff_forall_not_mem]
      intro m hMatcher
      rcases (mem_read_iff hSplit hRead m).1.mp hMatcher with
        ⟨term, hMem, hTerm, -⟩
      exact hAll term hMem hTerm
  have hForbids := not_congr hExcluded
  simp only [not_exists, not_and] at hForbids
  unfold Selection.Selects
  rw [hForbids, hNone, hWanted]

------------------------------------------------------------
-- Joined Expressions
------------------------------------------------------------

variable {a b : Text}

/- Two expressions that are read are read when joined. -/
theorem exists_read_append
    {s t : Selection α}
    (hA : Selection.read engine a = .ok s)
    (hB : Selection.read engine b = .ok t) :
    ∃ u, Selection.read engine (a ++ ',' :: b) = .ok u := by
  rcases exists_splitTerms_of_read hA with ⟨first, hFirst⟩
  rcases exists_splitTerms_of_read hB with ⟨second, hSecond⟩
  have hSplit := splitTerms_append hFirst b
  rw [hSecond] at hSplit
  have hReadA := (exists_read_iff hFirst).mp ⟨s, hA⟩
  have hReadB := (exists_read_iff hSecond).mp ⟨t, hB⟩
  apply (exists_read_iff hSplit).mpr
  intro term hMem
  rcases List.mem_append.mp hMem with hMem | hMem
  · exact hReadA term hMem
  · exact hReadB term hMem

/-
  An expression behind a comma adds its terms to those in
  front, and is split whenever it is split alone.

  Two expressions that are read are read when joined, in
  either order, and select the same: the names that no
  negated term of them asks for and that a positive one asks
  for, if they have one. So appending negated terms only
  removes names, and appending positive ones removes none if
  there is a positive one already.
-/
theorem joined_expressions_have_all_terms
    (engine : PatternEngine α) :
    (∀ a terms,
      splitTerms a = .ok terms →
      ∀ b, splitTerms (a ++ ',' :: b) =
        (splitTerms b).map (terms ++ ·)) ∧
    ∀ a b s t,
      Selection.read engine a = .ok s →
      Selection.read engine b = .ok t →
      ∃ first second both other,
        splitTerms a = .ok first ∧
        splitTerms b = .ok second ∧
        Selection.read engine (a ++ ',' :: b) = .ok both ∧
        Selection.read engine (b ++ ',' :: a) = .ok other ∧
        (∀ name,
          both.Selects engine name ↔
            other.Selects engine name) ∧
        (∀ name,
          both.Selects engine name ↔
            (∀ term, term ∈ first ∨ term ∈ second →
              IsNegatedTerm term →
                ¬ WordAsks engine name (wordOf term)) ∧
            ((∀ term, term ∈ first ∨ term ∈ second →
                ¬ IsPositiveTerm term) ∨
              ∃ term, (term ∈ first ∨ term ∈ second) ∧
                IsPositiveTerm term ∧
                WordAsks engine name (wordOf term))) ∧
        ((∀ term ∈ second, ¬ IsPositiveTerm term) →
          ∀ name,
            both.Selects engine name →
              s.Selects engine name) ∧
        ((∃ term ∈ first, IsPositiveTerm term) →
          (∀ term ∈ second, ¬ IsNegatedTerm term) →
          ∀ name,
            s.Selects engine name →
              both.Selects engine name) := by
  refine ⟨fun a terms hSplit => splitTerms_append hSplit, ?_⟩
  intro a b s t hA hB
  rcases exists_splitTerms_of_read hA with ⟨first, hFirst⟩
  rcases exists_splitTerms_of_read hB with ⟨second, hSecond⟩
  rcases exists_read_append hA hB with ⟨both, hBoth⟩
  rcases exists_read_append hB hA with ⟨other, hOther⟩
  have hSplit := splitTerms_append hFirst b
  have hSplit' := splitTerms_append hSecond a
  rw [hSecond] at hSplit
  rw [hFirst] at hSplit'
  have hAlone := selects_iff_terms hFirst hA
  have hTerms := selects_iff_terms hSplit hBoth
  have hTerms' := selects_iff_terms hSplit' hOther
  simp only [List.mem_append] at hTerms hTerms'
  refine
    ⟨first, second, both, other, hFirst, hSecond, hBoth,
      hOther, ?_, hTerms, ?_, ?_⟩
  · intro name
    rw [hTerms, hTerms']
    simp only [or_comm]
  · intro hNone name hSelects
    rw [hTerms] at hSelects
    rw [hAlone]
    rcases hSelects with ⟨hForbids, hWants⟩
    refine ⟨fun term hMem => hForbids term (.inl hMem), ?_⟩
    rcases hWants with hPlain | ⟨term, hMem, hTerm, hAsks⟩
    · exact .inl fun term hMem => hPlain term (.inl hMem)
    · rcases hMem with hMem | hMem
      · exact .inr ⟨term, hMem, hTerm, hAsks⟩
      · exact absurd hTerm (hNone term hMem)
  · intro hSome hNone name hSelects
    rw [hAlone] at hSelects
    rw [hTerms]
    rcases hSelects with ⟨hForbids, hWants⟩
    refine ⟨?_, .inr ?_⟩
    · intro term hMem hTerm
      rcases hMem with hMem | hMem
      · exact hForbids term hMem hTerm
      · exact absurd hTerm (hNone term hMem)
    · rcases hWants with hPlain | ⟨term, hMem, hAsks⟩
      · rcases hSome with ⟨term, hMem, hTerm⟩
        exact absurd hTerm (hPlain term hMem)
      · exact ⟨term, .inl hMem, hAsks⟩

end Terms

/-
  A part and a pattern with a comma, from which a negated
  pattern takes names away and to which a part adds some.
-/
theorem joined_expressions_sample :
    splitTerms "mcf, /^5[0-9]\x7b1,2\x7d/,! /_s$/" =
      .ok ["mcf", "/^5[0-9]\x7b1,2\x7d/", "! /_s$/"] ∧
    (∃ s both,
      Selection.read Pattern.engine "mcf" = .ok s ∧
      Selection.read Pattern.engine "mcf,! /_s$/" =
        .ok both ∧
      ∀ name, both.Selects Pattern.engine name →
        s.Selects Pattern.engine name) ∧
    ∃ s both,
      Selection.read Pattern.engine "mcf" = .ok s ∧
      Selection.read Pattern.engine "mcf, lbm" = .ok both ∧
      ∀ name, s.Selects Pattern.engine name →
        both.Selects Pattern.engine name := by
  have hRead (expression : Text) :
      (Selection.read Pattern.engine expression).toBool =
          true →
        ∃ s, Selection.read Pattern.engine expression =
          .ok s := by
    cases Selection.read Pattern.engine expression with
    | error fault => nofun
    | ok s => exact fun _ => ⟨s, rfl⟩
  rcases hRead "mcf" (by decide +kernel) with ⟨s, hS⟩
  have hMain := joined_expressions_have_all_terms
    Pattern.engine
  have hPart : splitTerms "mcf" = .ok ["mcf"] := by cbv
  refine ⟨?_, ?_, ?_⟩
  · have hTerms :
        splitTerms "mcf, /^5[0-9]\x7b1,2\x7d/" =
          .ok ["mcf", "/^5[0-9]\x7b1,2\x7d/"] := by
      cbv
    apply (hMain.1 _ _ hTerms "! /_s$/").trans
    cbv
  · rcases hRead "! /_s$/" (by decide +kernel) with ⟨t, hT⟩
    have hTerm : splitTerms "! /_s$/" = .ok ["! /_s$/"] := by
      cbv
    rcases hMain.2 _ _ _ _ hS hT with
      ⟨first, second, both, other, hFirst, hSecond, hBoth,
        -, -, -, hRemoves, -⟩
    cases hTerm.symm.trans hSecond
    refine ⟨s, both, hS, hBoth, hRemoves ?_⟩
    simp [IsPositiveTerm, IsNegatedTerm]
  · rcases hRead " lbm" (by decide +kernel) with ⟨t, hT⟩
    have hTerm : splitTerms " lbm" = .ok ["lbm"] := by
      cbv
    rcases hMain.2 _ _ _ _ hS hT with
      ⟨first, second, both, other, hFirst, hSecond, hBoth,
        -, -, -, -, hKeeps⟩
    cases hPart.symm.trans hFirst
    cases hTerm.symm.trans hSecond
    refine ⟨s, both, hS, hBoth, hKeeps ?_ ?_⟩
    · simp [IsPositiveTerm, IsNegatedTerm]
    · simp [IsNegatedTerm]

end PageHeat
