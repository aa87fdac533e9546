import PageHeat.Proofs.Selection.Words

/-
  What an expression means.

  A clause asks that a part or a pattern occurs in a name,
  or, if it is negated, that it does not. However clauses
  are written down, with blanks around them and with empty
  terms between them, the expression is read, and it selects
  the names that no negated clause asks for and that some
  other clause asks for, if there are others.

  Key definitions include:
    * `Criterion`
    * `Clause`
    * `Renders`
    * `Reflects`

  Key lemmas include:
    * `Renders.spells`
    * `Reflects.add`
    * `Reflects.foldlM`
    * `read_selects_what_clauses_ask`
-/

------------------------------------------------------------
-- Parts Of Names
------------------------------------------------------------

namespace PageHeat

/- A needle occurs in the texts that it is a part of. -/
theorem Text.occursIn_iff (needle t : Text) :
    Text.occursIn needle t = true ↔ needle <:+: t := by
  induction t with
  | nil =>
      unfold Text.occursIn
      rw [List.isEmpty_iff, List.infix_nil]
  | cons c t ih =>
      unfold Text.occursIn
      rw [Bool.or_eq_true, List.isPrefixOf_iff_prefix, ih,
        List.infix_cons_iff]

------------------------------------------------------------
-- Clauses
------------------------------------------------------------

/- A part of names, or the body of a pattern of names. -/
inductive Criterion where
  | part (t : Text)
  | pattern (body : Text)
  deriving Repr, DecidableEq

/-
  A criterion, and the blanks between its exclamation mark
  and itself if it is negated.
-/
structure Clause where
  negation : Option Text := none
  criterion : Criterion
  deriving Repr, DecidableEq

namespace Criterion

variable {α : Type}

/- How a criterion is written. -/
def text : Criterion → Text
  | .part t => t
  | .pattern body => '/' :: (body ++ ['/'])

/-
  A criterion that can be written: a part that could not be
  taken for anything else, or a pattern that is read by the
  engine and not broken off.
-/
def IsWritable
    (engine : PatternEngine α) : Criterion → Prop
  | .part t =>
      t ≠ [] ∧ t.IsTrimmed ∧ ',' ∉ t ∧
        t.head? ≠ some '/' ∧ t.head? ≠ some '!'
  | .pattern body =>
      (∃ pattern, engine.read body = .ok pattern) ∧
        ¬ BreaksOff body

/- A criterion that asks for a name. -/
def Asks
    (engine : PatternEngine α)
    (name : Text) : Criterion → Prop
  | .part t => t <:+: name
  | .pattern body =>
      ∃ pattern, engine.read body = .ok pattern ∧
        engine.occursIn pattern name = true

end Criterion

namespace Clause

variable {α : Type}

/- The exclamation mark of a clause, with its blanks. -/
def sign (c : Clause) : Text :=
  match c.negation with
  | none => []
  | some gap => '!' :: gap

/- How a clause is written. -/
def text (c : Clause) : Text :=
  c.sign ++ c.criterion.text

/- A clause that excludes what its criterion asks for. -/
def IsNegated (c : Clause) : Prop :=
  c.negation ≠ none

/- A clause that can be written. -/
structure IsWritable
    (engine : PatternEngine α)
    (c : Clause) : Prop where
  gap : ∀ gap ∈ c.negation, gap.IsBlank
  criterion : c.criterion.IsWritable engine

end Clause

------------------------------------------------------------
-- Written Clauses
------------------------------------------------------------

section Writing

variable {α : Type}
variable {engine : PatternEngine α}

/- A criterion starts with neither a blank nor a mark. -/
theorem Criterion.IsWritable.head
    {c : Criterion}
    (hWritable : c.IsWritable engine) :
    ∃ d rest, c.text = d :: rest ∧ Text.isBlank d = false ∧
      d ≠ '!' := by
  cases c with
  | part t =>
      rcases hWritable with ⟨hSome, hTrimmed, -, -, hMark⟩
      cases t with
      | nil => exact absurd rfl hSome
      | cons d t =>
          refine ⟨d, t, rfl, hTrimmed.start d rfl, ?_⟩
          rintro rfl
          exact hMark rfl
  | pattern body =>
      exact ⟨'/', body ++ ['/'], rfl, by decide, by decide⟩

theorem Criterion.IsWritable.isTrimmed
    {c : Criterion}
    (hWritable : c.IsWritable engine) :
    c.text.IsTrimmed := by
  cases c with
  | part t => exact hWritable.2.1
  | pattern body => exact isTrimmed_slashes body

theorem Clause.IsWritable.isSign
    {c : Clause}
    (hWritable : c.IsWritable engine) :
    IsSign c.sign := by
  unfold Clause.sign
  split
  · exact .inl rfl
  · rename_i gap hGap
    exact .inr ⟨gap, hWritable.gap gap hGap, rfl⟩

theorem Clause.IsWritable.text_ne_nil
    {c : Clause}
    (hWritable : c.IsWritable engine) :
    c.text ≠ [] := by
  rcases hWritable.criterion.head with ⟨d, rest, hText, -, -⟩
  rw [Clause.text, hText]
  exact List.append_ne_nil_of_right_ne_nil _
    (List.cons_ne_nil d rest)

/- A clause is a term. -/
theorem Clause.IsWritable.isTerm
    {c : Clause}
    (hWritable : c.IsWritable engine) :
    IsTerm c.text := by
  have hSign := hWritable.isSign
  have hCriterion := hWritable.criterion
  rcases hCriterion.head with ⟨d, rest, hText, hBlank, hMark⟩
  unfold Clause.text
  cases hKind : c.criterion with
  | pattern body =>
      rw [hKind] at hCriterion
      exact .slashed hSign hCriterion.2
  | part t =>
      rw [hKind] at hCriterion hText
      rcases hCriterion with
        ⟨hSome, hTrimmed, hComma, hSlash, -⟩
      change t = d :: rest at hText
      apply IsTerm.plain (hSign.isTrimmed_append hTrimmed hSome)
      · rw [List.mem_append, not_or]
        exact ⟨hSign.notMem (by decide) (by decide), hComma⟩
      · rw [opensSlash_iff]
        rintro ⟨inside, hInside⟩
        rw [hText, afterSign_append hSign hBlank hMark]
          at hInside
        cases hInside
        rw [hText] at hSlash
        exact hSlash rfl

/- The word of a clause is its criterion. -/
theorem Clause.IsWritable.trim_eq
    {c : Clause}
    (hWritable : c.IsWritable engine)
    {gap : Text}
    (hGap : c.negation = some gap) :
    Text.trim (gap ++ c.criterion.text) = c.criterion.text := by
  have hTrim := Text.trim_padded
    (hWritable.gap gap hGap) hWritable.criterion.isTrimmed
    Text.isBlank_nil
  rwa [List.append_nil] at hTrim

------------------------------------------------------------
-- Reading Clauses
------------------------------------------------------------

/- A criterion is read as a matcher that asks for the same. -/
theorem Criterion.IsWritable.exists_matcher
    {c : Criterion}
    (hWritable : c.IsWritable engine) :
    ∃ m, Matcher.read engine c.text = .ok m ∧
      ∀ name, m.Matches engine name ↔ c.Asks engine name := by
  cases c with
  | part t =>
      refine ⟨.containing t, ?_, Text.occursIn_iff t⟩
      unfold Matcher.read
      split
      · rename_i rest hText
        rcases hWritable with ⟨-, -, -, hSlash, -⟩
        change t = '/' :: rest at hText
        rw [hText] at hSlash
        exact absurd rfl hSlash
      · rfl
  | pattern body =>
      rcases hWritable with ⟨⟨pattern, hRead⟩, -⟩
      refine ⟨.matching pattern, ?_, ?_⟩
      · simp only [Criterion.text, Matcher.read,
          List.getLast?_concat, if_true, List.dropLast_concat,
          hRead]
      · intro name
        constructor
        · intro hOccurs
          exact ⟨pattern, hRead, hOccurs⟩
        · rintro ⟨other, hOther, hOccurs⟩
          cases hOther.symm.trans hRead
          exact hOccurs

/-
  A selection that asks for what some clauses ask for, and
  that excludes what the negated ones among them ask for.
-/
structure Reflects
    (engine : PatternEngine α)
    (clauses : List Clause)
    (s : Selection α) : Prop where
  wanted :
    ∀ name, (∃ m ∈ s.wanted, m.Matches engine name) ↔
      ∃ c ∈ clauses, ¬ c.IsNegated ∧
        c.criterion.Asks engine name
  excluded :
    ∀ name, (∃ m ∈ s.excluded, m.Matches engine name) ↔
      ∃ c ∈ clauses, c.IsNegated ∧
        c.criterion.Asks engine name
  noneWanted :
    s.wanted = [] ↔ ∀ c ∈ clauses, c.IsNegated

theorem Reflects.nil : Reflects engine [] { } := by
  constructor
  · simp
  · simp
  · simp

/- Adding what is written for a clause reflects it as well. -/
theorem Reflects.add
    {clauses : List Clause}
    {s : Selection α}
    {c : Clause}
    (hReflects : Reflects engine clauses s)
    (hWritable : c.IsWritable engine) :
    ∃ s', s.addTerm engine c.text = .ok s' ∧
      Reflects engine (clauses ++ [c]) s' := by
  rcases hWritable.criterion.exists_matcher with
    ⟨m, hRead, hMatches⟩
  cases hNegation : c.negation with
  | none =>
      have hPlain : ¬ c.IsNegated := not_not_intro hNegation
      have hText : c.text = c.criterion.text := by
        simp [Clause.text, Clause.sign, hNegation]
      have hMark : c.text.head? ≠ some '!' := by
        rcases hWritable.criterion.head with
          ⟨d, rest, hHead, -, hMark⟩
        rw [hText, hHead]
        intro hEq
        cases hEq
        exact hMark rfl
      refine ⟨{ s with wanted := s.wanted ++ [m] }, ?_, ?_⟩
      · rw [addTerm_unmarked engine s hMark, hText, hRead]
        rfl
      · constructor
        · intro name
          simp [or_and_right, exists_or, hReflects.wanted,
            hMatches, hPlain]
        · intro name
          simp [or_and_right, exists_or, hReflects.excluded,
            hPlain]
        · simp [hPlain]
  | some gap =>
      have hNegated : c.IsNegated := by
        simp [Clause.IsNegated, hNegation]
      have hTrim := hWritable.trim_eq hNegation
      have hText :
          c.text = '!' :: (gap ++ c.criterion.text) := by
        simp [Clause.text, Clause.sign, hNegation]
      have hSome :
          Text.trim (gap ++ c.criterion.text) ≠ [] := by
        rcases hWritable.criterion.head with
          ⟨d, rest, hHead, -, -⟩
        rw [hTrim, hHead]
        exact List.cons_ne_nil d rest
      refine ⟨{ s with excluded := s.excluded ++ [m] }, ?_, ?_⟩
      · rw [hText, addTerm_marked engine s hSome, hTrim, hRead]
        rfl
      · constructor
        · intro name
          simp [or_and_right, exists_or, hReflects.wanted,
            hNegated]
        · intro name
          simp [or_and_right, exists_or, hReflects.excluded,
            hMatches, hNegated]
        · simp [hReflects.noneWanted, or_imp, forall_and,
            hNegated]

/- Adding clauses one after the other reflects all of them. -/
theorem Reflects.foldlM
    {before clauses : List Clause}
    {s : Selection α}
    (hReflects : Reflects engine before s)
    (hWritable : ∀ c ∈ clauses, c.IsWritable engine) :
    ∃ s',
      (clauses.map Clause.text).foldlM
          (Selection.addTerm engine) s = .ok s' ∧
        Reflects engine (before ++ clauses) s' := by
  induction clauses generalizing before s with
  | nil =>
      rw [List.append_nil]
      exact ⟨s, rfl, hReflects⟩
  | cons c clauses ih =>
      rw [List.forall_mem_cons] at hWritable
      rcases hReflects.add hWritable.1 with
        ⟨next, hAdd, hNext⟩
      rcases ih hNext hWritable.2 with ⟨s', hFold, hAll⟩
      rw [List.append_assoc] at hAll
      refine ⟨s', ?_, hAll⟩
      rw [List.map_cons, List.foldlM_cons, hAdd]
      exact hFold

/- What a selection selects that reflects some clauses. -/
theorem Reflects.selects_iff
    {clauses : List Clause}
    {s : Selection α}
    (hReflects : Reflects engine clauses s)
    (name : Text) :
    s.Selects engine name ↔
      (∀ c ∈ clauses, c.IsNegated →
        ¬ c.criterion.Asks engine name) ∧
      ((∀ c ∈ clauses, c.IsNegated) ∨
        ∃ c ∈ clauses, ¬ c.IsNegated ∧
          c.criterion.Asks engine name) := by
  have hExcluded := not_congr (hReflects.excluded name)
  simp only [not_exists, not_and] at hExcluded
  unfold Selection.Selects
  rw [hExcluded, hReflects.noneWanted, hReflects.wanted]

end Writing

------------------------------------------------------------
-- Written Expressions
------------------------------------------------------------

/-
  An expression in which clauses are written down, with
  commas between them, blanks around them, and any number of
  empty terms in between.
-/
inductive Renders : List Clause → Text → Prop
  | blank
      {gap : Text}
      (hGap : gap.IsBlank) :
      Renders [] gap
  | last
      {before after : Text}
      {c : Clause}
      (hBefore : before.IsBlank)
      (hAfter : after.IsBlank) :
      Renders [c] (before ++ c.text ++ after)
  | skip
      {gap next : Text}
      {clauses : List Clause}
      (hGap : gap.IsBlank)
      (hNext : Renders clauses next) :
      Renders clauses (gap ++ ',' :: next)
  | term
      {before after next : Text}
      {c : Clause}
      {clauses : List Clause}
      (hBefore : before.IsBlank)
      (hAfter : after.IsBlank)
      (hNext : Renders clauses next) :
      Renders (c :: clauses)
        (before ++ c.text ++ after ++ ',' :: next)

section Rendering

variable {α : Type}
variable {engine : PatternEngine α}

/- A written expression spells its clauses and empty terms. -/
theorem Renders.spells
    {clauses : List Clause}
    {expression : Text}
    (hRenders : Renders clauses expression)
    (hWritable : ∀ c ∈ clauses, c.IsWritable engine) :
    ∃ terms, Spells IsTerm terms expression ∧
      terms.filter (!·.isEmpty) =
        clauses.map Clause.text := by
  induction hRenders with
  | @blank gap hGap =>
      refine ⟨[[]], ?_, rfl⟩
      have hSpells := Spells.last hGap isTerm_nil Text.isBlank_nil
      rwa [List.append_nil, List.append_nil] at hSpells
  | @last before after c hBefore hAfter =>
      have hClause := hWritable c (List.mem_singleton_self c)
      refine ⟨[c.text], .last hBefore hClause.isTerm hAfter, ?_⟩
      simp [hClause.text_ne_nil]
  | @skip gap next clauses hGap hNext ih =>
      rcases ih hWritable with ⟨terms, hSpells, hFilter⟩
      refine ⟨[] :: terms, ?_, hFilter⟩
      have hTerm :=
        Spells.term hGap isTerm_nil Text.isBlank_nil hSpells
      rwa [List.append_nil, List.append_nil] at hTerm
  | @term before after next c clauses hBefore hAfter hNext ih =>
      rw [List.forall_mem_cons] at hWritable
      rcases ih hWritable.2 with ⟨terms, hSpells, hFilter⟩
      have hSome := hWritable.1.text_ne_nil
      refine ⟨c.text :: terms,
        .term hBefore hWritable.1.isTerm hAfter hSpells, ?_⟩
      simp [hSome, hFilter]

/-
  However clauses are written down, the expression is read,
  and it selects what they ask for.
-/
theorem read_selects_what_clauses_ask
    (engine : PatternEngine α)
    {clauses : List Clause}
    {expression : Text}
    (hWritable : ∀ c ∈ clauses, c.IsWritable engine)
    (hRenders : Renders clauses expression) :
    ∃ s, Selection.read engine expression = .ok s ∧
      ∀ name, s.Selects engine name ↔
        (∀ c ∈ clauses, c.IsNegated →
          ¬ c.criterion.Asks engine name) ∧
        ((∀ c ∈ clauses, c.IsNegated) ∨
          ∃ c ∈ clauses, ¬ c.IsNegated ∧
            c.criterion.Asks engine name) := by
  rcases hRenders.spells hWritable with
    ⟨terms, hSpells, hFilter⟩
  rcases Reflects.nil.foldlM hWritable with
    ⟨s, hFold, hReflects⟩
  refine ⟨s, ?_, hReflects.selects_iff⟩
  unfold Selection.read
  rw [splitTerms_of_spells hSpells]
  simp only [hFilter]
  exact hFold

/-
  A part, a pattern with a comma, and a pattern that is
  excluded.
-/
def sampleClauses : List Clause :=
  [{ criterion := .part "mcf" },
    { criterion := .pattern "^5[0-9]\x7b1,2\x7d" },
    { negation := some " ", criterion := .pattern "_s$" }]

/- An expression with these clauses and an empty term. -/
theorem read_selects_sampleClauses :
    ∃ s,
      Selection.read Pattern.engine
          "mcf,, /^5[0-9]\x7b1,2\x7d/ ,! /_s$/" = .ok s ∧
        ∀ name, s.Selects Pattern.engine name ↔
          (∀ c ∈ sampleClauses, c.IsNegated →
            ¬ c.criterion.Asks Pattern.engine name) ∧
          ((∀ c ∈ sampleClauses, c.IsNegated) ∨
            ∃ c ∈ sampleClauses, ¬ c.IsNegated ∧
              c.criterion.Asks Pattern.engine name) := by
  have hRead (body : Text) :
      (Pattern.engine.read body).toBool = true →
        ∃ pattern, Pattern.engine.read body = .ok pattern := by
    cases Pattern.engine.read body with
    | error fault => nofun
    | ok pattern => exact fun _ => ⟨pattern, rfl⟩
  have hWhole (body : Text) :
      '/' ∉ body → ¬ BreaksOff body := by
    rintro hSlash ⟨before, gap, after, -, rfl⟩
    simp at hSlash
  apply read_selects_what_clauses_ask
  · intro c hMem
    simp only [sampleClauses, List.mem_cons,
      List.not_mem_nil, or_false] at hMem
    rcases hMem with rfl | rfl | rfl
    · have hTrimmed : Text.IsTrimmed "mcf" := by
        constructor
        · intro c hHead
          cases hHead
          decide
        · intro c hLast
          cases hLast
          decide
      exact ⟨nofun, by decide, hTrimmed, by decide, by decide,
        by decide⟩
    · exact ⟨nofun, hRead _ (by decide +kernel),
        hWhole _ (by decide)⟩
    · refine ⟨?_, hRead _ (by decide +kernel),
        hWhole _ (by decide)⟩
      intro gap hGap
      cases hGap
      rfl
  · apply @Renders.term [] []
      ", /^5[0-9]\x7b1,2\x7d/ ,! /_s$/" _ _ rfl rfl
    apply @Renders.skip []
      " /^5[0-9]\x7b1,2\x7d/ ,! /_s$/" _ rfl
    apply @Renders.term " " " " "! /_s$/" _ _ rfl rfl
    exact @Renders.last [] [] _ rfl rfl

end Rendering

end PageHeat
