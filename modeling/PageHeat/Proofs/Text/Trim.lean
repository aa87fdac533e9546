import PageHeat.Text.Basic

/-
  Texts without the blanks around them.

  A trimmed text neither starts nor ends with a blank.
  Trimming takes off blanks only, and a trimmed text is
  what is left of it whatever blanks are put around it.

  Key definitions include:
    * `Text.IsTrimmed`

  Key lemmas include:
    * `Text.isTrimmed_trim`
    * `Text.exists_padding`
    * `Text.mem_of_mem_trim`
    * `Text.trim_padded`
-/

------------------------------------------------------------
-- Blank Texts
------------------------------------------------------------

namespace PageHeat

namespace Text

@[simp] theorem isBlank_nil : IsBlank [] := rfl

@[simp] theorem isBlank_append (t u : Text) :
    IsBlank (t ++ u) ↔ IsBlank t ∧ IsBlank u := by
  simp [IsBlank]

/- A blank text has blank characters only. -/
theorem IsBlank.notMem
    {t : Text}
    (hBlank : t.IsBlank)
    {c : Char}
    (hChar : isBlank c = false) :
    c ∉ t := by
  intro hMem
  have hTrue := List.all_eq_true.mp hBlank c hMem
  rw [hChar] at hTrue
  cases hTrue

theorem isBlank_reverse (t : Text) :
    IsBlank t.reverse ↔ IsBlank t := by
  simp [IsBlank]

------------------------------------------------------------
-- Trimming One End
------------------------------------------------------------

theorem trimStart_append
    {w : Text}
    (hBlank : w.IsBlank)
    (t : Text) :
    trimStart (w ++ t) = trimStart t := by
  apply List.dropWhile_append_of_pos
  exact List.all_eq_true.mp hBlank

theorem trimStart_of_isBlank
    {w : Text}
    (hBlank : w.IsBlank) :
    trimStart w = [] := by
  have hDrop := trimStart_append hBlank []
  rwa [List.append_nil] at hDrop

theorem trimStart_cons
    {c : Char}
    (hChar : isBlank c = false)
    (t : Text) :
    trimStart (c :: t) = c :: t := by
  simp [trimStart, hChar]

/- What is behind a text counts only if the text is blank. -/
theorem trimStart_append_of_ne
    {t : Text}
    (hSome : trimStart t ≠ [])
    (u : Text) :
    trimStart (t ++ u) = trimStart t ++ u := by
  unfold trimStart at hSome ⊢
  rw [List.dropWhile_append, if_neg]
  simpa using hSome

theorem isBlank_of_trimStart_cons
    {t rest : Text}
    {c : Char}
    (hTrim : trimStart t = c :: rest) :
    isBlank c = false := by
  have hHead := List.head?_dropWhile_not isBlank t
  unfold trimStart at hTrim
  simpa [hTrim] using hHead

theorem trimStart_of_append
    {t u : Text}
    (hStart : trimStart (t ++ u) = t ++ u) :
    trimStart t = t := by
  cases t with
  | nil => rfl
  | cons c t =>
      rw [List.cons_append] at hStart
      exact trimStart_cons (isBlank_of_trimStart_cons hStart) t

theorem exists_trimStart (t : Text) :
    ∃ w, IsBlank w ∧ t = w ++ trimStart t := by
  refine ⟨t.takeWhile isBlank, ?_, ?_⟩
  · exact List.all_takeWhile
  · exact List.takeWhile_append_dropWhile.symm

theorem trimStart_trimStart (t : Text) :
    trimStart (trimStart t) = trimStart t := by
  rcases exists_trimStart t with ⟨w, hW, hEq⟩
  conv =>
    rhs
    rw [hEq, trimStart_append hW]

/- Trimming the end is trimming the start from behind. -/
theorem trimEnd_eq (t : Text) :
    trimEnd t = (trimStart t.reverse).reverse := rfl

theorem trimEnd_append
    {v : Text}
    (hBlank : v.IsBlank)
    (t : Text) :
    trimEnd (t ++ v) = trimEnd t := by
  have hReverse := (isBlank_reverse v).mpr hBlank
  rw [trimEnd_eq, trimEnd_eq, List.reverse_append,
    trimStart_append hReverse]

theorem exists_trimEnd (t : Text) :
    ∃ v, IsBlank v ∧ t = trimEnd t ++ v := by
  rcases exists_trimStart t.reverse with ⟨w, hBlank, hEq⟩
  refine ⟨w.reverse, (isBlank_reverse w).mpr hBlank, ?_⟩
  rw [trimEnd_eq, ← List.reverse_append, ← hEq,
    List.reverse_reverse]

/- Blanks behind a text are trimmed. -/
theorem trim_append
    {v : Text}
    (hBlank : v.IsBlank)
    (t : Text) :
    trim (t ++ v) = trim t := by
  unfold trim
  by_cases hNone : trimStart t = []
  · rcases exists_trimStart t with ⟨w, hW, hEq⟩
    rw [hNone, List.append_nil] at hEq
    rw [hEq, trimStart_append hW, trimStart_of_isBlank hBlank,
      trimStart_of_isBlank hW]
  · rw [trimStart_append_of_ne hNone, trimEnd_append hBlank]

------------------------------------------------------------
-- Trimmed Texts
------------------------------------------------------------

/- A text without blanks at its ends. -/
structure IsTrimmed (t : Text) : Prop where
  start : ∀ c, t.head? = some c → isBlank c = false
  stop : ∀ c, t.getLast? = some c → isBlank c = false

theorem isTrimmed_nil : IsTrimmed [] := by
  constructor
  · intro c hHead
    cases hHead
  · intro c hLast
    cases hLast

theorem isTrimmed_of_forall
    {t : Text}
    (hNone : ∀ c ∈ t, isBlank c = false) :
    IsTrimmed t where
  start := fun c hHead => hNone c (List.mem_of_head? hHead)
  stop := fun c hLast => hNone c (List.mem_of_getLast? hLast)

theorem IsTrimmed.trimStart_eq
    {t : Text}
    (hTrimmed : t.IsTrimmed) :
    trimStart t = t := by
  cases t with
  | nil => rfl
  | cons c t => exact trimStart_cons (hTrimmed.start c rfl) t

/- Nothing is dropped at the end of a trimmed text. -/
theorem IsTrimmed.trimEnd_eq
    {t : Text}
    (hTrimmed : t.IsTrimmed) :
    trimEnd t = t := by
  have hReverse : IsTrimmed t.reverse := by
    constructor
    · intro c hHead
      rw [List.head?_reverse] at hHead
      exact hTrimmed.stop c hHead
    · intro c hLast
      rw [List.getLast?_reverse] at hLast
      exact hTrimmed.start c hLast
  rw [Text.trimEnd_eq, hReverse.trimStart_eq,
    List.reverse_reverse]

/- Trimming gives a trimmed text. -/
theorem isTrimmed_trim (t : Text) : (trim t).IsTrimmed := by
  constructor
  · intro c hHead
    -- the text starts as it did before its end was trimmed
    rcases exists_trimEnd (trimStart t) with ⟨v, -, hEq⟩
    cases hTrim : trim t with
    | nil =>
        rw [hTrim] at hHead
        cases hHead
    | cons d rest =>
        rw [hTrim] at hHead
        cases hHead
        have hEnd : trimEnd (trimStart t) = c :: rest := hTrim
        rw [hEnd] at hEq
        exact isBlank_of_trimStart_cons hEq
  · intro c hLast
    rw [trim, trimEnd_eq, List.getLast?_reverse] at hLast
    cases hTrim : trimStart (trimStart t).reverse with
    | nil =>
        rw [hTrim] at hLast
        cases hLast
    | cons d rest =>
        rw [hTrim] at hLast
        cases hLast
        exact isBlank_of_trimStart_cons hTrim

/- Only blanks are taken off. -/
theorem exists_padding (t : Text) :
    ∃ w v, IsBlank w ∧ IsBlank v ∧ t = w ++ trim t ++ v := by
  rcases exists_trimStart t with ⟨w, hW, hStart⟩
  rcases exists_trimEnd (trimStart t) with ⟨v, hV, hStop⟩
  refine ⟨w, v, hW, hV, ?_⟩
  rw [List.append_assoc, trim, ← hStop, ← hStart]

theorem mem_of_mem_trim
    {t : Text}
    {c : Char}
    (hMem : c ∈ t.trim) :
    c ∈ t := by
  rcases exists_padding t with ⟨w, v, -, -, hEq⟩
  rw [hEq]
  exact List.mem_append_left v (List.mem_append_right w hMem)

/- Only blanks behind are taken off, if none are in front. -/
theorem exists_trim_append
    {t : Text}
    (hStart : trimStart t = t) :
    ∃ v, IsBlank v ∧ t = trim t ++ v := by
  rw [trim, hStart]
  exact exists_trimEnd t

/- Without the blanks around it, a trimmed text is left. -/
theorem trim_padded
    {w t v : Text}
    (hW : w.IsBlank)
    (hTrimmed : t.IsTrimmed)
    (hV : v.IsBlank) :
    trim (w ++ t ++ v) = t := by
  rw [List.append_assoc, trim, trimStart_append hW]
  cases t with
  | nil =>
      rw [List.nil_append, trimStart_of_isBlank hV]
      rfl
  | cons c t =>
      rw [List.cons_append,
        trimStart_cons (hTrimmed.start c rfl),
        ← List.cons_append, trimEnd_append hV,
        hTrimmed.trimEnd_eq]

theorem IsTrimmed.trim_eq
    {t : Text}
    (hTrimmed : t.IsTrimmed) :
    trim t = t := by
  rw [trim, hTrimmed.trimStart_eq, hTrimmed.trimEnd_eq]

end Text

end PageHeat
