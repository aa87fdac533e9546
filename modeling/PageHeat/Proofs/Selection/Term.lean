import PageHeat.Proofs.Text.Trim
import PageHeat.Selection.Term

/-
  The terms that an expression can have, and how one of them
  is read.

  A term is free of commas, or it stands between slashes and
  may hold any comma that is not behind a slash and blanks.
  So the slash that closes a term can be told without
  looking at the terms behind it, and every term is read
  back whatever follows it.

  Key definitions include:
    * `IsRest`
    * `Closes`
    * `BreaksOff`
    * `IsSign`
    * `OpensSlash`
    * `IsTerm`

  Key lemmas include:
    * `readBody_eq_none_iff`
    * `readTerm_of_isTerm`
    * `isTerm_of_readTerm`
    * `readTerm_eq_error_iff`
-/

------------------------------------------------------------
-- Ends Of Terms
------------------------------------------------------------

namespace PageHeat

theorem trimStart_comma (next : Text) :
    Text.trimStart (',' :: next) = ',' :: next :=
  Text.trimStart_cons (by decide) next

/-
  What is left behind a term and its blanks: nothing, or a
  comma and more.
-/
inductive IsRest : Text → Prop
  | nothing : IsRest []
  | comma (next : Text) : IsRest (',' :: next)

theorem IsRest.trimStart_eq
    {rest : Text}
    (hRest : IsRest rest) :
    Text.trimStart rest = rest := by
  cases hRest with
  | nothing => rfl
  | comma next => exact trimStart_comma next

/- A term ends in front of blanks and such a rest. -/
theorem endsTerm_append
    {gap rest : Text}
    (hGap : gap.IsBlank)
    (hRest : IsRest rest) :
    EndsTerm (gap ++ rest) := by
  unfold EndsTerm
  rw [Text.trimStart_append hGap, hRest.trimStart_eq]
  cases hRest with
  | nothing => trivial
  | comma next => rfl

/- Behind the blanks behind a term, such a rest is left. -/
theorem isRest_of_endsTerm
    {rest : Text}
    (hEnds : EndsTerm rest) :
    IsRest (Text.trimStart rest) := by
  unfold EndsTerm at hEnds
  split at hEnds
  · rename_i hNil
    rw [hNil]
    exact .nothing
  · rename_i c next hCons
    rw [hCons, hEnds]
    exact .comma next

/- Behind a term, there are blanks and perhaps a comma. -/
theorem endsTerm_iff (rest : Text) :
    EndsTerm rest ↔
      ∃ gap : Text, gap.IsBlank ∧
        (rest = gap ∨ ∃ next, rest = gap ++ ',' :: next) := by
  constructor
  · intro hEnds
    rcases Text.exists_trimStart rest with ⟨gap, hGap, hEq⟩
    refine ⟨gap, hGap, ?_⟩
    have hRest := isRest_of_endsTerm hEnds
    revert hRest hEq
    generalize Text.trimStart rest = left
    rintro hEq (_ | next)
    · exact .inl (by rw [hEq, List.append_nil])
    · exact .inr ⟨next, hEq⟩
  · rintro ⟨other, hOther, rfl | ⟨next, rfl⟩⟩
    · have hEnds := endsTerm_append hOther .nothing
      rwa [List.append_nil] at hEnds
    · exact endsTerm_append hOther (.comma next)

/- A term ends before the first character behind blanks. -/
theorem not_endsTerm_of_char
    {gap rest : Text}
    {c : Char}
    (hGap : gap.IsBlank)
    (hChar : Text.isBlank c = false)
    (hComma : c ≠ ',') :
    ¬ EndsTerm (gap ++ c :: rest) := by
  unfold EndsTerm
  rw [Text.trimStart_append hGap, Text.trimStart_cons hChar]
  exact hComma

------------------------------------------------------------
-- Bodies
------------------------------------------------------------

/- A text with a slash that closes what is before it. -/
def Closes (inside : Text) : Prop :=
  ∃ body gap : Text, gap.IsBlank ∧
    (inside = body ++ '/' :: gap ∨
      ∃ next, inside = body ++ '/' :: (gap ++ ',' :: next))

/- A body that a comma behind a slash would end too early. -/
def BreaksOff (body : Text) : Prop :=
  ∃ before gap after : Text, gap.IsBlank ∧
    body = before ++ '/' :: (gap ++ ',' :: after)

/- A text closes if a term ends behind one of its slashes. -/
theorem closes_iff (inside : Text) :
    Closes inside ↔
      ∃ body rest, inside = body ++ '/' :: rest ∧
        EndsTerm rest := by
  unfold Closes
  constructor
  · rintro ⟨body, gap, hGap, hEq | ⟨next, hEq⟩⟩
    · exact ⟨body, gap, hEq,
        (endsTerm_iff gap).mpr ⟨gap, hGap, .inl rfl⟩⟩
    · exact ⟨body, _, hEq,
        (endsTerm_iff _).mpr ⟨gap, hGap, .inr ⟨next, rfl⟩⟩⟩
  · rintro ⟨body, rest, rfl, hEnds⟩
    rcases (endsTerm_iff rest).mp hEnds with
      ⟨gap, hGap, hEq | ⟨next, hEq⟩⟩
    · exact ⟨body, gap, hGap, .inl (by rw [hEq])⟩
    · exact ⟨body, gap, hGap, .inr ⟨next, by rw [hEq]⟩⟩

theorem not_breaksOff_nil : ¬ BreaksOff [] := by
  rintro ⟨before, gap, after, -, hEq⟩
  cases (List.append_eq_nil_iff.mp hEq.symm).2

/-
  A slash in front of a body that is closed behind it ends
  nothing, unless a comma follows within the body.
-/
theorem endsTerm_append_slash
    {body rest : Text}
    (hEnds : EndsTerm (body ++ '/' :: rest)) :
    ∃ gap after : Text, gap.IsBlank ∧
      body = gap ++ ',' :: after := by
  rcases Text.exists_trimStart body with ⟨gap, hGap, hEq⟩
  cases hBody : Text.trimStart body with
  | nil =>
      rw [hBody, List.append_nil] at hEq
      rw [hEq] at hEnds
      exact absurd hEnds
        (not_endsTerm_of_char hGap (by decide) (by decide))
  | cons c after =>
      rw [hBody] at hEq
      have hChar := Text.isBlank_of_trimStart_cons hBody
      by_cases hComma : c = ','
      · subst hComma
        exact ⟨gap, after, hGap, hEq⟩
      · rw [hEq, List.append_assoc, List.cons_append] at hEnds
        exact absurd hEnds
          (not_endsTerm_of_char hGap hChar hComma)

/- A body is broken off in front, or further behind. -/
theorem breaksOff_cons_iff
    (c : Char)
    (body : Text) :
    BreaksOff (c :: body) ↔
      (c = '/' ∧ ∃ gap after : Text, gap.IsBlank ∧
        body = gap ++ ',' :: after) ∨ BreaksOff body := by
  constructor
  · rintro ⟨before, gap, after, hGap, hEq⟩
    cases before with
    | nil =>
        cases hEq
        exact .inl ⟨rfl, gap, after, hGap, rfl⟩
    | cons d before =>
        cases hEq
        exact .inr ⟨before, gap, after, hGap, rfl⟩
  · rintro (⟨rfl, gap, after, hGap, rfl⟩ |
      ⟨before, gap, after, hGap, rfl⟩)
    · exact ⟨[], gap, after, hGap, rfl⟩
    · exact ⟨c :: before, gap, after, hGap, rfl⟩

/- A body is read up to the slash that closes it. -/
theorem readBody_append
    {body rest : Text}
    (hBody : ¬ BreaksOff body)
    (hEnds : EndsTerm rest) :
    readBody (body ++ '/' :: rest) = some (body, rest) := by
  induction body with
  | nil =>
      rw [List.nil_append, readBody, if_pos ⟨rfl, hEnds⟩]
  | cons c body ih =>
      rw [breaksOff_cons_iff, not_or] at hBody
      have hOn :
          ¬ (c = '/' ∧ EndsTerm (body ++ '/' :: rest)) := by
        rintro ⟨hSlash, hEarly⟩
        exact hBody.1 ⟨hSlash, endsTerm_append_slash hEarly⟩
      rw [List.cons_append, readBody, if_neg hOn, ih hBody.2]
      rfl

/- What is read as a body is closed, and only at its end. -/
theorem of_readBody
    {t body rest : Text}
    (hRead : readBody t = some (body, rest)) :
    t = body ++ '/' :: rest ∧ EndsTerm rest ∧
      ¬ BreaksOff body := by
  induction t generalizing body with
  | nil => cases hRead
  | cons c t ih =>
      unfold readBody at hRead
      split at hRead
      · rename_i hClose
        cases hRead
        exact
          ⟨by rw [hClose.1]; rfl, hClose.2, not_breaksOff_nil⟩
      · rename_i hOn
        rw [Option.map_eq_some_iff] at hRead
        rcases hRead with ⟨⟨inner, behind⟩, hRest, hEq⟩
        cases hEq
        rcases ih hRest with ⟨rfl, hEnds, hInner⟩
        refine ⟨rfl, hEnds, ?_⟩
        rw [breaksOff_cons_iff]
        rintro (⟨hSlash, gap, after, hGap, rfl⟩ | hBreaks)
        · apply hOn
          refine ⟨hSlash, (endsTerm_iff _).mpr ?_⟩
          refine ⟨gap, hGap, .inr ⟨after ++ '/' :: rest, ?_⟩⟩
          rw [List.append_assoc, List.cons_append]
        · exact hInner hBreaks

/- There is no body if no slash closes. -/
theorem readBody_eq_none_iff (t : Text) :
    readBody t = none ↔ ¬ Closes t := by
  constructor
  · intro hNone hCloses
    rcases (closes_iff t).mp hCloses with
      ⟨body, rest, rfl, hEnds⟩
    -- the first closing slash is read, if not this one
    induction body with
    | nil =>
        rw [List.nil_append, readBody, if_pos ⟨rfl, hEnds⟩]
          at hNone
        cases hNone
    | cons c body ih =>
        rw [List.cons_append, readBody] at hNone
        split at hNone
        · cases hNone
        · rw [Option.map_eq_none_iff] at hNone
          exact ih hNone
            ((closes_iff _).mpr ⟨body, rest, rfl, hEnds⟩)
  · intro hOpen
    cases hRead : readBody t with
    | none => rfl
    | some read =>
        rcases read with ⟨body, rest⟩
        rcases of_readBody hRead with ⟨hEq, hEnds, -⟩
        exact absurd
          ((closes_iff t).mpr ⟨body, rest, hEq, hEnds⟩) hOpen

------------------------------------------------------------
-- Signs
------------------------------------------------------------

/- No sign, or an exclamation mark and blanks. -/
def IsSign (sign : Text) : Prop :=
  sign = [] ∨ ∃ gap : Text, gap.IsBlank ∧ sign = '!' :: gap

/- A text that starts with a slash, perhaps behind a sign. -/
def OpensSlash (t : Text) : Prop :=
  ∃ sign inside, IsSign sign ∧ t = sign ++ '/' :: inside

/- A sign in front of a trimmed text leaves it trimmed. -/
theorem IsSign.isTrimmed_append
    {sign t : Text}
    (hSign : IsSign sign)
    (hTrimmed : t.IsTrimmed)
    (hSome : t ≠ []) :
    Text.IsTrimmed (sign ++ t) := by
  constructor
  · intro c hHead
    rcases hSign with rfl | ⟨gap, -, rfl⟩
    · exact hTrimmed.start c hHead
    · cases hHead
      decide
  · intro c hLast
    have hEnd := List.getLast?_eq_some_getLast hSome
    rw [List.getLast?_append, hEnd, Option.some_or, ← hEnd]
      at hLast
    exact hTrimmed.stop c hLast

/- A sign is an exclamation mark and blanks, if anything. -/
theorem IsSign.notMem
    {sign : Text}
    (hSign : IsSign sign)
    {c : Char}
    (hMark : c ≠ '!')
    (hChar : Text.isBlank c = false) :
    c ∉ sign := by
  rcases hSign with rfl | ⟨gap, hGap, rfl⟩
  · exact List.not_mem_nil
  · rw [List.mem_cons, not_or]
    exact ⟨hMark, hGap.notMem hChar⟩

/- What is behind a sign is behind its blanks. -/
theorem afterSign_append
    {sign rest : Text}
    {c : Char}
    (hSign : IsSign sign)
    (hBlank : Text.isBlank c = false)
    (hMark : c ≠ '!') :
    afterSign (sign ++ c :: rest) = c :: rest := by
  rcases hSign with rfl | ⟨gap, hGap, rfl⟩
  · rw [List.nil_append]
    unfold afterSign
    split
    · rename_i hEq
      cases hEq
      exact absurd rfl hMark
    · rfl
  · rw [List.cons_append, afterSign,
      Text.trimStart_append hGap, Text.trimStart_cons hBlank]

theorem afterSign_slash
    {sign : Text}
    (hSign : IsSign sign)
    (inside : Text) :
    afterSign (sign ++ '/' :: inside) = '/' :: inside :=
  afterSign_append hSign (by decide) (by decide)

/- A text is a sign and what is behind it. -/
theorem exists_sign (t : Text) :
    ∃ sign, IsSign sign ∧ t = sign ++ afterSign t := by
  unfold afterSign
  split
  · rename_i rest
    rcases Text.exists_trimStart rest with ⟨gap, hGap, hEq⟩
    refine ⟨'!' :: gap, .inr ⟨gap, hGap, rfl⟩, ?_⟩
    rw [List.cons_append, ← hEq]
  · exact ⟨[], .inl rfl, rfl⟩

/- The sign of a text is what is not behind it. -/
theorem signOf_eq
    {t sign : Text}
    (hEq : t = sign ++ afterSign t) :
    signOf t = sign := by
  have hLength := congrArg List.length hEq
  rw [List.length_append] at hLength
  have hTake :
      (sign ++ afterSign t).take sign.length = sign :=
    List.take_left
  rw [← hEq] at hTake
  have hRest :
      t.length - (afterSign t).length = sign.length := by
    omega
  rw [signOf, hRest, hTake]

/- A text starts with a slash if what is behind its sign does. -/
theorem opensSlash_iff (t : Text) :
    OpensSlash t ↔ ∃ inside, afterSign t = '/' :: inside := by
  constructor
  · rintro ⟨sign, inside, hSign, rfl⟩
    exact ⟨inside, afterSign_slash hSign inside⟩
  · rintro ⟨inside, hAfter⟩
    rcases exists_sign t with ⟨sign, hSign, hEq⟩
    rw [hAfter] at hEq
    exact ⟨sign, inside, hSign, hEq⟩

------------------------------------------------------------
-- Terms
------------------------------------------------------------

/-
  A term of an expression: trimmed, free of commas and not
  between slashes, or between slashes, perhaps with a sign,
  and not broken off within.
-/
inductive IsTerm : Text → Prop
  | plain
      {t : Text}
      (hTrimmed : t.IsTrimmed)
      (hComma : ',' ∉ t)
      (hOpen : ¬ OpensSlash t) :
      IsTerm t
  | slashed
      {sign body : Text}
      (hSign : IsSign sign)
      (hBody : ¬ BreaksOff body) :
      IsTerm (sign ++ '/' :: (body ++ ['/']))

/- A text between slashes is trimmed. -/
theorem isTrimmed_slashes (body : Text) :
    Text.IsTrimmed ('/' :: (body ++ ['/'])) := by
  constructor
  · intro c hHead
    cases hHead
    decide
  · intro c hLast
    rw [← List.cons_append, List.getLast?_concat] at hLast
    cases hLast
    decide

theorem isTrimmed_slashed
    {sign body : Text}
    (hSign : IsSign sign) :
    Text.IsTrimmed (sign ++ '/' :: (body ++ ['/'])) :=
  hSign.isTrimmed_append (isTrimmed_slashes body)
    (List.cons_ne_nil _ _)

theorem IsTerm.isTrimmed
    {t : Text}
    (hTerm : IsTerm t) :
    t.IsTrimmed := by
  cases hTerm with
  | plain hTrimmed hComma hOpen => exact hTrimmed
  | slashed hSign hBody => exact isTrimmed_slashed hSign

theorem isTerm_nil : IsTerm [] := by
  refine .plain Text.isTrimmed_nil List.not_mem_nil ?_
  rintro ⟨sign, inside, -, hEq⟩
  cases (List.append_eq_nil_iff.mp hEq.symm).2

------------------------------------------------------------
-- Reading One Term
------------------------------------------------------------

/- How a text that opens a slash is read. -/
theorem readTerm_of_slash
    {sign inside : Text}
    (hSign : IsSign sign) :
    readTerm (sign ++ '/' :: inside) =
      match readBody inside with
      | some (body, rest) =>
          .ok (sign ++ '/' :: (body ++ ['/']), rest)
      | none =>
          .error ⟨Text.trim (sign ++ '/' :: inside)⟩ := by
  have hAfter := afterSign_slash hSign inside
  have hSignOf : signOf (sign ++ '/' :: inside) = sign := by
    apply signOf_eq
    rw [hAfter]
  have hLiteral : "/".toList = ['/'] := rfl
  unfold readTerm
  rw [hAfter, hSignOf]
  simp only [hLiteral]
  cases readBody inside with
  | none => rfl
  | some read =>
      simp only [List.append_assoc, List.cons_append,
        List.nil_append]

/- How any other text is read. -/
theorem readTerm_of_plain
    {t : Text}
    (hOpen : ¬ OpensSlash t) :
    readTerm t =
      .ok
        (Text.trim (t.takeWhile (· != ',')),
          t.dropWhile (· != ',')) := by
  rw [opensSlash_iff] at hOpen
  unfold readTerm
  split
  · rename_i inside hInside
    exact absurd ⟨inside, hInside⟩ hOpen
  · rfl

/-
  An unclosed text starts with a slash, perhaps behind a
  sign, that no later slash closes.
-/
def IsUnclosed (t : Text) : Prop :=
  ∃ sign inside, IsSign sign ∧ t = sign ++ '/' :: inside ∧
    ¬ Closes inside

/- Reading a term fails exactly on unclosed texts. -/
theorem readTerm_eq_error_iff
    (t : Text)
    (fault : Unterminated) :
    readTerm t = .error fault ↔
      IsUnclosed t ∧ fault = ⟨Text.trim t⟩ := by
  by_cases hOpen : OpensSlash t
  · rcases hOpen with ⟨sign, inside, hSign, rfl⟩
    have hRead := @readTerm_of_slash sign inside hSign
    have hUnclosed :
        IsUnclosed (sign ++ '/' :: inside) ↔
          readBody inside = none := by
      rw [readBody_eq_none_iff]
      constructor
      · rintro ⟨other, behind, hOther, hEq, hCloses⟩
        have hAfter := congrArg afterSign hEq
        rw [afterSign_slash hSign, afterSign_slash hOther]
          at hAfter
        cases hAfter
        exact hCloses
      · intro hCloses
        exact ⟨sign, inside, hSign, rfl, hCloses⟩
    rw [hUnclosed, hRead]
    cases readBody inside with
    | none =>
        simp only [Except.error.injEq, true_and]
        exact eq_comm
    | some read => simp
  · rw [readTerm_of_plain hOpen]
    constructor
    · intro hError
      cases hError
    · rintro ⟨⟨sign, inside, hSign, hEq, -⟩, -⟩
      exact absurd ⟨sign, inside, hSign, hEq⟩ hOpen

/- A text without comma is taken whole. -/
theorem takeWhile_comma
    {t rest : Text}
    (hComma : ',' ∉ t)
    (hRest : IsRest rest) :
    (t ++ rest).takeWhile (· != ',') = t ∧
      (t ++ rest).dropWhile (· != ',') = rest := by
  have hAll : ∀ c ∈ t, (c != ',') = true := by
    intro c hMem
    rw [bne_iff_ne]
    rintro rfl
    exact hComma hMem
  rw [List.takeWhile_append_of_pos hAll,
    List.dropWhile_append_of_pos hAll]
  cases hRest with
  | nothing => simp
  | comma next => simp

theorem notMem_takeWhile_comma (t : Text) :
    ',' ∉ t.takeWhile (· != ',') := by
  intro hMem
  have hNe := List.all_eq_true.mp List.all_takeWhile _ hMem
  cases hNe

/- What is not taken starts with a comma. -/
theorem isRest_dropWhile_comma (t : Text) :
    IsRest (t.dropWhile (· != ',')) := by
  have hHead := List.head?_dropWhile_not (· != ',') t
  cases hDrop : t.dropWhile (· != ',') with
  | nil => exact .nothing
  | cons c next =>
      have hComma : c = ',' := by
        simpa [hDrop] using hHead
      rw [hComma]
      exact .comma next

theorem IsRest.not_opensSlash
    {rest : Text}
    (hRest : IsRest rest) :
    ¬ OpensSlash rest := by
  rw [opensSlash_iff]
  rintro ⟨inside, hAfter⟩
  cases hRest with
  | nothing => cases hAfter
  | comma next => cases hAfter

/- Nothing that follows a plain term opens a slash in it. -/
theorem not_opensSlash_append
    {t v rest : Text}
    (hTrimmed : t.IsTrimmed)
    (hOpen : ¬ OpensSlash t)
    (hSome : t ≠ [])
    (hV : v.IsBlank)
    (hRest : IsRest rest) :
    ¬ OpensSlash (t ++ (v ++ rest)) := by
  rw [opensSlash_iff] at hOpen ⊢
  rintro ⟨inside, hAfter⟩
  apply hOpen
  cases t with
  | nil => exact absurd rfl hSome
  | cons c t =>
      by_cases hMark : c = '!'
      · subst hMark
        rw [List.cons_append, afterSign] at hAfter
        cases hTail : Text.trimStart t with
        | nil =>
            exfalso
            rcases Text.exists_trimStart t with
              ⟨gap, hGap, hEq⟩
            rw [hTail, List.append_nil] at hEq
            rw [hEq, Text.trimStart_append hGap,
              Text.trimStart_append hV, hRest.trimStart_eq]
              at hAfter
            cases hRest with
            | nothing => cases hAfter
            | comma next => cases hAfter
        | cons d tail =>
            have hSome' : Text.trimStart t ≠ [] := by
              rw [hTail]
              exact List.cons_ne_nil _ _
            rw [Text.trimStart_append_of_ne hSome', hTail]
              at hAfter
            cases hAfter
            exact ⟨tail, hTail⟩
      · have hSame (u : Text) : afterSign (c :: u) = c :: u := by
          unfold afterSign
          split
          · rename_i hEq
            cases hEq
            exact absurd rfl hMark
          · rfl
        rw [List.cons_append, hSame] at hAfter
        cases hAfter
        exact ⟨t, hSame t⟩

/-
  A term with blanks around it is read whatever follows, if
  this is nothing or a comma and more.
-/
theorem readTerm_of_isTerm
    {w term v rest : Text}
    (hW : w.IsBlank)
    (hTerm : IsTerm term)
    (hV : v.IsBlank)
    (hRest : IsRest rest) :
    ∃ behind,
      readTerm (Text.trimStart (w ++ term ++ v ++ rest)) =
        .ok (term, behind) ∧
      Text.trimStart behind = rest := by
  have hTrimmed := hTerm.isTrimmed
  have hWhole (hSome : term ≠ []) :
      Text.trimStart (w ++ term ++ v ++ rest) =
        term ++ (v ++ rest) := by
    rw [List.append_assoc, List.append_assoc,
      Text.trimStart_append hW,
      Text.trimStart_append_of_ne, hTrimmed.trimStart_eq]
    rwa [hTrimmed.trimStart_eq]
  cases hTerm with
  | @slashed sign body hSign hBody =>
      refine ⟨v ++ rest, ?_, ?_⟩
      · rw [hWhole (by simp), List.append_assoc,
          List.cons_append, List.append_assoc,
          readTerm_of_slash hSign, List.singleton_append,
          readBody_append hBody (endsTerm_append hV hRest)]
      · rw [Text.trimStart_append hV, hRest.trimStart_eq]
  | plain _ hComma hOpen =>
      refine ⟨rest, ?_, hRest.trimStart_eq⟩
      by_cases hSome : term = []
      · subst hSome
        have hTake := takeWhile_comma List.not_mem_nil hRest
        rw [List.nil_append] at hTake
        rw [List.append_nil, List.append_assoc,
          Text.trimStart_append hW, Text.trimStart_append hV,
          hRest.trimStart_eq,
          readTerm_of_plain hRest.not_opensSlash, hTake.1,
          hTake.2]
        rfl
      · have hComma' : ',' ∉ term ++ v := by
          rw [List.mem_append, not_or]
          exact ⟨hComma, hV.notMem (by decide)⟩
        have hTake := takeWhile_comma hComma' hRest
        have hTrim : Text.trim (term ++ v) = term := by
          rw [Text.trim_append hV, hTrimmed.trim_eq]
        rw [hWhole hSome,
          readTerm_of_plain
            (not_opensSlash_append hTrimmed hOpen hSome hV
              hRest),
          ← List.append_assoc, hTake.1, hTake.2, hTrim]

/-
  The text in front of the first comma is a term and blanks,
  unless it opens a slash.
-/
theorem isTerm_before_comma
    {t : Text}
    (hStart : Text.trimStart t = t)
    (hOpen : ¬ OpensSlash t) :
    IsTerm (Text.trim (t.takeWhile (· != ','))) ∧
      ∃ v : Text, v.IsBlank ∧
        t.takeWhile (· != ',') =
          Text.trim (t.takeWhile (· != ',')) ++ v := by
  have hSplit := List.takeWhile_append_dropWhile
    (p := (· != ',')) (l := t)
  have hBegin :
      Text.trimStart (t.takeWhile (· != ',')) =
        t.takeWhile (· != ',') := by
    apply Text.trimStart_of_append
    rw [hSplit, hStart]
  rcases Text.exists_trim_append hBegin with ⟨v, hV, hEnd⟩
  refine ⟨.plain (Text.isTrimmed_trim _) ?_ ?_, v, hV, hEnd⟩
  · intro hMem
    apply notMem_takeWhile_comma t
    rw [hEnd]
    exact List.mem_append_left _ hMem
  · rintro ⟨sign, inside, hSign, hEq⟩
    apply hOpen
    refine ⟨sign, inside ++ (v ++ t.dropWhile (· != ',')),
      hSign, ?_⟩
    rw [← List.cons_append, ← List.append_assoc, ← hEq,
      ← List.append_assoc, ← hEnd, hSplit]

/-
  What is read as a term is one, and behind it there are
  blanks and then nothing or a comma.
-/
theorem isTerm_of_readTerm
    {t term behind : Text}
    (hStart : Text.trimStart t = t)
    (hRead : readTerm t = .ok (term, behind)) :
    IsTerm term ∧
      (∃ v : Text, v.IsBlank ∧
        t = term ++ v ++ Text.trimStart behind) ∧
      IsRest (Text.trimStart behind) := by
  by_cases hOpen : OpensSlash t
  · rcases hOpen with ⟨sign, inside, hSign, rfl⟩
    rw [readTerm_of_slash hSign] at hRead
    cases hBody : readBody inside with
    | none =>
        rw [hBody] at hRead
        cases hRead
    | some read =>
        rw [hBody] at hRead
        cases hRead
        rcases of_readBody hBody with ⟨hEq, hEnds, hWhole⟩
        rcases Text.exists_trimStart read.2 with
          ⟨v, hV, hBehind⟩
        refine ⟨.slashed hSign hWhole, ⟨v, hV, ?_⟩,
          isRest_of_endsTerm hEnds⟩
        rw [List.append_assoc, ← hBehind, hEq]
        simp
  · rw [readTerm_of_plain hOpen] at hRead
    cases hRead
    rcases isTerm_before_comma hStart hOpen with
      ⟨hTerm, v, hV, hEnd⟩
    have hRest := isRest_dropWhile_comma t
    rw [hRest.trimStart_eq]
    refine ⟨hTerm, ⟨v, hV, ?_⟩, hRest⟩
    rw [← hEnd, List.takeWhile_append_dropWhile]

end PageHeat
