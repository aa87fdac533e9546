import Mathlib.Data.List.TakeWhile
import PageHeat.Proofs.Json.Character

/-
  Splitting a document into its tokens.

  The first character of a token says what it can be. A
  number goes on as long as there are characters that a
  number can have; everything else ends by itself. So a text
  has the tokens of one sequence at most, and these are
  found.

  Key definitions include:
    * `Json.readToken?`
    * `Json.readTokens?`

  Key lemmas include:
    * `Json.isNumeric_of_isNumber`
    * `Json.readToken?_eq_some_iff`
    * `Json.readTokens?_eq_some_iff`
-/

------------------------------------------------------------
-- Characters Of Numbers
------------------------------------------------------------

namespace PageHeat

namespace Json

theorem isNumeric_of_isDigit
    {c : Char}
    (hDigit : c.isDigit = true) :
    isNumeric c = true := by
  unfold isNumeric
  rw [hDigit]
  rfl

theorem isNumeric_of_isDigits
    {t : Text}
    (hDigits : isDigits t = true) :
    ∀ c ∈ t, isNumeric c = true := by
  intro c hMem
  unfold isDigits at hDigits
  rw [Bool.and_eq_true, List.all_eq_true] at hDigits
  exact isNumeric_of_isDigit (hDigits.2 c hMem)

theorem isNumeric_of_exponent
    {e : Char}
    (hLetter : (e == 'e' || e == 'E') = true) :
    isNumeric e = true := by
  unfold isNumeric
  rw [Bool.or_eq_true] at hLetter
  rcases hLetter with hLetter | hLetter
  · simp [hLetter]
  · simp [hLetter]

/- An exponent has characters of numbers only. -/
theorem isNumeric_of_isExponent
    {t : Text}
    (hExponent : isExponent t = true) :
    ∀ c ∈ t, isNumeric c = true := by
  unfold isExponent at hExponent
  split at hExponent
  · exact fun _ hMem => absurd hMem List.not_mem_nil
  · rw [Bool.and_eq_true] at hExponent
    simp only [List.forall_mem_cons]
    exact
      ⟨isNumeric_of_exponent hExponent.1, rfl,
        isNumeric_of_isDigits hExponent.2⟩
  · rw [Bool.and_eq_true] at hExponent
    simp only [List.forall_mem_cons]
    exact
      ⟨isNumeric_of_exponent hExponent.1, rfl,
        isNumeric_of_isDigits hExponent.2⟩
  · rw [Bool.and_eq_true] at hExponent
    simp only [List.forall_mem_cons]
    exact
      ⟨isNumeric_of_exponent hExponent.1,
        isNumeric_of_isDigits hExponent.2⟩

/- Digits at the front do not matter for the rest. -/
theorem isNumeric_of_dropWhile
    {t : Text}
    (hRest :
      ∀ c ∈ t.dropWhile Char.isDigit, isNumeric c = true) :
    ∀ c ∈ t, isNumeric c = true := by
  intro c hMem
  rw [← List.takeWhile_append_dropWhile (p := Char.isDigit)
    (l := t), List.mem_append] at hMem
  rcases hMem with hMem | hMem
  · exact isNumeric_of_isDigit (List.mem_takeWhile_imp hMem)
  · exact hRest c hMem

/- So do fractions. -/
theorem isNumeric_of_isFraction
    {t : Text}
    (hFraction : isFraction t = true) :
    ∀ c ∈ t, isNumeric c = true := by
  unfold isFraction at hFraction
  split at hFraction
  · rw [Bool.and_eq_true] at hFraction
    simp only [List.forall_mem_cons]
    exact
      ⟨rfl, isNumeric_of_dropWhile
        (isNumeric_of_isExponent hFraction.2)⟩
  · exact isNumeric_of_isExponent hFraction

/- So do numbers without sign. -/
theorem isNumeric_of_isUnsigned
    {t : Text}
    (hUnsigned : isUnsigned t = true) :
    ∀ c ∈ t, isNumeric c = true := by
  unfold isUnsigned at hUnsigned
  split at hUnsigned
  · cases hUnsigned
  · simp only [List.forall_mem_cons]
    exact ⟨rfl, isNumeric_of_isFraction hUnsigned⟩
  · rw [Bool.and_eq_true] at hUnsigned
    simp only [List.forall_mem_cons]
    exact
      ⟨isNumeric_of_isDigit hUnsigned.1,
        isNumeric_of_dropWhile
          (isNumeric_of_isFraction hUnsigned.2)⟩

theorem isNumeric_of_isNumber
    {t : Text}
    (hNumber : IsNumber t) :
    ∀ c ∈ t, isNumeric c = true := by
  unfold IsNumber at hNumber
  split at hNumber
  · simp only [List.forall_mem_cons]
    exact ⟨rfl, isNumeric_of_isUnsigned hNumber⟩
  · exact isNumeric_of_isUnsigned hNumber

theorem not_isNumber_nil : ¬ IsNumber [] := by
  decide

------------------------------------------------------------
-- Numbers
------------------------------------------------------------

/- Read a number as far as it can go. -/
def readNumber? (t : Text) : Option (Token × Text) :=
  if IsNumber (t.takeWhile isNumeric) then
    some
      (.number (t.takeWhile isNumeric),
        t.dropWhile isNumeric)
  else
    none

/- What cannot be added to a number is not taken for it. -/
theorem takeWhile_isNumeric_of_endsBefore
    {literal rest : Text}
    (hEnds : (Token.number literal).EndsBefore rest) :
    rest.takeWhile isNumeric = [] ∧
      rest.dropWhile isNumeric = rest := by
  cases rest with
  | nil => exact ⟨rfl, rfl⟩
  | cons c rest =>
      have hNot : isNumeric c = false := hEnds
      constructor
      · rw [List.takeWhile_cons, hNot]
        rfl
      · rw [List.dropWhile_cons, hNot]
        rfl

/- A number ends where its characters do. -/
theorem endsBefore_dropWhile
    (literal t : Text) :
    (Token.number literal).EndsBefore
      (t.dropWhile isNumeric) := by
  cases hRest : t.dropWhile isNumeric with
  | nil => trivial
  | cons c rest =>
      have hHead :=
        List.head?_dropWhile_not isNumeric t
      rw [hRest] at hHead
      exact hHead

/- A number is read exactly where it is written. -/
theorem readNumber?_eq_some_iff
    (t : Text)
    (token : Token)
    (rest : Text) :
    readNumber? t = some (token, rest) ↔
      ∃ literal,
        token = .number literal ∧ IsNumber literal ∧
          token.EndsBefore rest ∧ t = literal ++ rest := by
  unfold readNumber?
  constructor
  · intro hRead
    split at hRead
    · rename_i hNumber
      cases hRead
      exact
        ⟨_, rfl, hNumber, endsBefore_dropWhile _ t,
          (List.takeWhile_append_dropWhile).symm⟩
    · cases hRead
  · rintro ⟨literal, rfl, hNumber, hEnds, rfl⟩
    have hAll := isNumeric_of_isNumber hNumber
    rcases takeWhile_isNumeric_of_endsBefore hEnds with
      ⟨hTake, hDrop⟩
    rw [List.takeWhile_append_of_pos hAll, hTake,
      List.append_nil, if_pos hNumber,
      List.dropWhile_append_of_pos hAll, hDrop]

------------------------------------------------------------
-- Fixed Tokens
------------------------------------------------------------

/- The token that is always written, by its first sign. -/
def fixedBy? : Char → Option Token
  | '[' => some .openList
  | ']' => some .closeList
  | '\x7b' => some .openObject
  | '\x7d' => some .closeObject
  | ',' => some .comma
  | ':' => some .colon
  | 'n' => some .null
  | 't' => some (.boolean true)
  | 'f' => some (.boolean false)
  | _ => none

/- Read a token that is always written the same way. -/
def readFixed? (t : Text) : Option (Token × Text) := do
  let c ← t.head?
  let token ← fixedBy? c
  let word ← token.fixed?
  let rest ← Text.stripPrefix? word t
  some (token, rest)

/- What is known of the first sign of such a token. -/
theorem fixed?_head
    {token : Token}
    {word : Text}
    (hFixed : token.fixed? = some word) :
    ∃ c behind,
      word = c :: behind ∧ fixedBy? c = some token ∧
        c ≠ '"' ∧ isNumeric c = false ∧
          isSpace c = false := by
  rcases token with _ | _ | _ | _ | _ | _ | _ | b | _ | _
  case number => cases hFixed
  case text => cases hFixed
  case boolean =>
      cases b <;> cases hFixed <;>
        exact ⟨_, _, rfl, rfl, by decide⟩
  all_goals
    cases hFixed
    exact ⟨_, _, rfl, rfl, by decide⟩

/- A fixed token is read exactly where it is written. -/
theorem readFixed?_eq_some_iff
    (t : Text)
    (token : Token)
    (rest : Text) :
    readFixed? t = some (token, rest) ↔
      ∃ word,
        token.fixed? = some word ∧ t = word ++ rest := by
  simp only [readFixed?, Option.bind_eq_bind,
    Option.bind_eq_some_iff, Text.stripPrefix?_eq_some_iff,
    Option.some.injEq, Prod.mk.injEq]
  constructor
  · rintro ⟨c, _, found, _, word, hFixed, behind, hEq, rfl, rfl⟩
    exact ⟨word, hFixed, hEq⟩
  · rintro ⟨word, hFixed, rfl⟩
    rcases fixed?_head hFixed with
      ⟨c, behind, rfl, hBy, _⟩
    exact
      ⟨c, rfl, token, hBy, c :: behind, hFixed, rest, rfl,
        rfl, rfl⟩

------------------------------------------------------------
-- Tokens
------------------------------------------------------------

/- Read a token by its first character. -/
def readToken? : Text → Option (Token × Text)
  | [] => none
  | c :: t =>
      if c = '"' then
        (readString? t).map
          fun (cs, rest) => (.text cs, rest)
      else if isNumeric c then
        readNumber? (c :: t)
      else
        readFixed? (c :: t)

/- Only numbers depend on what is behind them. -/
theorem Token.endsBefore_of_fixed
    {token : Token}
    {word : Text}
    (hFixed : token.fixed? = some word)
    (rest : Text) :
    token.EndsBefore rest := by
  cases token with
  | number literal => cases hFixed
  | _ => trivial

theorem isSpace_of_isNumeric
    {c : Char}
    (hNumeric : isNumeric c = true) :
    isSpace c = false := by
  rw [Bool.eq_false_iff]
  intro hSpace
  simp only [isSpace, Bool.or_eq_true, beq_iff_eq] at hSpace
  rcases hSpace with ((rfl | rfl) | rfl) | rfl
  all_goals cases hNumeric

/- A token does not start with space. -/
theorem Token.Spelled.head
    {token : Token}
    {word : Text}
    (hWord : token.Spelled word) :
    ∃ c behind,
      word = c :: behind ∧ isSpace c = false := by
  cases hWord with
  | fixed hFixed =>
      rcases fixed?_head hFixed with
        ⟨c, behind, hEq, _, _, _, hSpace⟩
      exact ⟨c, behind, hEq, hSpace⟩
  | number hNumber =>
      cases word with
      | nil => exact absurd hNumber not_isNumber_nil
      | cons c behind =>
          have hNumeric :=
            isNumeric_of_isNumber hNumber c
              List.mem_cons_self
          exact ⟨c, behind, rfl, isSpace_of_isNumeric hNumeric⟩
  | text hText => exact ⟨'"', _, rfl, rfl⟩

/- A token is read exactly where it is spelled. -/
theorem readToken?_eq_some_iff
    (t : Text)
    (token : Token)
    (rest : Text) :
    readToken? t = some (token, rest) ↔
      ∃ word,
        token.Spelled word ∧ token.EndsBefore rest ∧
          t = word ++ rest := by
  constructor
  · intro hRead
    cases t with
    | nil => cases hRead
    | cons c t =>
        rw [readToken?] at hRead
        split at hRead
        · rename_i hQuote
          rw [Option.map_eq_some_iff] at hRead
          rcases hRead with ⟨⟨cs, behind⟩, hString, hEq⟩
          cases hEq
          rcases (readString?_eq_some_iff t cs rest).mp
              hString with
            ⟨body, hText, rfl⟩
          refine ⟨_, .text hText, trivial, ?_⟩
          rw [hQuote]
          simp
        · split at hRead
          · rcases (readNumber?_eq_some_iff _ token rest).mp
                hRead with
              ⟨literal, rfl, hNumber, hEnds, hEq⟩
            exact ⟨literal, .number hNumber, hEnds, hEq⟩
          · rcases (readFixed?_eq_some_iff _ token rest).mp
                hRead with
              ⟨word, hFixed, hEq⟩
            exact
              ⟨word, .fixed hFixed,
                Token.endsBefore_of_fixed hFixed rest, hEq⟩
  · rintro ⟨word, hWord, hEnds, rfl⟩
    cases hWord with
    | fixed hFixed =>
        have hRead :=
          (readFixed?_eq_some_iff (word ++ rest) token
            rest).mpr ⟨word, hFixed, rfl⟩
        rcases fixed?_head hFixed with
          ⟨c, behind, rfl, _, hQuote, hNumeric, _⟩
        rw [List.cons_append] at hRead ⊢
        rw [readToken?, if_neg hQuote, hNumeric]
        exact hRead
    | number hNumber =>
        have hRead :=
          (readNumber?_eq_some_iff (word ++ rest) _
            rest).mpr ⟨word, rfl, hNumber, hEnds, rfl⟩
        cases word with
        | nil => exact absurd hNumber not_isNumber_nil
        | cons c behind =>
            have hNumeric :=
              isNumeric_of_isNumber hNumber c
                List.mem_cons_self
            have hQuote : c ≠ '"' := by
              rintro rfl
              cases hNumeric
            rw [List.cons_append] at hRead ⊢
            rw [readToken?, if_neg hQuote, if_pos hNumeric]
            exact hRead
    | @text cs body hText =>
        have hRead :
            readString? (body ++ '"' :: rest) =
              some (cs, rest) :=
          (readString?_eq_some_iff _ cs rest).mpr
            ⟨body, hText, rfl⟩
        rw [List.cons_append, List.append_assoc, readToken?,
          if_pos rfl, List.cons_append, List.nil_append,
          hRead]
        rfl

/- What is behind a token is shorter. -/
theorem length_lt_of_readToken?
    {t rest : Text}
    {token : Token}
    (hRead : readToken? t = some (token, rest)) :
    rest.length < t.length := by
  rcases (readToken?_eq_some_iff t token rest).mp hRead with
    ⟨word, hWord, _, rfl⟩
  rcases hWord.head with ⟨c, behind, rfl, _⟩
  rw [List.length_append, List.length_cons]
  omega

------------------------------------------------------------
-- Documents
------------------------------------------------------------

theorem length_lt_of_dropWhile
    {t rest : Text}
    {token : Token}
    (hRead :
      readToken? (t.dropWhile isSpace) =
        some (token, rest)) :
    rest.length < t.length :=
  Nat.lt_of_lt_of_le (length_lt_of_readToken? hRead)
    (List.dropWhile_sublist isSpace).length_le

def readTokens? (t : Text) : Option (List Token) :=
  if t.dropWhile isSpace = [] then
    some []
  else
    match _h : readToken? (t.dropWhile isSpace) with
    | none => none
    | some (token, rest) =>
        (readTokens? rest).map (token :: ·)
termination_by t.length
decreasing_by exact length_lt_of_dropWhile _h

/- A token behind space is the first one. -/
theorem readTokens?_of_spelled
    {space word rest : Text}
    {token : Token}
    (hSpace : IsSpace space)
    (hWord : token.Spelled word)
    (hEnds : token.EndsBefore rest) :
    readTokens? (space ++ (word ++ rest)) =
      (readTokens? rest).map (token :: ·) := by
  have hRead :
      readToken? (word ++ rest) = some (token, rest) :=
    (readToken?_eq_some_iff _ token rest).mpr
      ⟨word, hWord, hEnds, rfl⟩
  have hDrop :
      (space ++ (word ++ rest)).dropWhile isSpace =
        word ++ rest := by
    rcases hWord.head with ⟨c, behind, rfl, hNot⟩
    rw [List.dropWhile_append_of_pos hSpace,
      List.cons_append, List.dropWhile_cons, hNot]
    rfl
  have hSome : word ++ rest ≠ [] := by
    intro hNil
    rw [hNil] at hRead
    cases hRead
  rw [readTokens?, hDrop, if_neg hSome]
  split
  · rename_i hNone
    rw [hRead] at hNone
    cases hNone
  · rename_i hFound
    rw [hRead] at hFound
    cases hFound
    rfl

/- A text has the tokens that are read, and no others. -/
theorem readTokens?_eq_some_iff
    (t : Text)
    (tokens : List Token) :
    readTokens? t = some tokens ↔ Spaced tokens t := by
  constructor
  · intro hRead
    -- by the length of the text, since the rest is found by
    -- reading and is no part of it by its form
    induction hLength : t.length using Nat.strongRecOn
      generalizing t tokens with
    | ind n ih =>
        rw [readTokens?] at hRead
        split at hRead
        · rename_i hNil
          cases hRead
          exact .done (List.dropWhile_eq_nil_iff.mp hNil)
        · split at hRead
          · cases hRead
          · rename_i token rest hToken
            rw [Option.map_eq_some_iff] at hRead
            rcases hRead with ⟨others, hOthers, rfl⟩
            have hShorter := length_lt_of_dropWhile hToken
            have hRest :=
              ih _ (hLength ▸ hShorter) rest others hOthers
                rfl
            rcases (readToken?_eq_some_iff _ token rest).mp
                hToken with
              ⟨word, hWord, hEnds, hEq⟩
            rw [← List.takeWhile_append_dropWhile
              (p := isSpace) (l := t), hEq]
            exact
              .token (fun _ hMem =>
                List.mem_takeWhile_imp hMem)
                hWord hEnds hRest
  · intro hSpaced
    induction hSpaced with
    | done hSpace =>
        rw [readTokens?,
          if_pos (List.dropWhile_eq_nil_iff.mpr hSpace)]
    | token hSpace hWord hEnds _ ih =>
        rw [readTokens?_of_spelled hSpace hWord hEnds, ih]
        rfl

end Json

end PageHeat
