import PageHeat.Proofs.Json.Reading
import PageHeat.Proofs.Text.Decimal
import PageHeat.Report.Json

/-
  What is laid out is a document.

  A text is written between quotes with an admissible
  spelling for each of its characters, a number without
  needless zeros, and all that is added for the eye is space
  between tokens. So the layout of a value, at any depth,
  is a document of this value.

  Key definitions include:
    * `Json.value`

  Key lemmas include:
    * `Json.spellsChar_escape`
    * `Json.isNumber_text`
    * `Json.spaced_pretty`
    * `Json.isDocument_pretty`
-/

------------------------------------------------------------
-- Values
------------------------------------------------------------

namespace PageHeat

namespace Json

mutual

/- A value for reports as a value in general. -/
def value : Json → Value
  | .text t => .text t
  | .number n => .number (Decimal.text n)
  | .list items => .list (itemValues items)
  | .object fields => .object (fieldValues fields)

def itemValues : List Json → List Value
  | [] => []
  | item :: rest => item.value :: itemValues rest

def fieldValues : List (Text × Json) → List (Text × Value)
  | [] => []
  | (key, v) :: rest => (key, v.value) :: fieldValues rest

end

------------------------------------------------------------
-- Strings
------------------------------------------------------------

/- Control characters are written as four digits. -/
theorem isCode_controlDigits
    {c : Char}
    (hControl : c.toNat < 0x20) :
    IsCode (controlDigits c) c.toNat := by
  -- there are 32 of them, and reading back is decidable
  have hAll :
      ∀ n < 0x20,
        readCode?
            (List.replicate
                (4 - (Nat.toDigits 16 n).length) '0' ++
              Nat.toDigits 16 n) =
          some (n, []) := by
    decide
  rcases (readCode?_eq_some_iff _ _ _).mp
      (hAll c.toNat hControl) with
    ⟨digits, hCode, hEq⟩
  rw [List.append_nil] at hEq
  unfold controlDigits
  rwa [hEq]

/- Each character is written as one of its spellings. -/
theorem spellsChar_escape (c : Char) :
    SpellsChar c (escape c) := by
  unfold escape
  split
  case h_8 hQuote hSlash _ _ _ _ _ =>
    split
    · rename_i hControl
      exact .code (isCode_controlDigits hControl)
    · rename_i hControl
      exact
        .plain ⟨Nat.le_of_not_lt hControl, hQuote, hSlash⟩
  all_goals exact .short rfl

/- So is each text. -/
theorem spellsText_flatMap_escape (t : Text) :
    SpellsText t (t.flatMap escape) := by
  induction t with
  | nil => exact .nil
  | cons c t ih =>
      rw [List.flatMap_cons]
      exact .cons (spellsChar_escape c) ih

theorem spelled_quote (t : Text) :
    (Token.text t).Spelled (quote t) :=
  .text (spellsText_flatMap_escape t)

------------------------------------------------------------
-- Numbers
------------------------------------------------------------

/- Digits that start with no zero are a number. -/
theorem isNumber_of_digits
    {c : Char}
    {t : Text}
    (hDigits : ∀ d ∈ c :: t, d.isDigit = true)
    (hZero : c ≠ '0') :
    IsNumber (c :: t) := by
  rw [List.forall_mem_cons] at hDigits
  rcases hDigits with ⟨hDigit, hRest⟩
  have hMinus :
      ∀ u, c :: t = '-' :: u → False := by
    rintro u hEq
    cases hEq
    cases hDigit
  have hNil : t.dropWhile Char.isDigit = [] :=
    List.dropWhile_eq_nil_iff.mpr hRest
  rw [IsNumber, isUnsigned, hDigit, hNil]
  · rfl
  · exact hZero
  · exact hMinus

/- What is written for a number is one. -/
theorem isNumber_text (n : Nat) :
    IsNumber (Decimal.text n) := by
  rcases Nat.eq_zero_or_pos n with rfl | hPos
  · decide
  · have hDigits := fun c =>
      Decimal.isDigit_of_mem_text (n := n) (c := c)
    have hHead := Decimal.head?_text_ne hPos
    rcases hText : Decimal.text n with _ | ⟨c, t⟩
    · exact absurd hText (Decimal.isDigits_text n).1
    · rw [hText] at hDigits hHead
      refine isNumber_of_digits hDigits ?_
      rintro rfl
      exact hHead rfl

------------------------------------------------------------
-- Layout
------------------------------------------------------------

/- What does not go on with a number. -/
def Stops : Text → Prop
  | [] => True
  | c :: _ => isNumeric c = false

/- In front of such a text every token ends. -/
theorem Stops.endsBefore
    {rest : Text}
    (hStops : Stops rest)
    (token : Token) :
    token.EndsBefore rest := by
  cases token with
  | number literal =>
      cases rest with
      | nil => trivial
      | cons c rest => exact hStops
  | _ => trivial

theorem isSpace_nil : IsSpace [] :=
  fun _ hMem => absurd hMem List.not_mem_nil

theorem IsSpace.append
    {space more : Text}
    (hSpace : IsSpace space)
    (hMore : IsSpace more) :
    IsSpace (space ++ more) :=
  List.forall_mem_append.mpr ⟨hSpace, hMore⟩

/- Space in front changes no tokens. -/
theorem Spaced.behind
    {space t : Text}
    {tokens : List Token}
    (hSpace : IsSpace space)
    (hSpaced : Spaced tokens t) :
    Spaced tokens (space ++ t) := by
  cases hSpaced with
  | done hEnd => exact .done (hSpace.append hEnd)
  | token hFirst hWord hEnds hRest =>
      rw [← List.append_assoc]
      exact .token (hSpace.append hFirst) hWord hEnds hRest

/- A token can stand right at the front. -/
theorem Spaced.front
    {word rest : Text}
    {token : Token}
    {tokens : List Token}
    (hWord : token.Spelled word)
    (hEnds : token.EndsBefore rest)
    (hRest : Spaced tokens rest) :
    Spaced (token :: tokens) (word ++ rest) :=
  .token isSpace_nil hWord hEnds hRest

/- A fixed token can, whatever is behind it. -/
theorem Spaced.fixed
    {word rest : Text}
    {token : Token}
    {tokens : List Token}
    (hFixed : token.fixed? = some word)
    (hRest : Spaced tokens rest) :
    Spaced (token :: tokens) (word ++ rest) :=
  .front (.fixed hFixed)
    (Token.endsBefore_of_fixed hFixed rest) hRest

theorem isSpace_newLine (depth : Nat) :
    IsSpace (newLine depth) := by
  intro c hMem
  unfold newLine at hMem
  rw [List.mem_cons, List.mem_replicate] at hMem
  rcases hMem with rfl | ⟨_, rfl⟩
  · rfl
  · rfl

theorem stops_newLine
    (depth : Nat)
    (rest : Text) :
    Stops (newLine depth ++ rest) :=
  rfl

theorem stops_comma (rest : Text) : Stops ("," ++ rest) :=
  rfl

/- A key stands on a line of its own, in front of a colon. -/
theorem Spaced.key
    (depth : Nat)
    (key : Text)
    {rest : Text}
    {tokens : List Token}
    (hRest : Spaced tokens rest) :
    Spaced (.text key :: .colon :: tokens)
      (newLine depth ++ (quote key ++ (": " ++ rest))) := by
  have hBlank : IsSpace " " := by
    intro c hMem
    cases List.mem_singleton.mp hMem
    rfl
  have hColon :
      Spaced (.colon :: tokens) (":" ++ (" " ++ rest)) :=
    .fixed rfl (hRest.behind hBlank)
  exact
    (Spaced.front (spelled_quote key) trivial hColon).behind
      (isSpace_newLine depth)

mutual

/-
  A value that is laid out has its tokens in front of those
  of the rest. The rest stops a number, as it starts with a
  comma, a line end or nothing.
-/
theorem spaced_pretty
    (depth : Nat)
    (j : Json)
    {rest : Text}
    {tokens : List Token}
    (hStops : Stops rest)
    (hRest : Spaced tokens rest) :
    Spaced (j.value.tokens ++ tokens)
      (j.pretty depth ++ rest) := by
  match j with
  | .text t =>
      exact
        .front (spelled_quote t) (hStops.endsBefore _) hRest
  | .number n =>
      exact
        .front (.number (isNumber_text n))
          (hStops.endsBefore _) hRest
  | .list [] =>
      have hEnd :
          Spaced (.closeList :: tokens) ("]" ++ rest) :=
        .fixed rfl hRest
      have hList :
          Spaced (.openList :: _) ("[" ++ ("]" ++ rest)) :=
        .fixed rfl hEnd
      exact hList
  | .list (item :: items) =>
      have hEnd :
          Spaced (.closeList :: tokens) ("]" ++ rest) :=
        .fixed rfl hRest
      have hItems :=
        spaced_prettyItems (depth + 1) (item :: items)
          (stops_newLine depth _)
          (hEnd.behind (isSpace_newLine depth))
      have hList : Spaced (.openList :: _) ("[" ++ _) :=
        .fixed rfl hItems
      simpa [value, Value.tokens, pretty] using hList
  | .object [] =>
      have hEnd :
          Spaced (.closeObject :: tokens)
            ("\x7d" ++ rest) :=
        .fixed rfl hRest
      have hObject :
          Spaced (.openObject :: _)
            ("\x7b" ++ ("\x7d" ++ rest)) :=
        .fixed rfl hEnd
      exact hObject
  | .object (field :: fields) =>
      have hEnd :
          Spaced (.closeObject :: tokens)
            ("\x7d" ++ rest) :=
        .fixed rfl hRest
      have hFields :=
        spaced_prettyFields (depth + 1) (field :: fields)
          (stops_newLine depth _)
          (hEnd.behind (isSpace_newLine depth))
      have hObject :
          Spaced (.openObject :: _) ("\x7b" ++ _) :=
        .fixed rfl hFields
      simpa [value, Value.tokens, pretty] using hObject

/- The same for items. -/
theorem spaced_prettyItems
    (depth : Nat)
    (items : List Json)
    {rest : Text}
    {tokens : List Token}
    (hStops : Stops rest)
    (hRest : Spaced tokens rest) :
    Spaced (Value.itemTokens (itemValues items) ++ tokens)
      (prettyItems depth items ++ rest) := by
  match items with
  | [] => exact hRest
  | [item] =>
      have hItem := spaced_pretty depth item hStops hRest
      rw [prettyItems, List.append_assoc]
      exact hItem.behind (isSpace_newLine depth)
  | item :: next :: others =>
      have hOthers :=
        spaced_prettyItems depth (next :: others) hStops
          hRest
      have hComma : Spaced (.comma :: _) ("," ++ _) :=
        .fixed rfl hOthers
      have hItem :=
        (spaced_pretty depth item (stops_comma _)
          hComma).behind (isSpace_newLine depth)
      simpa [itemValues, Value.itemTokens, prettyItems]
        using hItem

/- The same for fields. -/
theorem spaced_prettyFields
    (depth : Nat)
    (fields : List (Text × Json))
    {rest : Text}
    {tokens : List Token}
    (hStops : Stops rest)
    (hRest : Spaced tokens rest) :
    Spaced (Value.fieldTokens (fieldValues fields) ++ tokens)
      (prettyFields depth fields ++ rest) := by
  match fields with
  | [] => exact hRest
  | [(key, v)] =>
      have hField :=
        (spaced_pretty depth v hStops hRest).key depth key
      simpa [fieldValues, Value.fieldTokens, prettyFields]
        using hField
  | (key, v) :: next :: others =>
      have hOthers :=
        spaced_prettyFields depth (next :: others) hStops
          hRest
      have hComma : Spaced (.comma :: _) ("," ++ _) :=
        .fixed rfl hOthers
      have hField :=
        (spaced_pretty depth v (stops_comma _) hComma).key
          depth key
      simpa [fieldValues, Value.fieldTokens, prettyFields]
        using hField

end

/- What is laid out at any depth is a document. -/
theorem isDocument_pretty
    (j : Json)
    (depth : Nat) :
    IsDocument j.value (j.pretty depth) := by
  have hEnd : Spaced [] [] := .done isSpace_nil
  have hStops : Stops [] := trivial
  have hSpaced := spaced_pretty depth j hStops hEnd
  rwa [List.append_nil, List.append_nil] at hSpaced

end Json

end PageHeat
