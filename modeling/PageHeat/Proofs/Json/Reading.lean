import PageHeat.Proofs.Json.Token

/-
  Reading a document as a value.

  Values are read from tokens. Lists and objects nest, so
  the readers of values, items and fields call each other;
  as none of them goes deeper than there are tokens, the
  number of tokens bounds them, and with this bound they
  find every value. A text is a document of one value at
  most.

  Key definitions include:
    * `Json.readValue?`
    * `Json.Value.ofTokens?`
    * `Json.Value.read?`

  Key lemmas include:
    * `Json.tokens_of_read`
    * `Json.read_of_tokens`
    * `Json.Value.read?_eq_some_iff`
    * `Json.IsDocument.unique`
-/

------------------------------------------------------------
-- Readers
------------------------------------------------------------

namespace PageHeat

namespace Json

mutual

/- Read a value from the front of some tokens. -/
def readValue? :
    Nat → List Token → Option (Value × List Token)
  | 0, _ => none
  | fuel + 1, tokens =>
      match tokens with
      | .null :: rest => some (.null, rest)
      | .boolean b :: rest => some (.boolean b, rest)
      | .number literal :: rest =>
          some (.number literal, rest)
      | .text t :: rest => some (.text t, rest)
      | .openList :: .closeList :: rest =>
          some (.list [], rest)
      | .openList :: rest =>
          (readItems? fuel rest).map
            fun (items, rest) => (.list items, rest)
      | .openObject :: .closeObject :: rest =>
          some (.object [], rest)
      | .openObject :: rest =>
          (readFields? fuel rest).map
            fun (fields, rest) => (.object fields, rest)
      | _ => none

/- Read one item or more, and the end of the list. -/
def readItems? :
    Nat → List Token → Option (List Value × List Token)
  | 0, _ => none
  | fuel + 1, tokens =>
      match readValue? fuel tokens with
      | some (item, .closeList :: rest) =>
          some ([item], rest)
      | some (item, .comma :: rest) =>
          (readItems? fuel rest).map
            fun (items, rest) => (item :: items, rest)
      | _ => none

/- Read one field or more, and the end of the object. -/
def readFields? :
    Nat → List Token →
      Option (List (Text × Value) × List Token)
  | 0, _ => none
  | fuel + 1, tokens =>
      match tokens with
      | .text key :: .colon :: tokens =>
          match readValue? fuel tokens with
          | some (value, .closeObject :: rest) =>
              some ([(key, value)], rest)
          | some (value, .comma :: rest) =>
              (readFields? fuel rest).map
                fun (fields, rest) =>
                  ((key, value) :: fields, rest)
          | _ => none
      | _ => none

end

def Value.ofTokens? (tokens : List Token) : Option Value :=
  match readValue? tokens.length tokens with
  | some (v, []) => some v
  | _ => none

/- The value that a text is a document of. -/
def Value.read? (t : Text) : Option Value :=
  (readTokens? t).bind Value.ofTokens?

------------------------------------------------------------
-- What Is Read Stands There
------------------------------------------------------------

theorem itemTokens_cons
    (item : Value)
    {items : List Value}
    (hSome : items ≠ []) :
    Value.itemTokens (item :: items) =
      item.tokens ++ .comma :: Value.itemTokens items := by
  cases items with
  | nil => exact absurd rfl hSome
  | cons next rest => rw [Value.itemTokens]

/- An object goes on behind a comma. -/
theorem fieldTokens_cons
    (key : Text)
    (value : Value)
    {fields : List (Text × Value)}
    (hSome : fields ≠ []) :
    Value.fieldTokens ((key, value) :: fields) =
      .text key :: .colon ::
        (value.tokens ++
          .comma :: Value.fieldTokens fields) := by
  cases fields with
  | nil => exact absurd rfl hSome
  | cons next rest => rw [Value.fieldTokens]

/-
  Readers with a bound find nothing but what stands in
  front, up to the end of the list or object.
-/
structure Sound (fuel : Nat) : Prop where
  value {tokens : List Token} {v : Value}
      {rest : List Token}
      (hRead : readValue? fuel tokens = some (v, rest)) :
      tokens = v.tokens ++ rest
  items {tokens : List Token} {items : List Value}
      {rest : List Token}
      (hRead : readItems? fuel tokens = some (items, rest)) :
      items ≠ [] ∧
        tokens =
          Value.itemTokens items ++ .closeList :: rest
  fields {tokens : List Token}
      {fields : List (Text × Value)} {rest : List Token}
      (hRead :
        readFields? fuel tokens = some (fields, rest)) :
      fields ≠ [] ∧
        tokens =
          Value.fieldTokens fields ++ .closeObject :: rest

/- A value is read from its own tokens. -/
theorem Sound.value_succ
    {fuel : Nat}
    (hSound : Sound fuel)
    {tokens : List Token}
    {v : Value}
    {rest : List Token}
    (hRead :
      readValue? (fuel + 1) tokens = some (v, rest)) :
    tokens = v.tokens ++ rest := by
  rw [readValue?.eq_def] at hRead
  dsimp only at hRead
  split at hRead
  -- lists and objects with members are left to the other
  -- readers; all else takes one or two tokens
  case h_6 =>
    rw [Option.map_eq_some_iff] at hRead
    rcases hRead with ⟨⟨items, last⟩, hItems, hEq⟩
    cases hEq
    rw [(hSound.items hItems).2]
    simp [Value.tokens]
  case h_8 =>
    rw [Option.map_eq_some_iff] at hRead
    rcases hRead with ⟨⟨fields, last⟩, hFields, hEq⟩
    cases hEq
    rw [(hSound.fields hFields).2]
    simp [Value.tokens]
  case h_9 => cases hRead
  all_goals
    cases hRead
    rfl

/- So are items. -/
theorem Sound.items_succ
    {fuel : Nat}
    (hSound : Sound fuel)
    {tokens : List Token}
    {items : List Value}
    {rest : List Token}
    (hRead :
      readItems? (fuel + 1) tokens = some (items, rest)) :
    items ≠ [] ∧
      tokens =
        Value.itemTokens items ++ .closeList :: rest := by
  rw [readItems?] at hRead
  split at hRead
  · rename_i hItem
    cases hRead
    refine ⟨List.cons_ne_nil _ _, ?_⟩
    rw [hSound.value hItem, Value.itemTokens]
  · rename_i hItem
    rw [Option.map_eq_some_iff] at hRead
    rcases hRead with ⟨⟨others, last⟩, hOthers, hEq⟩
    cases hEq
    rcases hSound.items hOthers with ⟨hSome, hRest⟩
    refine ⟨List.cons_ne_nil _ _, ?_⟩
    rw [hSound.value hItem, hRest, itemTokens_cons _ hSome]
    simp
  · cases hRead

/- So are fields. -/
theorem Sound.fields_succ
    {fuel : Nat}
    (hSound : Sound fuel)
    {tokens : List Token}
    {fields : List (Text × Value)}
    {rest : List Token}
    (hRead :
      readFields? (fuel + 1) tokens = some (fields, rest)) :
    fields ≠ [] ∧
      tokens =
        Value.fieldTokens fields ++
          .closeObject :: rest := by
  rw [readFields?.eq_def] at hRead
  dsimp only at hRead
  split at hRead
  · split at hRead
    · rename_i hValue
      cases hRead
      refine ⟨List.cons_ne_nil _ _, ?_⟩
      rw [hSound.value hValue, Value.fieldTokens]
      rfl
    · rename_i hValue
      rw [Option.map_eq_some_iff] at hRead
      rcases hRead with ⟨⟨others, last⟩, hOthers, hEq⟩
      cases hEq
      rcases hSound.fields hOthers with ⟨hSome, hRest⟩
      refine ⟨List.cons_ne_nil _ _, ?_⟩
      rw [hSound.value hValue, hRest,
        fieldTokens_cons _ _ hSome]
      simp
    · cases hRead
  · cases hRead

/- Whatever the bound, nothing else is read. -/
theorem sound (fuel : Nat) : Sound fuel := by
  induction fuel with
  | zero =>
      constructor
      case value =>
        intro _ _ _ hRead
        cases hRead
      case items =>
        intro _ _ _ hRead
        cases hRead
      case fields =>
        intro _ _ _ hRead
        cases hRead
  | succ fuel ih =>
      exact ⟨ih.value_succ, ih.items_succ, ih.fields_succ⟩

------------------------------------------------------------
-- What Stands There Is Read
------------------------------------------------------------

/-
  Readers with a bound find all that is not larger. Items
  and fields need one step more than they have tokens, for
  the end of the list or object.
-/
structure Complete (fuel : Nat) : Prop where
  value (v : Value) (rest : List Token)
      (hBound : v.tokens.length ≤ fuel) :
      readValue? fuel (v.tokens ++ rest) = some (v, rest)
  items (items : List Value) (rest : List Token)
      (hSome : items ≠ [])
      (hBound : (Value.itemTokens items).length < fuel) :
      readItems? fuel
          (Value.itemTokens items ++ .closeList :: rest) =
        some (items, rest)
  fields (fields : List (Text × Value)) (rest : List Token)
      (hSome : fields ≠ [])
      (hBound : (Value.fieldTokens fields).length < fuel) :
      readFields? fuel
          (Value.fieldTokens fields ++
            .closeObject :: rest) =
        some (fields, rest)

theorem Value.head?_tokens_ne
    (v : Value)
    (rest : List Token) :
    (v.tokens ++ rest).head? ≠ some .closeList := by
  intro hHead
  cases v <;> cases hHead

theorem head?_itemTokens_ne
    {items : List Value}
    (rest : List Token)
    (hSome : items ≠ []) :
    (Value.itemTokens items ++ rest).head? ≠
      some .closeList := by
  rcases items with _ | ⟨item, _ | ⟨next, others⟩⟩
  · exact absurd rfl hSome
  · rw [Value.itemTokens]
    exact item.head?_tokens_ne rest
  · rw [Value.itemTokens, List.append_assoc]
    exact item.head?_tokens_ne _

/- Fields do not start with the end of an object. -/
theorem head?_fieldTokens_ne
    {fields : List (Text × Value)}
    (rest : List Token)
    (hSome : fields ≠ []) :
    (Value.fieldTokens fields ++ rest).head? ≠
      some .closeObject := by
  intro hHead
  rcases fields with _ | ⟨⟨key, value⟩, _ | ⟨next, others⟩⟩
  · exact hSome rfl
  · cases hHead
  · cases hHead

/- A list that does not end at once is read by its items. -/
theorem readValue?_openList
    (fuel : Nat)
    {tokens : List Token}
    (hOpen : tokens.head? ≠ some .closeList) :
    readValue? (fuel + 1) (.openList :: tokens) =
      (readItems? fuel tokens).map
        fun (items, rest) => (.list items, rest) := by
  rw [readValue?]
  rintro rest rfl
  exact hOpen rfl

/- An object that does not end at once, by its fields. -/
theorem readValue?_openObject
    (fuel : Nat)
    {tokens : List Token}
    (hOpen : tokens.head? ≠ some .closeObject) :
    readValue? (fuel + 1) (.openObject :: tokens) =
      (readFields? fuel tokens).map
        fun (fields, rest) => (.object fields, rest) := by
  rw [readValue?]
  rintro rest rfl
  exact hOpen rfl

/- A value is read from its tokens. -/
theorem Complete.value_succ
    {fuel : Nat}
    (hComplete : Complete fuel)
    (v : Value)
    (rest : List Token)
    (hBound : v.tokens.length ≤ fuel + 1) :
    readValue? (fuel + 1) (v.tokens ++ rest) =
      some (v, rest) := by
  cases v with
  | list items =>
      rw [Value.tokens] at hBound ⊢
      by_cases hSome : items = []
      · subst hSome
        rfl
      · simp only [List.length_cons, List.length_append,
          List.length_nil] at hBound
        rw [List.cons_append, List.append_assoc,
          readValue?_openList fuel
            (head?_itemTokens_ne _ hSome),
          List.cons_append, List.nil_append,
          hComplete.items items rest hSome (by omega)]
        rfl
  | object fields =>
      rw [Value.tokens] at hBound ⊢
      by_cases hSome : fields = []
      · subst hSome
        rfl
      · simp only [List.length_cons, List.length_append,
          List.length_nil] at hBound
        rw [List.cons_append, List.append_assoc,
          readValue?_openObject fuel
            (head?_fieldTokens_ne _ hSome),
          List.cons_append, List.nil_append,
          hComplete.fields fields rest hSome (by omega)]
        rfl
  | _ => rfl

/- Items are read from theirs. -/
theorem Complete.items_succ
    {fuel : Nat}
    (hComplete : Complete fuel)
    (items : List Value)
    (rest : List Token)
    (hSome : items ≠ [])
    (hBound : (Value.itemTokens items).length < fuel + 1) :
    readItems? (fuel + 1)
        (Value.itemTokens items ++ .closeList :: rest) =
      some (items, rest) := by
  rcases items with _ | ⟨item, others⟩
  · exact absurd rfl hSome
  · by_cases hOthers : others = []
    · subst hOthers
      rw [Value.itemTokens] at hBound ⊢
      rw [readItems?, hComplete.value item _ (by omega)]
    · rw [itemTokens_cons item hOthers] at hBound ⊢
      simp only [List.length_cons, List.length_append]
        at hBound
      rw [List.append_assoc, List.cons_append, readItems?,
        hComplete.value item _ (by omega)]
      simp only
      rw [hComplete.items others rest hOthers (by omega)]
      rfl

/- Fields are read from theirs. -/
theorem Complete.fields_succ
    {fuel : Nat}
    (hComplete : Complete fuel)
    (fields : List (Text × Value))
    (rest : List Token)
    (hSome : fields ≠ [])
    (hBound :
      (Value.fieldTokens fields).length < fuel + 1) :
    readFields? (fuel + 1)
        (Value.fieldTokens fields ++ .closeObject :: rest) =
      some (fields, rest) := by
  rcases fields with _ | ⟨⟨key, value⟩, others⟩
  · exact absurd rfl hSome
  · by_cases hOthers : others = []
    · subst hOthers
      rw [Value.fieldTokens] at hBound ⊢
      simp only [List.length_cons] at hBound
      rw [List.cons_append, List.cons_append, readFields?]
      simp only
      rw [hComplete.value value _ (by omega)]
    · rw [fieldTokens_cons key value hOthers] at hBound ⊢
      simp only [List.length_cons, List.length_append]
        at hBound
      rw [List.cons_append, List.cons_append,
        List.append_assoc, List.cons_append, readFields?]
      simp only
      rw [hComplete.value value _ (by omega)]
      simp only
      rw [hComplete.fields others rest hOthers (by omega)]
      rfl

/- Whatever the bound, all within it is read. -/
theorem complete (fuel : Nat) : Complete fuel := by
  induction fuel with
  | zero =>
      constructor
      case value =>
        intro v rest hBound
        cases v <;> cases hBound
      case items =>
        intro items rest _ hBound
        exact absurd hBound (Nat.not_lt_zero _)
      case fields =>
        intro fields rest _ hBound
        exact absurd hBound (Nat.not_lt_zero _)
  | succ fuel ih =>
      exact ⟨ih.value_succ, ih.items_succ, ih.fields_succ⟩

------------------------------------------------------------
-- Documents
------------------------------------------------------------

/- Tokens are of the value that is read from them. -/
theorem Value.ofTokens?_eq_some_iff
    (tokens : List Token)
    (v : Value) :
    Value.ofTokens? tokens = some v ↔ tokens = v.tokens := by
  constructor
  · intro hRead
    unfold Value.ofTokens? at hRead
    split at hRead
    · rename_i hValue
      cases hRead
      have hTokens := (sound _).value hValue
      rwa [List.append_nil] at hTokens
    · cases hRead
  · rintro rfl
    have hValue :=
      (complete v.tokens.length).value v [] (Nat.le_refl _)
    rw [List.append_nil] at hValue
    unfold Value.ofTokens?
    rw [hValue]

/-
  Reading a text finds exactly the value of which it is a
  document.
-/
theorem Value.read?_eq_some_iff
    (t : Text)
    (v : Value) :
    Value.read? t = some v ↔ IsDocument v t := by
  unfold Value.read? IsDocument
  rw [Option.bind_eq_some_iff]
  constructor
  · rintro ⟨tokens, hTokens, hValue⟩
    rw [Value.ofTokens?_eq_some_iff] at hValue
    rw [← hValue]
    exact (readTokens?_eq_some_iff t tokens).mp hTokens
  · intro hSpaced
    exact
      ⟨v.tokens, (readTokens?_eq_some_iff t _).mpr hSpaced,
        (Value.ofTokens?_eq_some_iff _ v).mpr rfl⟩

/- No text is a document of two values. -/
theorem IsDocument.unique
    {v w : Value}
    {t : Text}
    (hV : IsDocument v t)
    (hW : IsDocument w t) :
    v = w := by
  rw [← Value.read?_eq_some_iff] at hV hW
  exact Option.some.inj (hV.symm.trans hW)

end Json

end PageHeat
