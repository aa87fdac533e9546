import PageHeat.Text.Basic

/-
  The terms of a filter expression.

  Terms stand between commas, with blanks around them. A
  term between slashes may hold commas and slashes: the
  slash that closes it is the first one that is followed,
  after blanks, by a comma or by the end of the expression.
  An exclamation mark may stand in front of any term.

  Key definitions include:
    * `EndsTerm`
    * `readBody`
    * `readTerm`
    * `splitTerms`
-/

------------------------------------------------------------
-- Text Lengths
------------------------------------------------------------

namespace PageHeat

theorem Text.length_trimStart_le (t : Text) :
    (Text.trimStart t).length ≤ t.length :=
  (List.dropWhile_suffix _).length_le

------------------------------------------------------------
-- One Term
------------------------------------------------------------

/- An expression that never closes a term between slashes. -/
structure Unterminated where
  term : Text
  deriving Repr, DecidableEq

/- A rest that may follow a term: nothing, or a comma. -/
def EndsTerm (rest : Text) : Prop :=
  match Text.trimStart rest with
  | [] => True
  | c :: _ => c = ','

instance (rest : Text) : Decidable (EndsTerm rest) := by
  unfold EndsTerm
  split <;> infer_instance

/-
  Read what stands between two slashes, behind the first of
  them, and what is behind the second.
-/
def readBody : Text → Option (Text × Text)
  | [] => none
  | c :: rest =>
      if c = '/' ∧ EndsTerm rest then
        some ([], rest)
      else
        (readBody rest).map
          fun (body, rest) => (c :: body, rest)

/- What an exclamation mark in front may be followed by. -/
def afterSign : Text → Text
  | '!' :: rest => Text.trimStart rest
  | t => t

/- The exclamation mark in front with its blanks, if any. -/
def signOf (t : Text) : Text :=
  t.take (t.length - (afterSign t).length)

/-
  Read a term, and what is behind it, from a text without
  blanks in front.
-/
def readTerm (t : Text) : Except Unterminated (Text × Text) :=
  match afterSign t with
  | '/' :: inside =>
      match readBody inside with
      | some (body, rest) =>
          .ok (signOf t ++ "/" ++ body ++ "/", rest)
      | none => .error ⟨Text.trim t⟩
  | _ =>
      .ok
        (Text.trim (t.takeWhile (· != ',')),
          t.dropWhile (· != ','))

------------------------------------------------------------
-- Lengths Of Rests
------------------------------------------------------------

/- The rest behind a body is shorter than the whole. -/
theorem readBody_length_lt
    {t body rest : Text}
    (h : readBody t = some (body, rest)) :
    rest.length < t.length := by
  induction t generalizing body with
  | nil => simp [readBody] at h
  | cons c t ih =>
      unfold readBody at h
      split at h
      · simp only [Option.some.injEq, Prod.mk.injEq] at h
        rw [← h.2, List.length_cons]
        exact Nat.lt_succ_self _
      · simp only [Option.map_eq_some_iff] at h
        obtain ⟨⟨b, r⟩, hRead, hEq⟩ := h
        simp only [Prod.mk.injEq] at hEq
        obtain ⟨_, rfl⟩ := hEq
        exact Nat.lt_succ_of_lt (ih hRead)

theorem afterSign_length_le (t : Text) :
    (afterSign t).length ≤ t.length := by
  unfold afterSign
  split
  · exact Nat.le_succ_of_le (Text.length_trimStart_le _)
  · exact Nat.le_refl _

/- The rest behind a term is no longer than the whole. -/
theorem readTerm_length_le
    {t term rest : Text}
    (h : readTerm t = .ok (term, rest)) :
    rest.length ≤ t.length := by
  unfold readTerm at h
  split at h
  · rename_i inside hInside
    split at h
    · rename_i body r hBody
      simp only [Except.ok.injEq, Prod.mk.injEq] at h
      obtain ⟨_, rfl⟩ := h
      have hLt := readBody_length_lt hBody
      have hLe := afterSign_length_le t
      rw [hInside, List.length_cons] at hLe
      omega
    · simp at h
  · simp only [Except.ok.injEq, Prod.mk.injEq] at h
    rw [← h.2]
    exact (List.dropWhile_suffix _).length_le

------------------------------------------------------------
-- All Terms
------------------------------------------------------------

/- The terms of an expression; empty ones are kept. -/
def splitTerms (t : Text) : Except Unterminated (List Text) :=
  match _hTerm : readTerm (Text.trimStart t) with
  | .error fault => .error fault
  | .ok (term, rest) =>
      match _hRest : Text.trimStart rest with
      | ',' :: next => (splitTerms next).map (term :: ·)
      | _ => .ok [term]
termination_by t.length
decreasing_by
  have hTermLe := readTerm_length_le _hTerm
  have hTextLe := Text.length_trimStart_le t
  have hRestLe := Text.length_trimStart_le rest
  rw [_hRest, List.length_cons] at hRestLe
  omega

end PageHeat
