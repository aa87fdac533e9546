import PageHeat.Proofs.Text.Utf8

/-
  Offsets into the encoding of a text.

  A text is cut at a number of octets. This fails beyond the
  end of the text, and inside the encoding of a character:
  the offsets at which a text can be cut are the sizes of
  its starts.

  Key definitions include:
    * `Text.size`
    * `Text.cutAt?`
    * `Text.between?`
    * `Text.offsetsOf`

  Key lemmas include:
    * `Text.cutAt?_eq_some_iff`
    * `Text.between?_append`
    * `Text.head?_offsetsOf`
-/

------------------------------------------------------------
-- Sizes
------------------------------------------------------------

namespace PageHeat

namespace Text

/- The number of octets of a text. -/
def size (t : Text) : Nat :=
  (Utf8.encode t).length

@[simp] theorem size_nil : size [] = 0 := rfl

@[simp] theorem size_cons
    (c : Char)
    (t : Text) :
    size (c :: t) = c.utf8Size + size t := by
  rw [size, Utf8.encode_cons, List.length_append,
    String.length_utf8EncodeChar, size]

@[simp] theorem size_append (t u : Text) :
    size (t ++ u) = size t + size u := by
  rw [size, Utf8.encode_append, List.length_append, size,
    size]

------------------------------------------------------------
-- Cuts
------------------------------------------------------------

/-
  The two parts of a text at an offset, if the offset is
  neither beyond the end nor inside a character.
-/
def cutAt? : Text → Nat → Option (Text × Text)
  | t, 0 => some ([], t)
  | [], _ + 1 => none
  | c :: t, n + 1 =>
      if c.utf8Size ≤ n + 1 then
        (cutAt? t (n + 1 - c.utf8Size)).map
          fun (front, behind) => (c :: front, behind)
      else
        none

/- What is between two offsets, if both are in order. -/
def between?
    (t : Text)
    (start stop : Nat) : Option Text :=
  if start ≤ stop then
    match cutAt? t stop with
    | some (front, _) => (cutAt? front start).map (·.2)
    | none => none
  else
    none

/- A text is cut behind the octets of its first part. -/
theorem cutAt?_append (t u : Text) :
    cutAt? (t ++ u) (size t) = some (t, u) := by
  induction t with
  | nil =>
      rw [List.nil_append, size_nil]
      unfold cutAt?
      rfl
  | cons c t ih =>
      have hPos := c.utf8Size_pos
      have hSize :
          c.utf8Size + size t =
            (c.utf8Size + size t - 1) + 1 := by
        omega
      have hRest :
          c.utf8Size + size t - 1 + 1 - c.utf8Size =
            size t := by
        omega
      rw [size_cons, List.cons_append, hSize, cutAt?,
        if_pos (by omega), hRest, ih]
      rfl

/- A cut gives the parts of the text at the offset. -/
theorem cutAt?_eq_some_iff
    (w : Text)
    (n : Nat)
    (t u : Text) :
    cutAt? w n = some (t, u) ↔ w = t ++ u ∧ size t = n := by
  constructor
  · intro hCut
    induction w generalizing n t with
    | nil =>
        cases n with
        | zero =>
            cases hCut
            exact ⟨rfl, rfl⟩
        | succ n => cases hCut
    | cons c w ih =>
        cases n with
        | zero =>
            cases hCut
            exact ⟨rfl, rfl⟩
        | succ n =>
            rw [cutAt?] at hCut
            split at hCut
            · rename_i hFits
              rw [Option.map_eq_some_iff] at hCut
              rcases hCut with ⟨⟨front, behind⟩, hNext, hEq⟩
              cases hEq
              rcases ih _ front hNext with ⟨rfl, hSize⟩
              refine ⟨rfl, ?_⟩
              rw [size_cons, hSize]
              omega
            · cases hCut
  · rintro ⟨rfl, rfl⟩
    exact cutAt?_append t u

/- What is between the first and the last part is read. -/
theorem between?_append (t u v : Text) :
    between? (t ++ u ++ v) (size t) (size (t ++ u)) =
      some u := by
  have hOrder : size t ≤ size (t ++ u) := by
    rw [size_append]
    exact Nat.le_add_right _ _
  rw [between?, if_pos hOrder, cutAt?_append]
  simp only [cutAt?_append, Option.map_some]

------------------------------------------------------------
-- Occurrences
------------------------------------------------------------

/-
  The offsets at which a character stands, if the text
  itself starts at a given one.
-/
def offsetsOf (c : Char) : Nat → Text → List Nat
  | _, [] => []
  | start, d :: t =>
      let later := offsetsOf c (start + d.utf8Size) t
      if d = c then start :: later else later

/- A character stands first behind all the others. -/
theorem head?_offsetsOf
    (c : Char)
    (start : Nat)
    (t : Text) :
    (offsetsOf c start t).head?.getD (start + size t) =
      start + size (t.takeWhile (· != c)) := by
  induction t generalizing start with
  | nil => rfl
  | cons d t ih =>
      unfold offsetsOf
      by_cases hEq : d = c
      · simp [hEq]
      · simp only [hEq, if_false, ne_eq, not_false_eq_true,
          bne_iff_ne, List.takeWhile_cons_of_pos, size_cons]
        rw [← Nat.add_assoc, ih, Nat.add_assoc]

end Text

end PageHeat
