import Mathlib.Data.List.Nodup
import PageHeat.Disk.Path
import PageHeat.Proofs.Text.Fields
import PageHeat.Proofs.Text.Lossy

/-
  Names, and the names on paths that were joined.

  What is shown for a name has a slash only if the name has
  one, so a file can be named by it.

  Joining a folder with a name adds the name to the names
  on the path of the folder. This holds whether the path of
  the folder is empty, ends in a slash or does neither.

  Key definitions include:
    * `Path.IsName`
    * `Path.IsProper`

  Key lemmas include:
    * `Path.encode_shown`
    * `Path.nodup_shown`
    * `Path.IsName.encode_shown`
    * `Path.steps_join`
    * `Path.isAbsolute_join`
    * `Path.isName_of_mem_names`
-/

------------------------------------------------------------
-- Names
------------------------------------------------------------

namespace PageHeat

namespace Path

/- A name that can stand between the slashes of a path. -/
def IsName (n : Name) : Prop :=
  n ≠ [] ∧ slash ∉ n

/- A name that an entry of a folder can have. -/
def IsProper (n : Name) : Prop :=
  IsName n ∧ n ≠ here ∧ n ≠ outward

instance (n : Name) : Decidable (IsName n) :=
  inferInstanceAs (Decidable (_ ∧ _))

instance (n : Name) : Decidable (IsProper n) :=
  inferInstanceAs (Decidable (_ ∧ _))

------------------------------------------------------------
-- Shown Names
------------------------------------------------------------

/- A path that is a text has the octets that are shown. -/
theorem encode_shown
    {p : Path}
    (hText : p.IsText) :
    Utf8.encode p.shown = p := by
  rcases Option.isSome_iff_exists.mp hText with ⟨t, hDecode⟩
  rw [shown, Utf8.lossy_of_decode hDecode,
    Utf8.encode_of_decode hDecode]

/- Names that are texts are shown differently. -/
theorem nodup_shown
    {names : List Name}
    (hNodup : names.Nodup)
    (hText : ∀ n ∈ names, Utf8.encode (shown n) = n) :
    (names.map shown).Nodup := by
  refine hNodup.map_on ?_
  intro m hM n hN hEq
  rw [← hText m hM, ← hText n hN, hEq]

/- A text without slash is a name. -/
theorem isName_encode
    {t : Text}
    (hSome : t ≠ [])
    (hNone : '/' ∉ t) :
    IsName (Utf8.encode t) := by
  refine ⟨?_, ?_⟩
  · rw [Ne, ← Utf8.encode_inj (u := [])] at hSome
    exact hSome
  · intro hMem
    exact hNone
      (Utf8.ofNat_mem_of_mem_encode (b := slash) (by decide)
        hMem)

/- What is shown for a name can be a name again. -/
theorem IsName.encode_shown
    {n : Name}
    (hName : IsName n) :
    IsName (Utf8.encode (shown n)) := by
  refine ⟨?_, ?_⟩
  · have hShown := Utf8.lossy_ne_nil hName.1
    rw [Ne, ← Utf8.encode_inj (u := [])] at hShown
    exact hShown
  · intro hMem
    exact hName.2
      (Utf8.mem_of_mem_encode_lossy (by decide) hMem)

/- A name whose text has no dot in front leads elsewhere. -/
theorem isProper_encode
    {t : Text}
    (hName : IsName (Utf8.encode t))
    (hDot : t.head? ≠ some '.') :
    IsProper (Utf8.encode t) := by
  have hHere : Utf8.encode ['.'] = here := rfl
  have hOutward : Utf8.encode ['.', '.'] = outward := rfl
  refine ⟨hName, ?_, ?_⟩
  · rw [← hHere, Ne, Utf8.encode_inj]
    rintro rfl
    exact hDot rfl
  · rw [← hOutward, Ne, Utf8.encode_inj]
    rintro rfl
    exact hDot rfl

------------------------------------------------------------
-- Names On Paths
------------------------------------------------------------

/- The names of a path can stand on it. -/
theorem isName_of_mem_names
    {p : Path}
    {n : Name}
    (hMem : n ∈ p.names) :
    IsName n := by
  rcases List.mem_filter.mp hMem with ⟨hPiece, hSome⟩
  refine ⟨?_, Text.notMem_of_mem_splitOn hPiece⟩
  rintro rfl
  cases hSome

theorem names_append_slash (p q : Path) :
    names (p ++ slash :: q) = p.names ++ q.names := by
  rw [names, Text.splitOn_append, List.filter_append]
  rfl

/- A name is the only name on its path. -/
theorem names_of_isName
    {n : Name}
    (hName : IsName n) :
    names n = [n] := by
  rw [names, Text.splitOn_of_notMem hName.2,
    List.filter_cons, if_pos]
  · rfl
  · simpa using hName.1

theorem names_append_end (p : Path) :
    names (p ++ [slash]) = p.names := by
  rw [names_append_slash]
  exact List.append_nil _

------------------------------------------------------------
-- Joining
------------------------------------------------------------

/- A name does not start with a slash. -/
theorem IsName.isAbsolute_eq
    {n : Name}
    (hName : IsName n) :
    isAbsolute n = false := by
  cases n with
  | nil => rfl
  | cons c n =>
      have hNe : c ≠ slash := fun hEq =>
        hName.2 (hEq ▸ List.mem_cons_self)
      simpa [isAbsolute] using hNe

theorem eq_append_of_endsInSlash
    {p : Path}
    (hSlash : p.endsInSlash = true) :
    ∃ q : Path, p = q ++ [slash] := by
  have hLast : p.getLast? = some slash := by
    simpa [endsInSlash] using hSlash
  exact List.getLast?_eq_some_iff.mp hLast

/- The ways to join a folder with a name. -/
theorem join_cases
    (folder : Path)
    {n : Name}
    (hName : IsName n) :
    (folder = [] ∧ folder.join n = n) ∨
      (∃ q : Path, folder = q ++ [slash] ∧
        folder.join n = q ++ slash :: n) ∨
      (folder ≠ [] ∧ folder.endsInSlash = false ∧
        folder.join n = folder ++ slash :: n) := by
  rw [join, hName.isAbsolute_eq]
  simp only [Bool.false_eq_true, if_false]
  cases folder with
  | nil => exact .inl ⟨rfl, rfl⟩
  | cons c rest =>
      cases hSlash : endsInSlash (c :: rest) with
      | true =>
          rcases eq_append_of_endsInSlash hSlash with
            ⟨q, hEq⟩
          refine .inr (.inl ⟨q, hEq, ?_⟩)
          rw [hEq]
          simp
      | false =>
          exact .inr (.inr ⟨List.cons_ne_nil _ _, rfl,
            by simp⟩)

/- Joining adds a name at the end. -/
theorem names_join
    (folder : Path)
    {n : Name}
    (hName : IsName n) :
    (folder.join n).names = folder.names ++ [n] := by
  rcases join_cases folder hName with
    ⟨rfl, hJoin⟩ | ⟨q, rfl, hJoin⟩ | ⟨-, -, hJoin⟩
  · rw [hJoin, names_of_isName hName]
    rfl
  · rw [hJoin, names_append_slash, names_append_end,
      names_of_isName hName]
  · rw [hJoin, names_append_slash, names_of_isName hName]

/- Different names in a folder have different paths. -/
theorem join_inj
    (folder : Path)
    {m n : Name}
    (hM : IsName m)
    (hN : IsName n) :
    folder.join m = folder.join n ↔ m = n := by
  constructor
  · intro hEq
    have hNames := congrArg names hEq
    rw [names_join folder hM, names_join folder hN] at hNames
    exact List.singleton_inj.mp (List.append_cancel_left hNames)
  · exact congrArg folder.join

/- A joined path does not end in a slash. -/
theorem endsInSlash_join
    (folder : Path)
    {n : Name}
    (hName : IsName n) :
    (folder.join n).endsInSlash = false := by
  have hLast (q : Path) :
      endsInSlash (q ++ n) = endsInSlash n := by
    rw [endsInSlash, endsInSlash, List.getLast?_append,
      List.getLast?_eq_some_getLast hName.1, Option.some_or]
  have hEnd : endsInSlash n = false := by
    rw [endsInSlash, beq_eq_false_iff_ne]
    intro hSlash
    exact hName.2 (List.mem_of_getLast? hSlash)
  rcases join_cases folder hName with
    ⟨rfl, hJoin⟩ | ⟨q, rfl, hJoin⟩ | ⟨-, -, hJoin⟩
  · rw [hJoin, hEnd]
  · rw [hJoin, ← List.singleton_append, ← List.append_assoc,
      hLast, hEnd]
  · rw [hJoin, ← List.singleton_append, ← List.append_assoc,
      hLast, hEnd]

theorem steps_join
    (folder : Path)
    {n : Name}
    (hName : IsName n) :
    (folder.join n).steps = folder.names ++ [n] := by
  rw [steps, endsInSlash_join folder hName,
    names_join folder hName]
  rfl

/- A joined path is absolute if its folder is. -/
theorem isAbsolute_join
    (folder : Path)
    {n : Name}
    (hName : IsName n) :
    (folder.join n).isAbsolute = folder.isAbsolute := by
  rcases join_cases folder hName with
    ⟨rfl, hJoin⟩ | ⟨q, rfl, hJoin⟩ | ⟨hSome, -, hJoin⟩
  · rw [hJoin, hName.isAbsolute_eq]
    rfl
  · rw [hJoin]
    cases q with
    | nil => rfl
    | cons c q => rfl
  · rw [hJoin]
    cases folder with
    | nil => exact absurd rfl hSome
    | cons c folder => rfl

end Path

end PageHeat
