import PageHeat.Proofs.Selection.Words
import PageHeat.Proofs.Text.Offsets

/-
  Splitting an expression by offsets.

  The terms of an expression are cut out of its encoding, at
  offsets that are computed from the texts that are left
  after trimming. None of these cuts fails, and they give
  the terms that splitting gives. So an expression is its
  terms, its commas and blanks, and a term that starts with
  a slash holds a body that can be cut out.

  Key definitions include:
    * `cutTerm?`
    * `cutTerms?`
    * `LooksLikeTerm`

  Key lemmas include:
    * `closingOffset?_offsetsOf`
    * `cutTerm?_eq`
    * `cutTerms?_eq`
    * `splitTerms_accounts_for_expression`
-/

------------------------------------------------------------
-- Cutting Terms
------------------------------------------------------------

namespace PageHeat

/-
  The first of some offsets behind which a term ends, unless
  the text cannot be cut there.
-/
def closingOffset?
    (t : Text) : List Nat → Option (Option Nat)
  | [] => some none
  | slash :: later =>
      match Text.cutAt? t (slash + 1) with
      | none => none
      | some (_, rest) =>
          if EndsTerm rest then
            some (some slash)
          else
            closingOffset? t later

/- Where a term ends whose slash is at an offset. -/
def slashedEnd?
    (t : Text)
    (start : Nat) : Option (Option Nat) :=
  match Text.cutAt? t (start + 1) with
  | none => none
  | some (_, inside) =>
      (closingOffset? t
        (Text.offsetsOf '/' (start + 1) inside)).map
          fun slash => slash.map (· + 1)

/- Where a term ends at the start of a text. -/
def termEnd? (t : Text) : Option (Option Nat) :=
  let behind := afterSign t
  if behind.head? = some '/' then
    slashedEnd? t (Text.size t - Text.size behind)
  else
    some (some
      ((Text.offsetsOf ',' 0 t).head?.getD (Text.size t)))

/- Read a term by cutting it out, if all cuts succeed. -/
def cutTerm?
    (t : Text) : Option (Except Unterminated (Text × Text)) :=
  match termEnd? t with
  | none => none
  | some none => some (.error ⟨Text.trim t⟩)
  | some (some stop) =>
      (Text.cutAt? t stop).map
        fun (term, behind) => .ok (Text.trim term, behind)

------------------------------------------------------------
-- Cuts That Succeed
------------------------------------------------------------

/- Slashes are tried until the one that closes a body. -/
theorem closingOffset?_offsetsOf
    (before inside : Text) :
    closingOffset? (before ++ inside)
        (Text.offsetsOf '/' (Text.size before) inside) =
      some ((readBody inside).map
        fun read => Text.size (before ++ read.1)) := by
  induction inside generalizing before with
  | nil => rfl
  | cons c inside ih =>
      have hNext := ih (before ++ [c])
      have hSize :
          Text.size (before ++ [c]) =
            Text.size before + c.utf8Size := by
        simp
      rw [List.append_assoc, List.singleton_append, hSize]
        at hNext
      unfold Text.offsetsOf readBody
      by_cases hSlash : c = '/'
      · subst hSlash
        have hCut :
            Text.cutAt? (before ++ '/' :: inside)
                (Text.size before + 1) =
              some (before ++ ['/'], inside) := by
          rw [Text.cutAt?_eq_some_iff]
          exact ⟨by simp, hSize⟩
        simp only [if_true, true_and, closingOffset?, hCut]
        by_cases hEnds : EndsTerm inside
        · simp [hEnds]
        · rw [if_neg hEnds, if_neg hEnds, hNext,
            Option.map_map]
          simp [Function.comp_def]
      · rw [if_neg hSlash, if_neg (by simp [hSlash]), hNext,
          Option.map_map]
        simp [Function.comp_def]

/- The end of a term between slashes is behind its body. -/
theorem termEnd?_of_slash
    {sign inside : Text}
    (hSign : IsSign sign) :
    termEnd? (sign ++ '/' :: inside) =
      some ((readBody inside).map fun read =>
        Text.size (sign ++ '/' :: (read.1 ++ ['/']))) := by
  have hAfter := afterSign_slash hSign inside
  have hSlash : '/'.utf8Size = 1 := by decide
  have hStart :
      Text.size (sign ++ '/' :: inside) -
          Text.size ('/' :: inside) =
        Text.size sign := by
    rw [Text.size_append]
    omega
  have hCut :
      Text.cutAt? (sign ++ '/' :: inside)
          (Text.size sign + 1) =
        some (sign ++ ['/'], inside) := by
    rw [Text.cutAt?_eq_some_iff]
    exact ⟨by simp, by simp [hSlash]⟩
  have hOffset := closingOffset?_offsetsOf (sign ++ ['/']) inside
  have hSize : Text.size (sign ++ ['/']) = Text.size sign + 1 := by
    simp [hSlash]
  rw [List.append_assoc, List.singleton_append, hSize]
    at hOffset
  unfold termEnd? slashedEnd?
  simp only [hAfter, List.head?_cons, if_true, hStart, hCut,
    hOffset, Option.map_some, Option.map_map]
  congr 2
  funext read
  simp [hSlash, Nat.add_assoc]

/- The end of any other term is the first comma. -/
theorem termEnd?_of_plain
    {t : Text}
    (hOpen : ¬ OpensSlash t) :
    termEnd? t =
      some (some (Text.size (t.takeWhile (· != ',')))) := by
  have hHead : (afterSign t).head? ≠ some '/' := by
    intro hSlash
    rcases List.head?_eq_some_iff.mp hSlash with
      ⟨inside, hInside⟩
    exact hOpen ((opensSlash_iff t).mpr ⟨inside, hInside⟩)
  have hComma := Text.head?_offsetsOf ',' 0 t
  rw [Nat.zero_add, Nat.zero_add] at hComma
  simp only [termEnd?, if_neg hHead, hComma]

/- Every cut for a term succeeds, and gives what is read. -/
theorem cutTerm?_eq (t : Text) :
    cutTerm? t = some (readTerm t) := by
  by_cases hOpen : OpensSlash t
  · rcases hOpen with ⟨sign, inside, hSign, rfl⟩
    rw [cutTerm?, termEnd?_of_slash hSign,
      readTerm_of_slash hSign]
    cases hRead : readBody inside with
    | none => rfl
    | some read =>
        rcases read with ⟨body, rest⟩
        rcases of_readBody hRead with ⟨rfl, -, -⟩
        have hCut := Text.cutAt?_append
          (sign ++ '/' :: (body ++ ['/'])) rest
        simp only [List.append_assoc, List.cons_append,
          List.nil_append] at hCut
        simp only [Option.map_some, hCut,
          (isTrimmed_slashed hSign).trim_eq]
  · have hSplit := List.takeWhile_append_dropWhile
      (p := (· != ',')) (l := t)
    have hCut := Text.cutAt?_append
      (t.takeWhile (· != ',')) (t.dropWhile (· != ','))
    rw [hSplit] at hCut
    rw [cutTerm?, termEnd?_of_plain hOpen,
      readTerm_of_plain hOpen]
    simp only [hCut, Option.map_some]

theorem cutTerm?_length_le
    {t term behind : Text}
    (hCut : cutTerm? t = some (.ok (term, behind))) :
    behind.length ≤ t.length := by
  rw [cutTerm?_eq] at hCut
  exact readTerm_length_le (Option.some.inj hCut)

/- Split an expression by cutting, if all cuts succeed. -/
def cutTerms?
    (t : Text) : Option (Except Unterminated (List Text)) :=
  match _hTerm : cutTerm? (Text.trimStart t) with
  | none => none
  | some (.error fault) => some (.error fault)
  | some (.ok (term, behind)) =>
      match _hBehind : Text.trimStart behind with
      | ',' :: next =>
          (cutTerms? next).map
            fun terms => terms.map (term :: ·)
      | _ => some (.ok [term])
termination_by t.length
decreasing_by
  have hTermLe := cutTerm?_length_le _hTerm
  have hTextLe := Text.length_trimStart_le t
  have hBehindLe := Text.length_trimStart_le behind
  rw [_hBehind, List.length_cons] at hBehindLe
  omega

/- Every cut succeeds, and the terms are those of splitting. -/
theorem cutTerms?_eq (t : Text) :
    cutTerms? t = some (splitTerms t) := by
  have hCut := cutTerm?_eq (Text.trimStart t)
  rw [cutTerms?]
  split
  · rename_i hTerm
    cases hTerm.symm.trans hCut
  · rename_i fault hTerm
    have hRead := Option.some.inj (hCut.symm.trans hTerm)
    rw [splitTerms_of_error hRead]
  · rename_i term behind hTerm
    have hRead := Option.some.inj (hCut.symm.trans hTerm)
    split
    · rename_i next hBehind
      have hShorter : next.length < t.length := by
        have hTermLe := cutTerm?_length_le hTerm
        have hTextLe := Text.length_trimStart_le t
        have hBehindLe := Text.length_trimStart_le behind
        rw [hBehind, List.length_cons] at hBehindLe
        omega
      rw [cutTerms?_eq next, splitTerms_of_comma hRead hBehind]
      rfl
    · rename_i hNoComma
      have hRest :=
        (isTerm_of_readTerm (Text.trimStart_trimStart t)
          hRead).2.2
      cases hBehind : Text.trimStart behind with
      | nil => rw [splitTerms_of_nil hRead hBehind]
      | cons c next =>
          rw [hBehind] at hRest
          cases hRest
          exact absurd hBehind (hNoComma next)
termination_by t.length

------------------------------------------------------------
-- Cutting Bodies
------------------------------------------------------------

/-
  The body of a word that a slash opens is what is between
  its first octet and its last.
-/
def bodyOf? (word : Text) : Option Text :=
  Text.between? word 1 (Text.size word - 1)

/- The body between two slashes can be cut out. -/
theorem bodyOf?_slashed (body : Text) :
    bodyOf? ('/' :: (body ++ ['/'])) = some body := by
  have hSlash : '/'.utf8Size = 1 := by decide
  have hBetween := Text.between?_append ['/'] body ['/']
  have hStart : Text.size ['/'] = 1 := by simp [hSlash]
  have hStop :
      Text.size ('/' :: (body ++ ['/'])) - 1 =
        Text.size (['/'] ++ body) := by
    simp [hSlash]
    omega
  rw [hStart, ← hStop] at hBetween
  exact hBetween

------------------------------------------------------------
-- Accounts Of Expressions
------------------------------------------------------------

/-
  A trimmed text that is free of commas, or that starts and
  ends with a slash, perhaps with a sign.
-/
def LooksLikeTerm (t : Text) : Prop :=
  t.IsTrimmed ∧
    (',' ∉ t ∨
      ∃ sign body, IsSign sign ∧
        t = sign ++ '/' :: (body ++ ['/']))

theorem IsTerm.looksLikeTerm
    {t : Text}
    (hTerm : IsTerm t) :
    LooksLikeTerm t := by
  refine ⟨hTerm.isTrimmed, ?_⟩
  cases hTerm with
  | plain hTrimmed hComma hOpen => exact .inl hComma
  | slashed hSign hBody => exact .inr ⟨_, _, hSign, rfl⟩

/-
  An expression is split by cuts that all succeed. If it is
  split, it is its terms with commas between them and blanks
  around them. It is not split exactly if an unclosed text
  is left behind some terms. If it is split, every word that
  a slash opens has a body that can be cut out, and nothing
  else can be unterminated.
-/
theorem splitTerms_accounts_for_expression (t : Text) :
    cutTerms? t = some (splitTerms t) ∧
      (∀ terms, splitTerms t = .ok terms →
        Spells LooksLikeTerm terms t) ∧
      ((∃ fault, splitTerms t = .error fault) ↔
        ∃ terms rest, Leads IsTerm terms rest t ∧
          IsStuck rest) ∧
      ∀ terms, splitTerms t = .ok terms →
        (∀ term ∈ terms,
          (wordOf term).head? = some '/' →
            ∃ body, wordOf term = '/' :: (body ++ ['/']) ∧
              bodyOf? (wordOf term) = some body) ∧
        ∀ (α : Type) (engine : PatternEngine α) term,
          Selection.read engine t ≠
            .error (.unterminated term) := by
  refine ⟨cutTerms?_eq t, ?_, ?_, ?_⟩
  · intro terms hSplit
    have hSpells := (splitTerms_eq_ok_iff t terms).mp hSplit
    exact hSpells.imp fun _ hTerm => hTerm.looksLikeTerm
  · constructor
    · rintro ⟨fault, hError⟩
      rcases (splitTerms_eq_error_iff t fault).mp hError with
        ⟨terms, rest, hLeads, hStuck, -⟩
      exact ⟨terms, rest, hLeads, hStuck⟩
    · rintro ⟨terms, rest, hLeads, hStuck⟩
      exact ⟨_, (splitTerms_eq_error_iff t _).mpr
        ⟨terms, rest, hLeads, hStuck, rfl⟩⟩
  · intro terms hSplit
    constructor
    · intro term hMem hHead
      have hSpells := (splitTerms_eq_ok_iff t terms).mp hSplit
      rcases List.head?_eq_some_iff.mp hHead with
        ⟨inside, hWord⟩
      rcases isSlashed_of_isTerm
          (hSpells.forall_mem term hMem) hWord with
        ⟨body, hBody⟩
      refine ⟨body, hBody, ?_⟩
      rw [hBody]
      exact bodyOf?_slashed body
    · intro α engine term
      exact read_ne_unterminated engine hSplit term

/-
  That a text only looks like a term does not make it one: a
  comma behind an open slash is part of the body that a
  later slash closes.
-/
theorem stuck_behind_open_slash :
    ¬ ((∃ fault, splitTerms ['/', 'a', ',', '/'] =
          .error fault) ↔
        ∃ terms rest,
          Leads LooksLikeTerm terms rest ['/', 'a', ',', '/'] ∧
            IsStuck rest) := by
  intro hIff
  have hSplit :
      splitTerms ['/', 'a', ',', '/'] =
        .ok [['/', 'a', ',', '/']] := by
    have hBody : ¬ BreaksOff ['a', ','] := by
      rintro ⟨before, gap, after, -, hEq⟩
      have hSlash : '/' ∈ ['a', ','] := by
        rw [hEq]
        simp
      revert hSlash
      decide
    exact @splitTerms_single [] _ [] rfl
      (@IsTerm.slashed [] _ (.inl rfl) hBody) rfl
  have hLeads :
      Leads LooksLikeTerm [['/', 'a']] ['/']
        ['/', 'a', ',', '/'] := by
    have hTerm : LooksLikeTerm ['/', 'a'] := by
      refine ⟨⟨?_, ?_⟩, .inl (by decide)⟩
      · intro c hHead
        cases hHead
        decide
      · intro c hLast
        cases hLast
        decide
    exact @Leads.term _ [] _ [] _ _ _ rfl hTerm rfl (.done _)
  have hStuck : IsStuck ['/'] := by
    refine ⟨[], ['/'], rfl, ⟨[], [], .inl rfl, rfl, ?_⟩, rfl⟩
    rw [← readBody_eq_none_iff]
    rfl
  rcases hIff.mpr ⟨_, _, hLeads, hStuck⟩ with ⟨fault, hError⟩
  cases hSplit.symm.trans hError

end PageHeat
