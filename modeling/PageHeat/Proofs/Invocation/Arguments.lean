import PageHeat.Proofs.Invocation.Overriding
import PageHeat.Proofs.Invocation.Spelling

/-
  Command lines in any order.

  A command line says where the benchmarks are and gives
  each chosen option once, in any order and in any spelling.
  Between two of these parts, looking at what is pending
  gives exactly what was said so far; so in the end the
  command line is read as the invocation it was written for.

  Key definitions include:
    * `Subject`
    * `Invocation.IsAdmissible`
    * `Invocation.Says`
    * `Invocation.Writes`
    * `Invocation.soFar`

  Key lemmas include:
    * `Invocation.exists_take_part`
    * `Invocation.exists_foldlM_take`
    * `Invocation.read_of_writes`
    * `Invocation.exists_writes`
    * `Invocation.read_written_and_override`
-/

------------------------------------------------------------
-- Command Lines
------------------------------------------------------------

namespace PageHeat

/- What a part of a command line is about. -/
inductive Subject where
  | root
  | option (o : OptionName)
  deriving Repr, DecidableEq

/- Everything that a command line can be about. -/
def Subject.all : List Subject :=
  .root :: OptionName.all.map .option

theorem Subject.mem_all (s : Subject) : s ∈ all := by
  cases s with
  | root => decide
  | option o => cases o <;> decide

namespace Invocation

/-
  An invocation that can be written: no path is empty, and
  that of the benchmarks does not look like an option.
-/
structure IsAdmissible (i : Invocation) : Prop where
  root_some : i.root ≠ []
  root_plain : i.root.head? ≠ some '-'
  paths : HasPaths i.choices

/- The arguments that say a part of an invocation. -/
inductive Says (i : Invocation) :
    Subject → List Text → Prop
  | root : Says i .root [i.root]
  | debug
      (hDebug : i.choices.debug = true) :
      Says i (.option .debug)
        ['-' :: '-' :: OptionName.debug.long]
  | option
      {o : OptionName}
      {value : Text}
      {arguments : List Text}
      (hGives : i.choices.Gives o value)
      (hSpells : o.Spells value arguments) :
      Says i (.option o) arguments

/-
  A command line made of parts, each with its arguments:
  everything that there is to say, once, in any order.
-/
structure Writes
    (i : Invocation)
    (parts : List (Subject × List Text))
    (arguments : List Text) : Prop where
  nodup : (parts.map Prod.fst).Nodup
  complete :
    ∀ s, s ∈ parts.map Prod.fst ↔ ∃ chunk, i.Says s chunk
  said : ∀ part ∈ parts, i.Says part.1 part.2
  arguments_eq : arguments = parts.flatMap Prod.snd

variable {i : Invocation}
variable {said : List Subject}

/- Whatever can be said can be said in some order. -/
theorem exists_writes (i : Invocation) :
    ∃ parts arguments, i.Writes parts arguments := by
  classical
  let chunkOf (s : Subject) : List Text :=
    if h : ∃ chunk, i.Says s chunk then h.choose else []
  have hSays (s : Subject)
      (h : ∃ chunk, i.Says s chunk) :
      i.Says s (chunkOf s) := by
    have hEq : chunkOf s = h.choose := dif_pos h
    rw [hEq]
    exact h.choose_spec
  let subjects :=
    Subject.all.filter fun s =>
      decide (∃ chunk, i.Says s chunk)
  have hMem (s : Subject) :
      s ∈ subjects ↔ ∃ chunk, i.Says s chunk := by
    rw [List.mem_filter, decide_eq_true_iff]
    exact and_iff_right s.mem_all
  have hSubjects :
      (subjects.map fun s => (s, chunkOf s)).map Prod.fst =
        subjects := by
    rw [List.map_map]
    exact List.map_id _
  refine
    ⟨subjects.map fun s => (s, chunkOf s), _,
      ?_, ?_, ?_, rfl⟩
  · rw [hSubjects]
    have hAll : Subject.all.Nodup := by decide
    exact hAll.filter _
  · intro s
    rw [hSubjects]
    exact hMem s
  · intro part hPart
    rcases List.mem_map.mp hPart with ⟨s, hIn, rfl⟩
    exact hSays s ((hMem s).mp hIn)

------------------------------------------------------------
-- What Was Said So Far
------------------------------------------------------------

/- A reader that knows what was said, and nothing more. -/
def soFar
    (i : Invocation)
    (said : List Subject) : Progress where
  root := if .root ∈ said then some i.root else none
  choices :=
    i.choices.only fun o => decide (.option o ∈ said)
  hasRoot := decide (.root ∈ said)

theorem soFar_root (i : Invocation) (said : List Subject) :
    i.soFar (.root :: said) =
      { i.soFar said with
        root := some i.root, hasRoot := true } := by
  simp [soFar]

/- An option was said as well. -/
theorem soFar_option
    (i : Invocation)
    (said : List Subject)
    (o : OptionName) :
    i.soFar (.option o :: said) =
      { i.soFar said with
        choices :=
          i.choices.only
            (OptionName.oneMore
              (fun o => decide (.option o ∈ said)) o) } := by
  have hMore :
      (fun other => decide
        (Subject.option other ∈ .option o :: said)) =
      OptionName.oneMore
        (fun o => decide (.option o ∈ said)) o := by
    funext other
    simp [OptionName.oneMore, Bool.or_comm]
  simp [soFar, ← hMore]

namespace Progress

variable {q r : Progress}

/- Looking at what is pending leaves all else alone. -/
theorem settle_eq_ok
    (hSettle : q.settle = .ok r) :
    q.plain = r.plain ∧ q.hasRoot = r.hasRoot ∧
      ∀ o, q.pending ≠ .option o none := by
  unfold settle at hSettle
  split at hSettle
  · rename_i hPending
    cases hSettle
    simp [hPending]
  · rename_i value hPending
    cases hPath : readPath "<ROOT>" value with
    | error stop =>
        rw [hPath] at hSettle
        cases hSettle
    | ok path =>
        rw [hPath] at hSettle
        cases hSettle
        simp [hPending]
  · rename_i o value hPending
    unfold accept at hSettle
    cases value with
    | none => cases hSettle
    | some value =>
        dsimp only at hSettle
        split at hSettle
        · cases hSettle
        · cases hValue : setValue q.choices o value with
          | error stop =>
              rw [hValue] at hSettle
              cases hSettle
          | ok choices =>
              rw [hValue] at hSettle
              cases hSettle
              simp [hPending]

end Progress

/- An option that was not said is accepted with its value. -/
theorem accept_soFar
    {o : OptionName}
    {value : Text}
    (hNew : .option o ∉ said)
    (hSet :
      ∀ p, setValue (i.choices.only p) o value =
        .ok (i.choices.only (OptionName.oneMore p o))) :
    (i.soFar said).accept o (some value) =
      .ok (i.soFar (.option o :: said)) := by
  have hFree :
      isGiven (i.soFar said).choices o = false :=
    isGiven_only i.choices (decide_eq_false hNew)
  have hValue :
      setValue (i.soFar said).choices o value = .ok _ :=
    hSet _
  simp only [Progress.accept, hFree, Bool.false_eq_true,
    if_false, hValue, Except.map, soFar_option]

------------------------------------------------------------
-- One Part
------------------------------------------------------------

variable {q : Progress}

/- The path of the benchmarks, in front of a part or behind. -/
theorem exists_take_root
    (hAdmissible : i.IsAdmissible)
    (hSettle : q.settle = .ok (i.soFar said))
    (hNew : .root ∉ said) :
    ∃ r, q.take i.root = .ok r ∧
      r.settle = .ok (i.soFar (.root :: said)) := by
  rcases Progress.settle_eq_ok hSettle with
    ⟨hPlain, hHasRoot, hPending⟩
  have hNoRoot : q.hasRoot = false := by
    rw [hHasRoot]
    exact decide_eq_false hNew
  have hTake :
      q.take i.root =
        .ok
          { i.soFar said with
            pending := .root i.root, hasRoot := true } := by
    rw [Progress.take_value hPlain hAdmissible.root_plain]
    unfold Progress.takeValue
    split
    · rename_i o hOpen
      exact absurd hOpen (hPending o)
    · simp only [Progress.takeRoot, hNoRoot,
        Bool.false_eq_true, if_false, hSettle]
      rfl
  refine ⟨_, hTake, ?_⟩
  simp only [Progress.settle,
    readPath_of_ne_nil "<ROOT>" hAdmissible.root_some,
    Except.map, soFar_root]
  rfl

/- The switch for more messages. -/
theorem exists_take_debug
    (hDebug : i.choices.debug = true)
    (hSettle : q.settle = .ok (i.soFar said))
    (hNew : .option .debug ∉ said) :
    ∃ r,
      q.take ('-' :: '-' :: OptionName.debug.long) = .ok r ∧
      r.settle = .ok (i.soFar (.option .debug :: said)) := by
  rcases Progress.settle_eq_ok hSettle with ⟨hPlain, -, -⟩
  have hAccept :
      (i.soFar said).accept .debug (some []) =
        .ok (i.soFar (.option .debug :: said)) := by
    apply accept_soFar hNew
    intro p
    simp [setValue, Choices.only, OptionName.oneMore, hDebug]
  refine ⟨i.soFar (.option .debug :: said), ?_, rfl⟩
  rw [Progress.take_long hPlain]
  have hSwitch :
      q.takeOption .debug none = q.takeSwitch .debug true :=
    rfl
  rw [hSwitch, Progress.takeSwitch, hSettle]
  exact hAccept

/- An option whose value is attached to it. -/
theorem takeOption_attached
    {o : OptionName}
    {value : Text}
    (hTakes : o.takesValue = true)
    (hSettle : q.settle = .ok (i.soFar said))
    (hAccept :
      (i.soFar said).accept o (some value) =
        .ok (i.soFar (.option o :: said))) :
    q.takeOption o (some value) =
      .ok (i.soFar (.option o :: said)) := by
  simp only [Progress.takeOption, hTakes, hSettle]
  exact hAccept

/- An option whose value is the next argument. -/
theorem exists_takeOption_apart
    {o : OptionName}
    {value : Text}
    (hTakes : o.takesValue = true)
    (hDash : value.head? ≠ some '-')
    (hSettle : q.settle = .ok (i.soFar said))
    (hAccept :
      (i.soFar said).accept o (some value) =
        .ok (i.soFar (.option o :: said))) :
    ∃ r u,
      q.takeOption o none = .ok r ∧
      r.take value = .ok u ∧
      u.settle = .ok (i.soFar (.option o :: said)) := by
  -- the option waits for its value, then the value waits to
  -- be looked at; the next part does that
  let r := { i.soFar said with pending := .option o none }
  let u :=
    { i.soFar said with pending := .option o (some value) }
  have hOption : q.takeOption o none = .ok r := by
    simp only [Progress.takeOption, hTakes, hSettle]
    rfl
  have hValue : r.take value = .ok u := by
    rw [Progress.take_value rfl hDash]
    rfl
  exact ⟨r, u, hOption, hValue, hAccept⟩

/- Two arguments are taken one after the other. -/
theorem foldlM_pair
    {r u : Progress}
    {first second : Text}
    (hFirst : q.take first = .ok r)
    (hSecond : r.take second = .ok u) :
    [first, second].foldlM Progress.take q = .ok u := by
  simp only [List.foldlM_cons, List.foldlM_nil, hFirst,
    hSecond, bind, Except.bind, pure, Except.pure]

/- Any part of a command line that was not said before. -/
theorem exists_take_part
    (hAdmissible : i.IsAdmissible)
    {s : Subject}
    {chunk : List Text}
    (hSays : i.Says s chunk)
    (hNew : s ∉ said)
    (hSettle : q.settle = .ok (i.soFar said)) :
    ∃ r, chunk.foldlM Progress.take q = .ok r ∧
      r.settle = .ok (i.soFar (s :: said)) := by
  rcases Progress.settle_eq_ok hSettle with ⟨hPlain, -, -⟩
  cases hSays with
  | root =>
      rcases exists_take_root hAdmissible hSettle hNew with
        ⟨r, hTake, hNext⟩
      exact ⟨r, by simpa using hTake, hNext⟩
  | debug hDebug =>
      rcases exists_take_debug hDebug hSettle hNew with
        ⟨r, hTake, hNext⟩
      exact ⟨r, by simpa using hTake, hNext⟩
  | @option o value _ hGives hSpells =>
      have hTakes := hGives.takesValue
      have hAccept :
          (i.soFar said).accept o (some value) =
            .ok (i.soFar (.option o :: said)) :=
        accept_soFar hNew fun _ =>
          setValue_only hAdmissible.paths hGives
      have hAttached :=
        takeOption_attached hTakes hSettle hAccept
      cases hSpells with
      | attached =>
          rw [← Progress.take_attached hPlain] at hAttached
          exact ⟨_, by simpa using hAttached, rfl⟩
      | letterAttached hLetter hSome hEquals =>
          rw [← Progress.attachedTo_of_head hSome hEquals,
            ← Progress.take_letter hPlain hTakes hLetter]
            at hAttached
          exact ⟨_, by simpa using hAttached, rfl⟩
      | apart hDash =>
          rcases exists_takeOption_apart hTakes hDash hSettle
              hAccept with
            ⟨r, u, hOption, hValue, hNext⟩
          rw [← Progress.take_long hPlain] at hOption
          exact ⟨u, foldlM_pair hOption hValue, hNext⟩
      | letter hLetter hDash =>
          rcases exists_takeOption_apart hTakes hDash hSettle
              hAccept with
            ⟨r, u, hOption, hValue, hNext⟩
          have hBare : Progress.attachedTo [] = none := rfl
          rw [← hBare,
            ← Progress.take_letter hPlain hTakes hLetter]
            at hOption
          exact ⟨u, foldlM_pair hOption hValue, hNext⟩

------------------------------------------------------------
-- All Parts
------------------------------------------------------------

/-
  Parts that are about different things, none of which was
  said before, are taken one after the other.
-/
theorem exists_foldlM_take
    (hAdmissible : i.IsAdmissible)
    {parts : List (Subject × List Text)}
    (hSays : ∀ part ∈ parts, i.Says part.1 part.2)
    (hNodup : (parts.map Prod.fst).Nodup)
    (hNew : ∀ part ∈ parts, part.1 ∉ said)
    (hSettle : q.settle = .ok (i.soFar said)) :
    ∃ r,
      (parts.flatMap Prod.snd).foldlM Progress.take q =
        .ok r ∧
      r.settle =
        .ok
          (i.soFar ((parts.map Prod.fst).reverse ++ said)) := by
  induction parts generalizing q said with
  | nil => exact ⟨q, rfl, hSettle⟩
  | cons part parts ih =>
      rcases part with ⟨s, chunk⟩
      rw [List.map_cons, List.nodup_cons] at hNodup
      have hFirst : i.Says s chunk :=
        hSays _ List.mem_cons_self
      have hFresh : s ∉ said := hNew _ List.mem_cons_self
      rcases exists_take_part hAdmissible hFirst hFresh
          hSettle with
        ⟨r, hTake, hNext⟩
      have hRest :
          ∀ part ∈ parts, part.1 ∉ s :: said := by
        intro part hPart
        rw [List.mem_cons, not_or]
        refine ⟨?_, hNew _ (List.mem_cons_of_mem _ hPart)⟩
        intro hEq
        have hIn := List.mem_map_of_mem (f := Prod.fst) hPart
        rw [hEq] at hIn
        exact hNodup.1 hIn
      rcases ih
          (fun part hPart =>
            hSays part (List.mem_cons_of_mem _ hPart))
          hNodup.2 hRest hNext with
        ⟨u, hParts, hEnd⟩
      refine ⟨u, ?_, ?_⟩
      · rw [List.flatMap_cons, List.foldlM_append, hTake]
        exact hParts
      · rw [hEnd, List.map_cons, List.reverse_cons,
          List.append_assoc]
        rfl

/- If every chosen option was said, nothing is missing. -/
theorem only_eq_self
    {c : Choices}
    {p : OptionName → Bool}
    (hDebug : c.debug = true → p .debug = true)
    (hAll : ∀ o value, c.Gives o value → p o = true) :
    c.only p = c := by
  have hField
      {α : Type}
      (o : OptionName)
      (field : Option α)
      (hSaid : ∀ v, field = some v → p o = true) :
      (if p o then field else none) = field := by
    cases field with
    | none => split <;> rfl
    | some v => rw [if_pos (hSaid v rfl)]
  have hNumeral (n : Nat) :
      Decimal.IsNumeral (Decimal.text n) n :=
    .inl (Decimal.isDigits_text n)
  rcases c with ⟨⟩
  simp only [Choices.only, Choices.mk.injEq]
  refine
    ⟨hField _ _ fun _ h => hAll _ _ (.filter h),
      hField _ _ fun _ h => hAll _ _ (.outputDir h),
      hField _ _ fun _ h => hAll _ _ (.baseline h),
      hField _ _ fun _ h =>
        hAll _ _ (.checkpoints h (hNumeral _)),
      hField _ _ fun _ h => hAll _ _ (.step h (hNumeral _)),
      hField _ _ fun _ h => hAll _ _ (.missing h),
      hField _ _ fun _ h => hAll _ _ (.format h),
      hField _ _ fun _ h => hAll _ _ (.jobs h (hNumeral _)),
      hField _ _ fun _ h => hAll _ _ (.config h),
      hField _ _ fun _ h => hAll _ _ (.reportJson h), ?_⟩
  rw [Bool.and_eq_right_iff_imp]
  exact hDebug

/- When everything was said, the invocation is known. -/
theorem soFar_of_complete
    (hSaid : ∀ s chunk, i.Says s chunk → s ∈ said) :
    (i.soFar said).root = some i.root ∧
      (i.soFar said).choices = i.choices := by
  constructor
  · exact if_pos (hSaid _ _ .root)
  · exact
      only_eq_self
        (fun hDebug =>
          decide_eq_true (hSaid _ _ (.debug hDebug)))
        (fun _ _ hGives =>
          decide_eq_true
            (hSaid _ _ (.option hGives .attached)))

/- A command line is read as what it was written for. -/
theorem read_of_writes
    (hAdmissible : i.IsAdmissible)
    {parts : List (Subject × List Text)}
    {arguments : List Text}
    (hWrites : i.Writes parts arguments) :
    read arguments = .ok i := by
  have hStart :
      ({ } : Progress).settle = .ok (i.soFar []) :=
    rfl
  rcases exists_foldlM_take hAdmissible hWrites.said
      hWrites.nodup (fun _ _ => List.not_mem_nil) hStart with
    ⟨r, hFold, hSettle⟩
  rw [← hWrites.arguments_eq] at hFold
  have hSaid :
      ∀ s chunk, i.Says s chunk →
        s ∈ (parts.map Prod.fst).reverse ++ [] := by
    intro s chunk hSays
    rw [List.append_nil, List.mem_reverse]
    exact (hWrites.complete s).mpr ⟨chunk, hSays⟩
  rcases soFar_of_complete hSaid with ⟨hRoot, hChoices⟩
  have hFinish : r.finish = .ok i := by
    rw [Progress.finish, hSettle]
    simp only [bind, Except.bind, hRoot, hChoices]
  rw [read, hFold]
  exact hFinish

------------------------------------------------------------
-- Reading And Overriding
------------------------------------------------------------

/-
  A command line that gives the path of the benchmarks and
  every chosen option once, in any order and spelling, is
  read as the invocation it was written for; and there is
  such a command line for every admissible invocation. The
  options replace just the settings they choose. Applied
  once more they change nothing, and the options of two
  invocations that choose no setting both can be applied in
  either order.
-/
theorem read_written_and_override :
    (∀ (i : Invocation) parts arguments,
      i.IsAdmissible →
      i.Writes parts arguments →
      read arguments = .ok i) ∧
    (∀ i : Invocation,
      ∃ parts arguments, i.Writes parts arguments) ∧
    ∀ (c : Choices) (s : Settings),
      (∀ r, c.Overrides s r ↔ r = c.applyTo s) ∧
      c.applyTo (c.applyTo s) = c.applyTo s ∧
      ∀ d, c.Apart d →
        c.applyTo (d.applyTo s) = d.applyTo (c.applyTo s) := by
  refine ⟨?_, exists_writes, ?_⟩
  · intro i parts arguments hAdmissible hWrites
    exact read_of_writes hAdmissible hWrites
  · intro c s
    exact
      ⟨fun _ => Choices.overrides_iff,
        Choices.applyTo_applyTo c s,
        fun _ hApart => Choices.applyTo_comm hApart s⟩

/- An invocation with options of every kind of value. -/
def sampleInvocation : Invocation where
  root := "runs"
  choices :=
    { filter := some "-a,b=c"
      outputDir := some "out"
      checkpoints := some 10
      missing := some .zero
      jobs := some 4
      debug := true }

/- A command line for it, with the path in the middle. -/
def sampleParts : List (Subject × List Text) :=
  [ (.option .jobs, ["-j", "4"]),
    (.option .filter, ["--filter=-a,b=c"]),
    (.root, ["runs"]),
    (.option .checkpoints, ["--checkpoints", "+010"]),
    (.option .debug, ["--debug"]),
    (.option .outputDir, ["-oout"]),
    (.option .missing, ["--missing", "zero"]) ]

/- Each part says what it is about. -/
theorem says_sampleParts :
    ∀ part ∈ sampleParts,
      sampleInvocation.Says part.1 part.2 := by
  have hFour : Decimal.IsNumeral "4" 4 :=
    .inl (Decimal.isDigits_text 4)
  have hTen : Decimal.IsNumeral "+010" 10 :=
    .inr ⟨"010", rfl, (Decimal.isDigits_text 10).zeros 1⟩
  simp only [sampleParts, List.forall_mem_cons]
  refine ⟨?_, ?_, ?_, ?_, ?_, ?_, ?_, ?_⟩
  · exact
      .option (.jobs rfl hFour) (.letter rfl (by decide))
  · exact .option (.filter rfl) .attached
  · exact .root
  · exact
      .option (.checkpoints rfl hTen) (.apart (by decide))
  · exact .debug rfl
  · exact
      .option (.outputDir rfl)
        (.letterAttached rfl (by decide) (by decide))
  · exact
      .option (.missing rfl) (.apart (by decide))
  · exact List.forall_mem_nil _

/- The parts make up a command line. -/
theorem writes_sampleParts :
    sampleInvocation.Writes sampleParts
      ["-j", "4", "--filter=-a,b=c", "runs",
        "--checkpoints", "+010", "--debug", "-oout",
        "--missing", "zero"] where
  nodup := by decide
  said := says_sampleParts
  arguments_eq := rfl
  complete := by
    intro s
    constructor
    · intro hMem
      rcases List.mem_map.mp hMem with ⟨part, hPart, rfl⟩
      exact ⟨_, says_sampleParts part hPart⟩
    · rintro ⟨chunk, hSays⟩
      cases hSays with
      | root => decide
      | debug hDebug => decide
      | option hGives hSpells =>
          cases hGives with
          | filter hChosen => decide
          | outputDir hChosen => decide
          | checkpoints hChosen hValue => decide
          | missing hChosen => decide
          | jobs hChosen hValue => decide
          | baseline hChosen => cases hChosen
          | step hChosen hValue => cases hChosen
          | format hChosen => cases hChosen
          | config hChosen => cases hChosen
          | reportJson hChosen => cases hChosen

/- The command line is read, and its order is free. -/
theorem read_written_sample :
    sampleInvocation.IsAdmissible ∧
    read
        ["-j", "4", "--filter=-a,b=c", "runs",
          "--checkpoints", "+010", "--debug", "-oout",
          "--missing", "zero"] =
      .ok sampleInvocation ∧
    ∀ s : Settings,
      ({ filter := some "b" } : Choices).applyTo
          (({ jobs := some 2 } : Choices).applyTo s) =
        ({ jobs := some 2 } : Choices).applyTo
          (({ filter := some "b" } : Choices).applyTo s) := by
  have hAdmissible : sampleInvocation.IsAdmissible :=
    ⟨by decide, by decide,
      ⟨by decide, by decide, by decide⟩⟩
  refine ⟨hAdmissible, ?_, ?_⟩
  · exact
      read_written_and_override.1 _ _ _ hAdmissible
        writes_sampleParts
  · intro s
    apply (read_written_and_override.2.2 _ s).2.2
    constructor <;> simp

end Invocation

end PageHeat
