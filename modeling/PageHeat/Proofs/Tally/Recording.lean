import PageHeat.Proofs.Tally.Joining

/-
  What any number of records do to a tally.

  From whatever tally the recording starts, each counter
  ends at the exact sum of its start and all that was added,
  or at the largest one. So the order of the records does
  not matter. No record lowers a counter, and the cold
  accesses stay within all accesses, also where one of these
  counters or both are full.

  Key definitions include:
    * `Hit`
    * `Tally.recordAll`
    * `Tally.AtMost`
    * `Tally.IsSound`

  Key lemmas include:
    * `Tally.recordAll_eq_clip`
    * `Tally.atMost_recordAll`
    * `Tally.IsSound.recordAll`
    * `Tally.recordAll_clips_sums_in_any_order`
-/

------------------------------------------------------------
-- Adding Counters
------------------------------------------------------------

namespace PageHeat

namespace Count

theorem toNat_add (a b : Count) :
    (add a b).toNat = min limit (a.toNat + b.toNat) :=
  toNat_clip _

theorem le_add (a b : Count) : a ≤ add a b := by
  have hFits := a.toNat_le_limit
  rw [UInt64.le_iff_toNat_le, toNat_add]
  omega

theorem add_le_add
    {a b : Count}
    (hLe : a ≤ b)
    (c : Count) :
    add a c ≤ add b c := by
  rw [UInt64.le_iff_toNat_le] at hLe ⊢
  rw [toNat_add, toNat_add]
  omega

end Count

------------------------------------------------------------
-- Records In A Row
------------------------------------------------------------

/- One record: whether it is cold, and its accesses. -/
structure Hit where
  cold : Bool
  count : Count
  deriving Repr, DecidableEq

namespace Hit

/- What a record adds to the cold pages. -/
def coldPages (h : Hit) : Nat :=
  if h.cold then 1 else 0

/- What a record adds to the cold accesses. -/
def coldAccesses (h : Hit) : Nat :=
  if h.cold then h.count.toNat else 0

/- What a record adds to all accesses. -/
def accesses (h : Hit) : Nat :=
  h.count.toNat

end Hit

/- What some records add, without a limit. -/
def ExactTally.ofHits (hits : List Hit) : ExactTally where
  coldPages := total (hits.map Hit.coldPages)
  coldAccesses := total (hits.map Hit.coldAccesses)
  totalAccesses := total (hits.map Hit.accesses)

/- The order of the records does not change what they add. -/
theorem ExactTally.ofHits_perm
    {hits others : List Hit}
    (hPerm : hits.Perm others) :
    ofHits hits = ofHits others := by
  simp only [ofHits, total_perm (hPerm.map _)]

/- Exact records add up to what they add. -/
theorem ExactTally.foldl_record
    (hits : List Hit)
    (e : ExactTally) :
    hits.foldl (fun e h => e.record h.cold h.count.toNat) e =
      e.add (ofHits hits) := by
  induction hits generalizing e with
  | nil => rfl
  | cons h hits ih =>
      rw [List.foldl_cons, ih]
      rcases h with ⟨cold, count⟩
      cases cold with
      | false =>
          simp [record, add, ofHits, total, Hit.coldPages,
            Hit.coldAccesses, Hit.accesses, Nat.add_assoc]
      | true =>
          simp [record, add, ofHits, total, Hit.coldPages,
            Hit.coldAccesses, Hit.accesses, Nat.add_assoc]

namespace Tally

/- Count some records, one after the other. -/
def recordAll (t : Tally) (hits : List Hit) : Tally :=
  hits.foldl (fun t h => t.record h.cold h.count) t

/- The numbers that the counters of a tally show. -/
def exact (t : Tally) : ExactTally where
  coldPages := t.coldPages.toNat
  coldAccesses := t.coldAccesses.toNat
  totalAccesses := t.totalAccesses.toNat

theorem clip_exact (t : Tally) : t.exact.clip = t := by
  simp only [exact, ExactTally.clip, Count.clip_toNat]

/- Records lead to the exact sums, clipped once in the end. -/
theorem recordAll_eq_clip
    (t : Tally)
    (hits : List Hit) :
    t.recordAll hits =
      (t.exact.add (ExactTally.ofHits hits)).clip := by
  have hSteps :=
    ExactTally.foldl_record_clip
      (hits.map fun h => (h.cold, h.count.toNat)) t.exact
  simp only [List.foldl_map, Count.clip_toNat, clip_exact]
    at hSteps
  rw [recordAll, hSteps, ExactTally.foldl_record]

/- Records behind others go on from where these led. -/
theorem recordAll_append
    (t : Tally)
    (front back : List Hit) :
    t.recordAll (front ++ back) =
      (t.recordAll front).recordAll back :=
  List.foldl_append

------------------------------------------------------------
-- Counters That Never Fall
------------------------------------------------------------

/- No counter is larger than that of another tally. -/
structure AtMost (t u : Tally) : Prop where
  coldPages : t.coldPages ≤ u.coldPages
  coldAccesses : t.coldAccesses ≤ u.coldAccesses
  totalAccesses : t.totalAccesses ≤ u.totalAccesses

namespace AtMost

variable {t u v : Tally}

theorem refl (t : Tally) : t.AtMost t where
  coldPages := UInt64.le_refl _
  coldAccesses := UInt64.le_refl _
  totalAccesses := UInt64.le_refl _

/- What is at most a tally is at most a larger one. -/
theorem trans
    (hFirst : t.AtMost u)
    (hSecond : u.AtMost v) :
    t.AtMost v where
  coldPages :=
    UInt64.le_trans hFirst.coldPages hSecond.coldPages
  coldAccesses :=
    UInt64.le_trans hFirst.coldAccesses hSecond.coldAccesses
  totalAccesses :=
    UInt64.le_trans hFirst.totalAccesses
      hSecond.totalAccesses

end AtMost

/- One record lowers no counter. -/
theorem atMost_record
    (t : Tally)
    (cold : Bool)
    (count : Count) :
    t.AtMost (t.record cold count) := by
  cases cold with
  | false =>
      exact
        ⟨UInt64.le_refl _, UInt64.le_refl _,
          Count.le_add _ _⟩
  | true =>
      exact
        ⟨Count.le_add _ _, Count.le_add _ _,
          Count.le_add _ _⟩

/- Nor do any number of records. -/
theorem atMost_recordAll
    (hits : List Hit)
    (t : Tally) :
    t.AtMost (t.recordAll hits) := by
  induction hits generalizing t with
  | nil => exact AtMost.refl t
  | cons h hits ih =>
      exact (t.atMost_record h.cold h.count).trans (ih _)

------------------------------------------------------------
-- Cold Accesses Within All Accesses
------------------------------------------------------------

/- A tally whose cold accesses are part of all accesses. -/
def IsSound (t : Tally) : Prop :=
  t.coldAccesses ≤ t.totalAccesses

instance (t : Tally) : Decidable t.IsSound :=
  inferInstanceAs (Decidable (_ ≤ _))

namespace IsSound

variable {t : Tally}

/-
  A record keeps a tally sound. What it adds to the cold
  accesses it adds to all of them, so where the latter are
  full, the former are at most full.
-/
theorem record
    (hSound : t.IsSound)
    (cold : Bool)
    (count : Count) :
    (t.record cold count).IsSound := by
  cases cold with
  | false => exact UInt64.le_trans hSound (Count.le_add _ _)
  | true => exact Count.add_le_add hSound count

/- So do any number of records. -/
theorem recordAll
    (hSound : t.IsSound)
    (hits : List Hit) :
    (t.recordAll hits).IsSound := by
  induction hits generalizing t with
  | nil => exact hSound
  | cons h hits ih => exact ih (hSound.record _ _)

end IsSound

------------------------------------------------------------
-- Any Number Of Records
------------------------------------------------------------

/-
  Records from any tally on lead each counter to the sum of
  its start and of what they add, or to the largest counter.
  They lead to the same tally in every order. On the way no
  counter falls, and if the cold accesses are within all
  accesses in the beginning, they are after every record.
-/
theorem recordAll_clips_sums_in_any_order
    (t : Tally)
    (hits : List Hit) :
    (t.recordAll hits).coldPages.toNat =
        min Count.limit
          (t.coldPages.toNat +
            total (hits.map Hit.coldPages)) ∧
    (t.recordAll hits).coldAccesses.toNat =
        min Count.limit
          (t.coldAccesses.toNat +
            total (hits.map Hit.coldAccesses)) ∧
    (t.recordAll hits).totalAccesses.toNat =
        min Count.limit
          (t.totalAccesses.toNat +
            total (hits.map Hit.accesses)) ∧
    (∀ others, hits.Perm others →
      t.recordAll others = t.recordAll hits) ∧
    (∀ front more, (front ++ more) <+: hits →
      (t.recordAll front).AtMost
        (t.recordAll (front ++ more))) ∧
    (t.coldAccesses ≤ t.totalAccesses →
      ∀ front, front <+: hits →
        (t.recordAll front).coldAccesses ≤
          (t.recordAll front).totalAccesses) := by
  have hClip := t.recordAll_eq_clip hits
  refine ⟨?_, ?_, ?_, ?_, ?_, ?_⟩
  · rw [hClip]
    exact Count.toNat_clip _
  · rw [hClip]
    exact Count.toNat_clip _
  · rw [hClip]
    exact Count.toNat_clip _
  · intro others hPerm
    rw [hClip, recordAll_eq_clip,
      ExactTally.ofHits_perm hPerm]
  · intro front more _
    rw [recordAll_append]
    exact atMost_recordAll more _
  · intro hSound front _
    exact IsSound.recordAll hSound front

/-
  Three records of which the second one fills all accesses
  and the third one the cold ones, from an empty tally.
-/
theorem recordAll_fills_counters :
    (({ } : Tally).recordAll
        [⟨true, 3⟩, ⟨false, 18446744073709551614⟩,
          ⟨true, 18446744073709551613⟩]).coldAccesses.toNat =
      Count.limit ∧
    ({ } : Tally).recordAll
        [⟨false, 18446744073709551614⟩, ⟨true, 3⟩] =
      ({ } : Tally).recordAll
        [⟨true, 3⟩, ⟨false, 18446744073709551614⟩] ∧
    (({ } : Tally).recordAll [⟨true, 3⟩]).AtMost
      (({ } : Tally).recordAll
        ([⟨true, 3⟩] ++ [⟨false, 18446744073709551614⟩])) ∧
    (({ } : Tally).recordAll
        [⟨true, 3⟩,
          ⟨false, 18446744073709551614⟩]).coldAccesses ≤
      (({ } : Tally).recordAll
        [⟨true, 3⟩,
          ⟨false, 18446744073709551614⟩]).totalAccesses := by
  have hMain :=
    recordAll_clips_sums_in_any_order { }
      [⟨true, 3⟩, ⟨false, 18446744073709551614⟩]
  refine ⟨?_, ?_, ?_, ?_⟩
  · rw [(recordAll_clips_sums_in_any_order _ _).2.1]
    decide
  · exact hMain.2.2.2.1 _ (List.Perm.swap _ _ _)
  · exact
      hMain.2.2.2.2.1 [⟨true, 3⟩] _ (List.prefix_refl _)
  · exact
      hMain.2.2.2.2.2 (by decide) _ (List.prefix_refl _)

end Tally

end PageHeat
