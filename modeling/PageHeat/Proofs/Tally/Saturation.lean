import PageHeat.Proofs.Log.Line
import PageHeat.Tally.Basic

/-
  Counters that stay at their largest value.

  An exact tally counts the same things with numbers that
  have no largest value. Clipping an exact tally in the end
  gives what the counters of a tally show, so the point at
  which a counter is full does not matter.

  Key definitions include:
    * `Count.clip`
    * `ExactTally`
    * `ExactTally.clip`

  Key lemmas include:
    * `Count.add_clip_clip`
    * `ExactTally.record_clip`
    * `ExactTally.foldl_record_clip`
-/

------------------------------------------------------------
-- Clipping
------------------------------------------------------------

namespace PageHeat

namespace Count

/- The counter of a number, or the largest counter. -/
def clip (n : Nat) : Count :=
  UInt64.ofNat (min Count.limit n)

@[simp] theorem toNat_clip (n : Nat) :
    (clip n).toNat = min Count.limit n :=
  Count.toNat_ofNat (Nat.min_le_left _ _)

@[simp] theorem clip_toNat (n : Count) : clip n.toNat = n := by
  rw [clip, Nat.min_eq_right n.toNat_le_limit,
    UInt64.ofNat_toNat]

/- Adding clipped numbers clips their sum. -/
theorem add_clip_clip (m n : Nat) :
    Count.add (clip m) (clip n) = clip (m + n) := by
  have hMin :
      min limit (min limit m + min limit n) =
        min limit (m + n) := by
    omega
  rw [Count.add, toNat_clip, toNat_clip, hMin, clip]

end Count

------------------------------------------------------------
-- Exact Tallies
------------------------------------------------------------

/- What is counted of one checkpoint, without a limit. -/
structure ExactTally where
  coldPages : Nat := 0
  coldAccesses : Nat := 0
  totalAccesses : Nat := 0
  deriving Repr, DecidableEq

namespace ExactTally

/- Count one record. -/
def record
    (e : ExactTally)
    (cold : Bool)
    (count : Nat) : ExactTally :=
  if cold then
    { coldPages := e.coldPages + 1
      coldAccesses := e.coldAccesses + count
      totalAccesses := e.totalAccesses + count }
  else
    { e with totalAccesses := e.totalAccesses + count }

/- The tally whose counters show an exact tally. -/
def clip (e : ExactTally) : Tally where
  coldPages := Count.clip e.coldPages
  coldAccesses := Count.clip e.coldAccesses
  totalAccesses := Count.clip e.totalAccesses

/- Clipping and recording can change their places. -/
theorem record_clip
    (e : ExactTally)
    (cold : Bool)
    (count : Nat) :
    e.clip.record cold (Count.clip count) =
      (e.record cold count).clip := by
  cases cold with
  | false =>
      simp only [Tally.record, record, clip,
        Bool.false_eq_true, if_false, Count.add_clip_clip]
  | true =>
      have hOne : (1 : Count) = Count.clip 1 := by decide
      simp only [Tally.record, record, clip, if_true,
        Count.add_clip_clip, hOne]

/-
  Records that are counted step by step, each with its own
  saturation, show the clipped exact tally of them all.
-/
theorem foldl_record_clip
    (steps : List (Bool × Nat))
    (e : ExactTally) :
    steps.foldl
        (fun t step => t.record step.1 (Count.clip step.2))
        e.clip =
      (steps.foldl
        (fun e step => e.record step.1 step.2) e).clip := by
  induction steps generalizing e with
  | nil => rfl
  | cons step steps ih =>
      rw [List.foldl_cons, List.foldl_cons, record_clip, ih]

end ExactTally

end PageHeat
