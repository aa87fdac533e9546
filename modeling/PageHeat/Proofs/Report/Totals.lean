import PageHeat.Log.Line
import PageHeat.Report.Basic

/-
  Sums of numbers.

  A sum of lists in a row is the sum of their sums, and no
  number is larger than a sum that it is part of. So if a
  sum is at most the largest counter, it is found by adding
  up the numbers one by one, and no sum on the way is too
  large for a counter.

  Key definitions include:
    * `Count.sum?`

  Key lemmas include:
    * `total_append`
    * `total_perm`
    * `total_le_of_sublist`
    * `le_total_map`
    * `total_flatMap`
    * `Count.sum?_of_total_le`
-/

------------------------------------------------------------
-- Sums Of Lists
------------------------------------------------------------

namespace PageHeat

theorem total_append (front back : List Nat) :
    total (front ++ back) = total front + total back := by
  induction front with
  | nil => exact (Nat.zero_add _).symm
  | cons n front ih =>
      rw [List.cons_append, total, total, ih, Nat.add_assoc]

/- A total does not depend on the order. -/
theorem total_perm
    {numbers others : List Nat}
    (hPerm : numbers.Perm others) :
    total numbers = total others := by
  induction hPerm with
  | nil => rfl
  | cons n hPerm ih => rw [total, total, ih]
  | swap m n numbers =>
      simp only [total]
      exact Nat.add_left_comm _ _ _
  | trans hFirst hSecond ihFirst ihSecond =>
      exact ihFirst.trans ihSecond

/- Leaving out numbers never makes a total larger. -/
theorem total_le_of_sublist
    {some all : List Nat}
    (hSublist : some.Sublist all) :
    total some ≤ total all := by
  induction hSublist with
  | slnil => exact Nat.le_refl _
  | cons n hRest ih =>
      rw [total]
      omega
  | cons_cons n hRest ih =>
      rw [total, total]
      omega

------------------------------------------------------------
-- Sums Over Items
------------------------------------------------------------

variable {α β : Type}

theorem le_total_map
    (f : β → Nat)
    {x : β}
    {xs : List β}
    (hMem : x ∈ xs) :
    f x ≤ total (xs.map f) := by
  have hPart : [f x].Sublist (xs.map f) :=
    List.singleton_sublist.mpr (List.mem_map_of_mem hMem)
  exact total_le_of_sublist hPart

/- A sum over items in a row is the sum of their sums. -/
theorem total_flatMap
    (items : β → List α)
    (value : α → Nat)
    (xs : List β) :
    total ((xs.flatMap items).map value) =
      total
        (xs.map fun x => total ((items x).map value)) := by
  induction xs with
  | nil => rfl
  | cons x xs ih =>
      rw [List.flatMap_cons, List.map_append, total_append,
        ih, List.map_cons, total]

/- There are as many items in a row as in all lists. -/
theorem length_flatMap_eq_total
    (items : β → List α)
    (xs : List β) :
    (xs.flatMap items).length =
      total (xs.map fun x => (items x).length) := by
  induction xs with
  | nil => rfl
  | cons x xs ih =>
      rw [List.flatMap_cons, List.length_append, ih,
        List.map_cons, total]

------------------------------------------------------------
-- Sums Of Counters
------------------------------------------------------------

namespace Count

/- Add a number, if the sum is not too large. -/
def sumStep? (soFar n : Nat) : Option Nat :=
  if soFar + n ≤ limit then some (soFar + n) else none

/-
  Add up numbers one by one, unless a sum on the way is
  larger than a counter can be.
-/
def sum? (numbers : List Nat) : Option Nat :=
  numbers.foldlM sumStep? 0

/- Continuing a sum whose end is not too large. -/
theorem foldlM_sumStep?
    {numbers : List Nat}
    {soFar : Nat}
    (hFits : soFar + total numbers ≤ limit) :
    numbers.foldlM sumStep? soFar =
      some (soFar + total numbers) := by
  induction numbers generalizing soFar with
  | nil => rfl
  | cons n numbers ih =>
      rw [total, ← Nat.add_assoc] at hFits ⊢
      have hStep : sumStep? soFar n = some (soFar + n) :=
        if_pos (Nat.le_trans (Nat.le_add_right _ _) hFits)
      rw [List.foldlM_cons, hStep]
      exact ih hFits

/- No sum on the way is larger than the one in the end. -/
theorem sum?_of_total_le
    {numbers : List Nat}
    (hFits : total numbers ≤ limit) :
    sum? numbers = some (total numbers) := by
  have hStart : 0 + total numbers ≤ limit := by
    rwa [Nat.zero_add]
  rw [sum?, foldlM_sumStep? hStart, Nat.zero_add]

end Count

end PageHeat
