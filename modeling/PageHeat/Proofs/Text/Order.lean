import PageHeat.Text.Basic

/-
  The order of texts.

  Texts are ordered by their code points from the left. The
  order is total, so items that are sorted by keys of text
  are ordered by them; items that share a key keep their
  order.

  Key definitions include:
    * `Text.Before`

  Key lemmas include:
    * `Text.atMost_trans`
    * `Text.atMost_total`
    * `Text.atMost_antisymm`
    * `Text.pairwise_atMost_mergeSort`
    * `Text.filter_mergeSort`
-/

------------------------------------------------------------
-- A Total Order
------------------------------------------------------------

namespace PageHeat

namespace Text

/- The order of two texts with a character in front. -/
theorem atMost_cons_iff
    (c d : Char)
    (t u : Text) :
    atMost (c :: t) (d :: u) = true ↔
      c.toNat < d.toNat ∨
        c.toNat = d.toNat ∧ atMost t u = true := by
  have hCode (a b : Char) : a < b ↔ a.toNat < b.toNat :=
    Iff.rfl
  rw [atMost]
  simp only [hCode]
  split
  · rename_i hLt
    exact ⟨fun _ => .inl hLt, fun _ => rfl⟩
  · split
    · rename_i hLt
      constructor
      · intro hFalse
        cases hFalse
      · rintro (hLess | ⟨hEq, -⟩)
        · omega
        · omega
    · constructor
      · intro hRest
        exact .inr ⟨by omega, hRest⟩
      · rintro (hLess | ⟨-, hRest⟩)
        · omega
        · exact hRest

/- The order can be followed over a text in between. -/
theorem atMost_trans
    {t u v : Text}
    (hFirst : atMost t u = true)
    (hSecond : atMost u v = true) :
    atMost t v = true := by
  induction t generalizing u v with
  | nil => exact atMost.eq_1 v
  | cons c t ih =>
      cases u with
      | nil => cases hFirst
      | cons d u =>
          cases v with
          | nil => cases hSecond
          | cons e v =>
              rw [atMost_cons_iff] at hFirst hSecond ⊢
              rcases hFirst with hLt | ⟨hEq, hRest⟩
              · rcases hSecond with hLt' | ⟨hEq', -⟩
                · exact .inl (by omega)
                · exact .inl (by omega)
              · rcases hSecond with hLt' | ⟨hEq', hRest'⟩
                · exact .inl (by omega)
                · exact .inr ⟨by omega, ih hRest hRest'⟩

/- Of two texts, one is at most the other. -/
theorem atMost_total (t u : Text) :
    atMost t u = true ∨ atMost u t = true := by
  induction t generalizing u with
  | nil => exact .inl (atMost.eq_1 u)
  | cons c t ih =>
      cases u with
      | nil => exact .inr (atMost.eq_1 _)
      | cons d u =>
          rw [atMost_cons_iff, atMost_cons_iff]
          rcases Nat.lt_trichotomy c.toNat d.toNat with
            hLt | hEq | hGt
          · exact .inl (.inl hLt)
          · rcases ih u with hRest | hRest
            · exact .inl (.inr ⟨hEq, hRest⟩)
            · exact .inr (.inr ⟨hEq.symm, hRest⟩)
          · exact .inr (.inl hGt)

/- Texts that are at most each other are the same. -/
theorem atMost_antisymm
    {t u : Text}
    (hAtMost : atMost t u = true)
    (hAtLeast : atMost u t = true) :
    t = u := by
  induction t generalizing u with
  | nil =>
      cases u with
      | nil => rfl
      | cons d u => cases hAtLeast
  | cons c t ih =>
      cases u with
      | nil => cases hAtMost
      | cons d u =>
          rw [atMost_cons_iff] at hAtMost hAtLeast
          have hEq : c.toNat = d.toNat := by omega
          have hRest : atMost t u = true := by
            rcases hAtMost with hLt | hSame
            · omega
            · exact hSame.2
          have hRest' : atMost u t = true := by
            rcases hAtLeast with hLt | hSame
            · omega
            · exact hSame.2
          rw [ih hRest hRest', Char.toNat_inj.mp hEq]

theorem atMost_or (t u : Text) :
    (atMost t u || atMost u t) = true := by
  rw [Bool.or_eq_true]
  exact atMost_total t u

theorem atMost_refl (t : Text) : atMost t t = true :=
  (atMost_total t t).elim id id

------------------------------------------------------------
-- Strict Order
------------------------------------------------------------

/- A text that stands strictly before another one. -/
def Before (t u : Text) : Prop :=
  atMost t u = true ∧ t ≠ u

/- Ordered texts without repetition are strictly ordered. -/
theorem pairwise_before
    {texts : List Text}
    (hAtMost : texts.Pairwise fun t u => atMost t u = true)
    (hNodup : texts.Nodup) :
    texts.Pairwise Before :=
  hAtMost.and hNodup

------------------------------------------------------------
-- Sorting
------------------------------------------------------------

section Sorting

variable {α : Type} (key : α → Text) (items : List α)

theorem pairwise_atMost_mergeSort :
    (items.mergeSort fun a b =>
      atMost (key a) (key b)).Pairwise
        fun a b => atMost (key a) (key b) = true := by
  refine List.pairwise_mergeSort ?_ ?_ items
  · intro a b c hFirst hSecond
    exact atMost_trans hFirst hSecond
  · intro a b
    exact atMost_or (key a) (key b)

/- Items of the same key keep their order when sorted. -/
theorem filter_mergeSort (t : Text) :
    ((items.mergeSort fun a b =>
      atMost (key a) (key b)).filter fun a => key a = t) =
        items.filter fun a => key a = t := by
  have hSame :
      (items.filter fun a => key a = t).Pairwise
        fun a b => atMost (key a) (key b) = true := by
    refine List.pairwise_of_forall_mem_list ?_
    intro a hA b hB
    have hA' : key a = t := by
      simpa using (List.mem_filter.mp hA).2
    have hB' : key b = t := by
      simpa using (List.mem_filter.mp hB).2
    rw [hA', hB']
    exact atMost_refl t
  have hKept :
      (items.filter fun a => key a = t).Sublist
        (items.mergeSort fun a b =>
          atMost (key a) (key b)) := by
    refine
      List.sublist_mergeSort ?_ ?_ hSame List.filter_sublist
    · intro a b c hFirst hSecond
      exact atMost_trans hFirst hSecond
    · intro a b
      exact atMost_or (key a) (key b)
  have hSub := hKept.filter fun a => decide (key a = t)
  simp only [List.filter_filter, Bool.and_self] at hSub
  refine (hSub.eq_of_length ?_).symm
  exact
    ((List.mergeSort_perm items _).filter _).length_eq.symm

end Sorting

end Text

end PageHeat
