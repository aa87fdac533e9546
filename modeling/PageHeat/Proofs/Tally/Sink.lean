import PageHeat.Proofs.Text.Utf8
import PageHeat.Tally.Sink

/-
  Writing to a sink piece by piece.

  It makes no difference whether bytes are written at once
  or in pieces up to the first fault. So a sink of a given
  capacity holds the first bytes of all that was to be
  written, and it reports its fault exactly if these are
  not all bytes.

  Key lemmas include:
    * `Sink.writeEach_eq_write`
    * `Sink.write_unlimited`
    * `Sink.write_ofCapacity`
-/

------------------------------------------------------------
-- Two Parts
------------------------------------------------------------

namespace PageHeat

namespace Sink

variable {s s' : Sink} {front : Bytes}

/- Behind a part that fits, the rest is written. -/
theorem write_append_of_fits
    (hFits : s.write front = (s', none))
    (back : Bytes) :
    s.write (front ++ back) = s'.write back := by
  rcases s with ⟨_ | room, overflow, received⟩
  · cases hFits
    simp only [write, List.append_assoc]
  · simp only [write] at hFits
    split at hFits
    · rename_i hFront
      cases hFits
      have hIff :
          (front ++ back).length ≤ room ↔
            back.length ≤ room - front.length := by
        rw [List.length_append]
        omega
      simp only [write, hIff]
      split
      · rw [List.length_append, Nat.sub_add_eq,
          List.append_assoc]
      · rw [List.take_append, List.take_of_length_le hFront,
          List.append_assoc]
    · cases hFits

/- Behind a part that does not fit, nothing is written. -/
theorem write_append_of_fault
    {fault : DeviceFault}
    (hFault : s.write front = (s', some fault))
    (back : Bytes) :
    s.write (front ++ back) = (s', some fault) := by
  rcases s with ⟨_ | room, overflow, received⟩
  · cases hFault
  · simp only [write] at hFault
    split at hFault
    · cases hFault
    · rename_i hFront
      cases hFault
      have hNot : ¬ (front ++ back).length ≤ room := by
        rw [List.length_append]
        omega
      have hTake :
          (front ++ back).take room = front.take room :=
        List.take_append_of_le_length
          (Nat.le_of_not_le hFront)
      simp only [write, if_neg hNot, hTake]

theorem write_nil (s : Sink) : s.write [] = (s, none) := by
  rcases s with ⟨_ | room, overflow, received⟩
  · simp only [write, List.append_nil]
  · simp only [write, List.length_nil, Nat.zero_le, if_true,
      Nat.sub_zero, List.append_nil]

------------------------------------------------------------
-- Many Parts
------------------------------------------------------------

/- Texts that are written one by one are written at once. -/
theorem writeEach_eq_write
    (s : Sink)
    (texts : List Text) :
    s.writeEach texts =
      s.write (Utf8.encode texts.flatten) := by
  induction texts generalizing s with
  | nil => exact (write_nil s).symm
  | cons t texts ih =>
      rw [List.flatten_cons, Utf8.encode_append, writeEach]
      rcases hWrite : s.write (Utf8.encode t) with
        ⟨s', _ | fault⟩
      · rw [write_append_of_fits hWrite]
        exact ih s'
      · exact (write_append_of_fault hWrite _).symm

theorem write_unlimited (bytes : Bytes) :
    unlimited.write bytes = ({ received := bytes }, none) :=
  rfl

/-
  A sink of a given capacity takes the first bytes, and
  fails if there are more.
-/
theorem write_ofCapacity
    (capacity : Nat)
    (overflow : DeviceFault)
    (bytes : Bytes) :
    ((ofCapacity capacity overflow).write bytes).1.received =
        bytes.take capacity ∧
      ((ofCapacity capacity overflow).write bytes).2 =
        if bytes.length ≤ capacity then none
        else some overflow := by
  simp only [ofCapacity, write]
  split
  · rename_i hFits
    exact ⟨(List.take_of_length_le hFits).symm, rfl⟩
  · exact ⟨rfl, rfl⟩

end Sink

end PageHeat
