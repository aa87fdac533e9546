import PageHeat.Log.Stream

/-
  Devices that are read buffer by buffer.

  A source still has some buffers to give and then ends or
  fails. A line is read by looking for a line feed in the
  next buffer; if there is none, the whole buffer belongs
  to the line and the search goes on in the one behind it.
  What is behind the line feed stays for the next line. A
  fault drops the line that was begun.

  Key definitions include:
    * `Source`
    * `Source.stream`
    * `Source.readLine`
    * `Source.eachLine`
    * `Source.foldLines`
    * `Stream.linesByBuffer`
-/

------------------------------------------------------------
-- Sources
------------------------------------------------------------

namespace PageHeat

/-
  The buffers that a device still gives, the first one
  perhaps used up in part, and the fault that it meets
  behind them, if there is one.
-/
structure Source where
  buffers : List Bytes
  failure : Option DeviceFault := none
  deriving Repr, DecidableEq

namespace Source

/- What a source gives, whatever its buffers are. -/
def stream (s : Source) : Stream :=
  ⟨s.buffers.flatten, s.failure⟩

------------------------------------------------------------
-- Reading One Line
------------------------------------------------------------

/-
  Read on to the next line feed, or to the end. `begun` is
  the part of the line that the buffers before had.
-/
def readOn
    (failure : Option DeviceFault)
    (begun : Bytes) :
    List Bytes → Except DeviceFault (Bytes × List Bytes)
  | [] =>
      match failure with
      | some fault => .error fault
      | none => .ok (begun, [])
  | buffer :: buffers =>
      match buffer.dropWhile (· != lineFeed) with
      | [] => readOn failure (begun ++ buffer) buffers
      | feed :: back =>
          .ok
            (begun ++ buffer.takeWhile (· != lineFeed) ++
                [feed],
              back :: buffers)

/- A line and the buffers behind it lose no octet. -/
theorem append_of_readOn
    {failure : Option DeviceFault}
    {begun piece : Bytes}
    {buffers rest : List Bytes}
    (hRead :
      readOn failure begun buffers = .ok (piece, rest)) :
    piece ++ rest.flatten = begun ++ buffers.flatten := by
  induction buffers generalizing begun with
  | nil =>
      cases failure with
      | some fault => cases hRead
      | none =>
          cases hRead
          rfl
  | cons buffer buffers ih =>
      rw [readOn] at hRead
      split at hRead
      · rw [ih hRead, List.flatten_cons, List.append_assoc]
      · rename_i feed back hDrop
        have hBuffer := List.takeWhile_append_dropWhile
          (p := (· != lineFeed)) (l := buffer)
        rw [hDrop] at hBuffer
        cases hRead
        rw [List.flatten_cons, List.flatten_cons]
        conv =>
          rhs
          rw [← hBuffer]
        simp only [List.append_assoc, List.cons_append,
          List.nil_append]

/-
  Read a line with its line feed. At the end of the source
  there is an empty line.
-/
def readLine
    (s : Source) : Except DeviceFault (Bytes × Source) :=
  (readOn s.failure [] s.buffers).map fun (piece, rest) =>
    (piece, { s with buffers := rest })

/- A line that is not empty leaves fewer octets. -/
theorem length_of_readLine
    {s rest : Source}
    {b : UInt8}
    {piece : Bytes}
    (hRead : s.readLine = .ok (b :: piece, rest)) :
    rest.buffers.flatten.length <
      s.buffers.flatten.length := by
  rw [readLine] at hRead
  cases hOn : readOn s.failure [] s.buffers with
  | error fault =>
      rw [hOn] at hRead
      cases hRead
  | ok found =>
      rcases found with ⟨line, others⟩
      rw [hOn] at hRead
      cases hRead
      have hLength :=
        congrArg List.length (append_of_readOn hOn)
      rw [List.nil_append, List.length_append,
        List.length_cons] at hLength
      change others.flatten.length < _
      omega

------------------------------------------------------------
-- Reading All Lines
------------------------------------------------------------

/-
  Read line by line and let a visitor change a state with
  the number and the text of each line. `number` lines have
  been visited before. The state is kept when a fault ends
  the reading.
-/
def eachLine
    {σ : Type}
    (visit : σ → Nat → Except LineFault Text → σ)
    (number : Nat)
    (state : σ)
    (s : Source) : σ × Except DeviceFault Unit :=
  match hRead : s.readLine with
  | .error fault => (state, .error fault)
  | .ok ([], _) => (state, .ok ())
  | .ok (b :: piece, rest) =>
      eachLine visit (number + 1)
        (visit state (number + 1) (readPiece (b :: piece)))
        rest
termination_by s.buffers.flatten.length
decreasing_by exact length_of_readLine hRead

/-
  The state after all lines, or the fault that ended the
  reading.
-/
def foldLines
    {σ : Type}
    (absorb : σ → Except LineFault Text → σ)
    (start : σ)
    (s : Source) : Except DeviceFault σ :=
  let (state, ending) :=
    s.eachLine (fun state _ line => absorb state line)
      0 start
  ending.map fun _ => state

end Source

------------------------------------------------------------
-- Buffers Of One Size
------------------------------------------------------------

/-
  Cut bytes into buffers of one octet more than a size. The
  last one may be shorter.
-/
def buffers (size : Nat) : Bytes → List Bytes
  | [] => []
  | b :: rest =>
      (b :: rest.take size) :: buffers size (rest.drop size)
termination_by bytes => bytes.length
decreasing_by
  rw [List.length_drop, List.length_cons]
  omega

namespace Stream

/-
  The lines of the stream, read by buffers of one octet
  more than `size`.
-/
def linesByBuffer
    (size : Nat)
    (s : Stream) : List (Except LineFault Text) :=
  let source : Source := ⟨buffers size s.bytes, s.failure⟩
  let (visited, _) :=
    source.eachLine (fun visited _ line => line :: visited)
      0 []
  visited.reverse

end Stream

end PageHeat
