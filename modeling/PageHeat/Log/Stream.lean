import PageHeat.Fault.Device
import PageHeat.Log.Line
import PageHeat.Text.Utf8

/-
  Streams of bytes and the lines that are read from them.

  A stream gives its bytes and then either ends or fails.
  It is cut after every line feed, and each piece is
  decoded on its own, so that bytes which are no text spoil
  only their own line. A stream that fails delivers the
  lines it has completed before the fault.

  Key definitions include:
    * `Stream`
    * `cutLines`
    * `Stream.pieces`
    * `Stream.lines`
    * `numbered`
-/

------------------------------------------------------------
-- Streams
------------------------------------------------------------

namespace PageHeat

/-
  The bytes that a reader will get, and the fault that it
  meets after them, if there is one.
-/
structure Stream where
  bytes : Bytes
  failure : Option DeviceFault := none
  deriving Repr, DecidableEq

namespace Stream

/- The stream of some bytes that ends normally. -/
def ofBytes (bytes : Bytes) : Stream :=
  ⟨bytes, none⟩

/- The stream that fails at once. -/
def failing (fault : DeviceFault) : Stream :=
  ⟨[], some fault⟩

/- The stream that fails after some of its bytes. -/
def breakingAt
    (n : Nat)
    (fault : DeviceFault)
    (bytes : Bytes) : Stream :=
  ⟨bytes.take n, some fault⟩

/- All bytes, or the fault of the stream. -/
def readAll (s : Stream) : Except DeviceFault Bytes :=
  match s.failure with
  | some fault => .error fault
  | none => .ok s.bytes

end Stream

------------------------------------------------------------
-- Cutting
------------------------------------------------------------

/- The octet that ends a line. -/
def lineFeed : UInt8 := 10

/-
  Cut bytes after every line feed. The last piece may be
  without one.
-/
def cutLines : Bytes → List Bytes
  | [] => []
  | b :: rest =>
      if b = lineFeed then
        [b] :: cutLines rest
      else
        match cutLines rest with
        | [] => [[b]]
        | piece :: pieces => (b :: piece) :: pieces

/- A piece that a line feed ends. -/
def IsComplete (piece : Bytes) : Prop :=
  piece.getLast? = some lineFeed

instance (piece : Bytes) : Decidable (IsComplete piece) :=
  inferInstanceAs (Decidable (_ = _))

def readPiece (piece : Bytes) : Except LineFault Text :=
  match Utf8.decode piece with
  | some t => .ok t
  | none => .error .invalidUtf8

namespace Stream

/- The pieces that a reader of the stream is given. -/
def pieces (s : Stream) : List Bytes :=
  match s.failure with
  | none => cutLines s.bytes
  | some _ =>
      (cutLines s.bytes).filter (decide <| IsComplete ·)

/- The lines that a reader of the stream is given. -/
def lines (s : Stream) : List (Except LineFault Text) :=
  s.pieces.map readPiece

end Stream

/- Number the lines of a log from one on. -/
def numbered {α : Type} (lines : List α) : List (Nat × α) :=
  lines.zipIdx.map fun (line, i) => (i + 1, line)

end PageHeat
