import PageHeat.Fault.Device
import PageHeat.Text.Utf8

/-
  Sinks take bytes until they are full.

  A write that does not fit leaves the part that does and
  then fails, so a sink of a given capacity always holds
  the first bytes of what was written to it.

  Key definitions include:
    * `Sink`
    * `Sink.write`
    * `Sink.writeEach`
-/

------------------------------------------------------------
-- Sinks
------------------------------------------------------------

namespace PageHeat

/-
  A sink: the bytes it may still take, if they are limited,
  the fault of exceeding them, and what it has taken.
-/
structure Sink where
  room : Option Nat := none
  overflow : DeviceFault := .noSpace
  received : Bytes := []
  deriving Repr, DecidableEq

namespace Sink

/- A sink that takes everything. -/
def unlimited : Sink := { }

/- A sink that takes a given number of bytes. -/
def ofCapacity
    (capacity : Nat)
    (overflow : DeviceFault) : Sink :=
  { room := some capacity, overflow := overflow }

/- Write bytes as far as they fit. -/
def write
    (s : Sink)
    (chunk : Bytes) : Sink × Option DeviceFault :=
  match s.room with
  | none =>
      ({ s with received := s.received ++ chunk }, none)
  | some room =>
      if chunk.length ≤ room then
        ({ s with
           room := some (room - chunk.length)
           received := s.received ++ chunk }, none)
      else
        ({ s with
           room := some 0
           received := s.received ++ chunk.take room },
          some s.overflow)

/- Write texts one after the other, up to the first fault. -/
def writeEach
    (s : Sink) :
    List Text → Sink × Option DeviceFault
  | [] => (s, none)
  | t :: rest =>
      match s.write (Utf8.encode t) with
      | (s, none) => s.writeEach rest
      | (s, some fault) => (s, some fault)

end Sink

end PageHeat
