import PageHeat.Text.Floating

/-
  TOML documents as values.

  A table keeps its keys in the order in which they were
  given, and remembers how it came about: by a header of
  its own, on the way to another header, by a key with
  dots, or between braces. That decides what may still be
  added to it.

  Key definitions include:
    * `Toml.TableOrigin`
    * `Toml.Value`
    * `Toml.insert`
    * `Toml.openTable`
    * `Toml.openTables`
    * `Toml.closeTable`
-/

------------------------------------------------------------
-- Values
------------------------------------------------------------

namespace PageHeat

namespace Toml

/- How a table came about. -/
inductive TableOrigin where
  | header
  | implied
  | dotted
  | braces
  deriving Repr, DecidableEq

/- A value; of a date or a time only the kind is kept. -/
inductive Value where
  | string (t : Text)
  | integer (n : Int)
  | floating (x : Floating)
  | boolean (b : Bool)
  | moment
  | list (items : List Value)
  | table (origin : TableOrigin) (entries : List (Text × Value))
  | tables (items : List (List (Text × Value)))
  deriving Repr

/- The entries of a table. -/
abbrev Entries := List (Text × Value)

------------------------------------------------------------
-- Entries
------------------------------------------------------------

/- Give an existing key another value, in its place. -/
def replace (key : Text) (v : Value) : Entries → Entries
  | [] => []
  | (k, w) :: rest =>
      if k = key then
        (k, v) :: rest
      else
        (k, w) :: replace key v rest

def drop (key : Text) (es : Entries) : Entries :=
  es.filter fun e => e.1 != key

/- Add a key that is not there. -/
def addNew
    (key : Text)
    (v : Value)
    (es : Entries) : Option Entries :=
  match es.lookup key with
  | some _ => none
  | none => some (es ++ [(key, v)])

/-
  Change the table at the end of a path of keys. Missing
  tables on the way are created. A path with dots does not
  enter a table that has a header, and no path enters what
  is between braces.
-/
def descend
    (created : TableOrigin)
    (change : TableOrigin → Entries → Option Entries) :
    List Text → TableOrigin → Entries → Option Entries
  | [], origin, es => change origin es
  | key :: path, _, es =>
      match es.lookup key with
      | none =>
          (descend created change path created []).map
            fun inner => es ++ [(key, .table created inner)]
      | some (.table .braces _) => none
      | some (.table origin inner) =>
          if created = .dotted ∧ origin = .header then
            none
          else
            (descend created change path origin inner).map
              fun inner => replace key (.table origin inner) es
      | some (.tables items) =>
          match items.getLast? with
          | none => none
          | some last =>
              (descend created change path .header last).map
                fun last =>
                  replace key
                    (.tables (items.dropLast ++ [last])) es
      | some _ => none

/-
  Add a value under a path of keys with dots. All but the
  last key have to lead to a table of such keys.
-/
def insert
    (path : List Text)
    (key : Text)
    (v : Value)
    (es : Entries) : Option Entries :=
  descend .dotted
    (fun origin es =>
      if path ≠ [] ∧ origin ≠ .dotted then
        none
      else
        addNew key v es)
    path .header es

------------------------------------------------------------
-- Tables By Headers
------------------------------------------------------------

/-
  A document that is being read: the tables that are
  closed, and the open one with its path, if it has a
  header, and whether it is one of a list.
-/
structure Draft where
  closed : Entries := []
  path : List Text := []
  inList : Bool := false
  current : Entries := []

namespace Draft

/- Put the open table in its place. -/
def close (d : Draft) : Option Entries :=
  match d.path.getLast? with
  | none => some d.current
  | some key =>
      descend .implied
        (fun _ es =>
          if d.inList then
            match es.lookup key with
            | some (.tables items) =>
                some
                  (replace key (.tables (items ++ [d.current]))
                    es)
            | some _ => none
            | none =>
                some (es ++ [(key, .tables [d.current])])
          else
            addNew key (.table .header d.current) es)
        d.path.dropLast .header d.closed

/-
  Open a table by its header. One that is only implied by
  others keeps what it has.
-/
def openTable (d : Draft) (path : List Text) : Option Draft := do
  let key ← path.getLast?
  let closed ← d.close
  let around ←
    descend .implied
      (fun _ es =>
        match es.lookup key with
        | none => some es
        | some (.table .implied _) => some es
        | some _ => none)
      path.dropLast .header closed
  let inner := (entryAt path around).getD []
  let rest ←
    descend .implied (fun _ es => some (drop key es))
      path.dropLast .header around
  some { closed := rest, path := path, current := inner }
where
  /- The entries of the table at the end of a path. -/
  entryAt : List Text → Entries → Option Entries
    | [], es => some es
    | key :: path, es =>
        match es.lookup key with
        | some (.table _ inner) => entryAt path inner
        | some (.tables items) =>
            items.getLast?.bind (entryAt path)
        | _ => none

/- Open one more table of a list by its header. -/
def openTables (d : Draft) (path : List Text) : Option Draft := do
  let key ← path.getLast?
  let closed ← d.close
  let closed ←
    descend .implied
      (fun _ es =>
        match es.lookup key with
        | none => some (es ++ [(key, .tables [])])
        | some (.tables _) => some es
        | some _ => none)
      path.dropLast .header closed
  some { closed := closed, path := path, inList := true }

/- Add a value to the open table. -/
def add
    (d : Draft)
    (path : List Text)
    (key : Text)
    (v : Value) : Option Draft :=
  (insert path key v d.current).map
    fun es => { d with current := es }

end Draft

end Toml

end PageHeat
