import RankedSearch.Toml.Value

/-! Building the tables of a document, statement by statement. A table is defined once: by a header,
between braces, or by dotted keys that stand together. Tables on the way to it come into being by
being named, and only these may be given a header later. -/

namespace RankedSearch.Toml

/-- A key and the keys of the tables that lead to it. -/
structure Key where
  path : List String
  name : String
deriving DecidableEq, Repr

def Key.full (k : Key) : List String := k.path ++ [k.name]

inductive Statement
  /-- `[key]` -/
  | header (k : Key)
  /-- `[[key]]` -/
  | element (k : Key)
  | entry (k : Key) (v : Value)

/-- Changes the table at the end of a path by `f`, which is told how that table came to be. Missing
tables on the way are created with the given origin. An array of tables stands for its last one.
Nothing reaches into a complete table, and dotted keys do not reach into one that has a header. -/
def reach (created : Origin) (f : Origin → Entries → Option Entries) :
    List String → Origin → Entries → Option Entries
  | [], origin, entries => f origin entries
  | key :: path, _, entries =>
    match entries.value? key with
    | none =>
      (reach created f path created []).map fun inner => entries.put key (.table created inner)
    | some (.table origin inner) =>
      if origin = .complete ∨ (created = .dotted ∧ origin = .header) then none
      else
        (reach created f path origin inner).map fun inner => entries.put key (.table origin inner)
    | some (.tables elements) =>
      match elements.getLast? with
      | some (.table origin inner) =>
        (reach created f path origin inner).map fun inner =>
          entries.put key (.tables (elements.dropLast ++ [.table origin inner]))
      | _ => none
    | some _ => none

/-- Gives a key of a table its value, once. A key that is dotted goes only into tables that dotted
keys implied, a plain one only into the table itself. -/
def assign (k : Key) (v : Value) (entries : Entries) : Option Entries :=
  let set (origin : Origin) (entries : Entries) : Option Entries :=
    if (origin = .dotted) = (k.path = []) ∨ (entries.value? k.name).isSome then none
    else some (entries.put k.name v)
  reach .dotted set k.path .header entries

/-- Opens a table by its header. -/
def openTable (k : Key) (entries : Entries) : Option Entries :=
  let set (_ : Origin) (entries : Entries) : Option Entries :=
    match entries.value? k.name with
    | none => some (entries.put k.name (.table .header []))
    | some (.table .implied inner) => some (entries.put k.name (.table .header inner))
    | some _ => none
  reach .implied set k.path .header entries

/-- Opens the next element of an array of tables. -/
def openElement (k : Key) (entries : Entries) : Option Entries :=
  let set (_ : Origin) (entries : Entries) : Option Entries :=
    match entries.value? k.name with
    | none => some (entries.put k.name (.tables [.table .header []]))
    | some (.tables elements) =>
      some (entries.put k.name (.tables (elements ++ [.table .header []])))
    | some _ => none
  reach .implied set k.path .header entries

/-- The table that is written between braces. -/
def completeTable (assignments : List (Key × Value)) : Option Value :=
  (assignments.foldlM (fun entries (k, v) => assign k v entries) []).map (.table .complete)

/-! ## Documents -/

structure Draft where
  root : Entries := []
  /-- The table that was opened last. -/
  current : List String := []

def Draft.add (d : Draft) : Statement → Option Draft
  | .header k => (openTable k d.root).map ({ root := ·, current := k.full })
  | .element k => (openElement k d.root).map ({ root := ·, current := k.full })
  | .entry k v =>
    (reach .implied (fun _ entries => assign k v entries) d.current .header d.root).map
      ({ d with root := · })

/-- The root table of a document. -/
def ofStatements (statements : List Statement) : Option Value :=
  (statements.foldlM Draft.add {}).map fun d => .table .header d.root

end RankedSearch.Toml
