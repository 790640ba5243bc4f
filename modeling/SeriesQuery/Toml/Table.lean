import SeriesQuery.Json.Document

/-!
# Tables of TOML

A table is defined once: by its header, or by the first of the dotted keys that go through it. A
header for a longer path implies the tables on its way, and these may have a header of their own
later; a dotted key goes only through tables that dotted keys have made. Paths through an array of
tables go through its last table, and values are closed.
-/

namespace SeriesQuery.Toml

/-- How a table came about. -/
inductive Origin where
  /-- By its own header. -/
  | header
  /-- By the header of a longer path. -/
  | implied
  /-- By a dotted key. -/
  | dotted
  deriving DecidableEq

/-- What a key stands for. -/
inductive Node where
  /-- A value. -/
  | value (d : Document)
  /-- A table. -/
  | table (origin : Origin) (entries : List (String × Node))
  /-- An array of tables, last table first. -/
  | tables (items : List (List (String × Node)))

/-- The entries of a table. -/
abbrev Entries := List (String × Node)

/-- The entries with one key bound. -/
def Entries.put (entries : Entries) (key : String) (node : Node) : Entries :=
  entries.filter (fun (k, _) => k != key) ++ [(key, node)]

/-- Changes the table at the end of a path by `change`, making the tables on the way; nothing if the
path may not be taken. -/
def changeAt (dotted : Bool) (change : Origin → Entries → Option Entries) :
    (path : List String) → Origin → Entries → Option Entries
  | [], origin, entries => change origin entries
  | key :: path, _, entries =>
    match entries.lookup key with
    | none =>
      let origin := if dotted then .dotted else .implied
      (changeAt dotted change path origin []).map fun es => entries.put key (.table origin es)
    | some (.value _) => none
    | some (.table origin es) =>
      if dotted && origin == .header then none
      else
        (changeAt dotted change path origin es).map fun es => entries.put key (.table origin es)
    | some (.tables []) => none
    | some (.tables (last :: earlier)) =>
      (changeAt dotted change path .header last).map fun es =>
        entries.put key (.tables (es :: earlier))

/-- Binds a key of a table to a value, at the end of a dotted key. -/
def bindValue (through : List String) (key : String) (d : Document) (origin : Origin)
    (entries : Entries) : Option Entries :=
  let bind (origin : Origin) (entries : Entries) : Option Entries :=
    if (origin == .dotted) == through.isEmpty || (entries.lookup key).isSome then none
    else some (entries.put key (.value d))
  changeAt true bind through origin entries

/-- Opens a table by its header. -/
def openTable (key : String) (_ : Origin) (entries : Entries) : Option Entries :=
  match entries.lookup key with
  | none => some (entries.put key (.table .header []))
  | some (.table .implied es) => some (entries.put key (.table .header es))
  | _ => none

/-- Opens a further table of an array by its header. -/
def openItem (key : String) (_ : Origin) (entries : Entries) : Option Entries :=
  match entries.lookup key with
  | none => some (entries.put key (.tables [[]]))
  | some (.tables items) => some (entries.put key (.tables ([] :: items)))
  | _ => none

mutual
/-- The document of a node. -/
def Node.toDocument : Node → Document
  | .value d => d
  | .table _ entries => .obj (toEntries entries) true
  | .tables items => .arr (toItems [] items) true

/-- The entries of a table. -/
def toEntries : List (String × Node) → List (Option String × Document)
  | [] => []
  | (key, n) :: rest => (some key, n.toDocument) :: toEntries rest

/-- The tables of an array, first table first, before `seen`. -/
def toItems (seen : List Document) : List (List (String × Node)) → List Document
  | [] => seen
  | entries :: rest => toItems (.obj (toEntries entries) true :: seen) rest
end

end SeriesQuery.Toml
