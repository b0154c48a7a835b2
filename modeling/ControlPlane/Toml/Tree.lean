import ControlPlane.Table

/-!
# Trees of tables

A document builds one tree of tables from headers and dotted keys. What may still be added to a
table depends on how it came to be, so a table remembers its origin while the tree is built.
-/

namespace ControlPlane.Toml

/-- A value of a finished document. Real numbers and dates are told apart but not kept. -/
inductive Value where
  | string (text : String)
  | integer (number : Int)
  | float
  | boolean (holds : Bool)
  | date
  | array (items : List Value)
  | table (entries : List (String × Value))

instance : Inhabited Value := ⟨.date⟩

/-- How a table came to be: by its own header, on the way to the table of a header, or on the way
to the value of a dotted key. -/
inductive Origin where
  | header
  | passed
  | dotted
  deriving DecidableEq, Repr

/-- A node of a tree that is being built: a value, a table, or the tables of an array of tables
with the latest one first. -/
inductive Node where
  | value (contents : Value)
  | table (origin : Origin) (entries : List (String × Node))
  | tables (latest : List (String × Node)) (earlier : List (List (String × Node)))

/-- The longest way from the root that a key or a nested value may take. -/
def depthLimit : Nat := 80

namespace Node

/-- A table that is being built: its origin and its entries. -/
structure Open where
  origin : Origin
  entries : List (String × Node)

/-- Changes the table at the end of a path. Tables on the way are made where they are missing; a
dotted path may not pass through a table that has a header of its own, and a path that meets an
array of tables goes on in the latest one. -/
def alter (dotted : Bool) (change : Open → Option Open) : List String → Open → Option Open
  | [], here => change here
  | key :: path, here =>
    let store (node : Node) : Open := { here with entries := Table.insert key node here.entries }
    let descend (inner : Open) : Option Node :=
      (alter dotted change path inner).map fun inner => .table inner.origin inner.entries
    match Table.get? key here.entries with
    | none => (descend ⟨if dotted then .dotted else .passed, []⟩).map store
    | some (.table origin entries) =>
      if dotted ∧ origin = .header then none else (descend ⟨origin, entries⟩).map store
    | some (.tables latest earlier) =>
      (alter dotted change path ⟨.header, latest⟩).map fun inner =>
        store (.tables inner.entries earlier)
    | some (.value _) => none

/-- Adds a value to the table that a dotted key ends in, which must have been made by dotted keys
alone if the key has dots, and must not have the last part of the key yet. -/
def define (path : List String) (key : String) (contents : Value) : Open → Option Open :=
  alter true
    (fun here =>
      if (here.origin = .dotted) = (path = []) then none
      else if (Table.get? key here.entries).isSome then none
      else some { here with entries := Table.insert key (.value contents) here.entries })
    path

/-- Gives a table a header, which it may have only once and not if dotted keys made it. -/
def openTable (path : List String) (key : String) : Open → Option Open :=
  alter false
    (fun parent =>
      let put (entries : List (String × Node)) : Open :=
        { parent with entries := Table.insert key (.table .header entries) parent.entries }
      match Table.get? key parent.entries with
      | none => some (put [])
      | some (.table .passed entries) => some (put entries)
      | some _ => none)
    path

/-- Begins another table of an array of tables. -/
def openItem (path : List String) (key : String) : Open → Option Open :=
  alter false
    (fun parent =>
      let put (earlier : List (List (String × Node))) : Open :=
        { parent with entries := Table.insert key (.tables [] earlier) parent.entries }
      match Table.get? key parent.entries with
      | none => some (put [])
      | some (.tables latest earlier) => some (put (latest :: earlier))
      | some _ => none)
    path

mutual

/-- The value that a finished node stands for. -/
def finish : Node → Value
  | .value contents => contents
  | .table _ entries => .table (finishEntries entries)
  | .tables latest earlier =>
    .array ((.table (finishEntries latest) :: finishTables earlier).reverse)

/-- The values of the entries of a table. -/
def finishEntries : List (String × Node) → List (String × Value)
  | [] => []
  | (key, node) :: rest => (key, finish node) :: finishEntries rest

/-- The values of the earlier tables of an array. -/
def finishTables : List (List (String × Node)) → List Value
  | [] => []
  | entries :: rest => .table (finishEntries entries) :: finishTables rest

end

end Node

end ControlPlane.Toml
