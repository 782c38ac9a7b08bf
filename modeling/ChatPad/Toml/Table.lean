import ChatPad.Toml.Value

/-!
# Tables in the making

The lines of a document add up to one table.  What a later line may add depends on how a table came
about: by a header of its own, as a step on the way of a longer header, or as a step on the way of a
dotted key.  Each table has at most one header, and dotted keys only extend tables that dotted keys
have made, or tables that are no more than a step on the way of a header.
-/

namespace ChatPad.Toml

/-- How a table came about. -/
inductive Origin where
  | header
  | step
  | dots
deriving DecidableEq, Repr

/-- What a key stands for while a document is read. -/
inductive Node where
  | value (value : Value)
  | table (origin : Origin) (entries : List (String × Node))
  | tables (elements : List (List (String × Node)))

/-- The entries of a table in the making. -/
abbrev Table := List (String × Node)

/-- A key, the names that lead to it, and its value. -/
structure Pair where
  path : List String
  key : String
  value : Value

namespace Table

/-- What a key stands for. -/
def find? (table : Table) (key : String) : Option Node := table.lookup key

/-- Makes a key stand for something else, or adds it at the end. -/
def set (table : Table) (key : String) (node : Node) : Table :=
  match table with
  | [] => [(key, node)]
  | (k, old) :: rest => if k = key then (k, node) :: rest else (k, old) :: set rest key node

/-- Changes the table at the end of a path, where the elements of an array of tables are reached
through the last one.  Tables that are missing on the way are made. -/
def changeAt (dotted : Bool) (change : Origin → Table → Option Table) :
    List String → Origin → Table → Option Table
  | [], origin, table => change origin table
  | key :: path, _, table =>
    match table.find? key with
    | none => do
      let made : Origin := if dotted then .dots else .step
      let inner ← changeAt dotted change path made []
      some (table.set key (.table made inner))
    | some (.value _) => none
    | some (.table origin inner) =>
      if dotted && origin = .header then none
      else do
        let inner ← changeAt dotted change path origin inner
        some (table.set key (.table origin inner))
    | some (.tables elements) => do
      let last ← elements.getLast?
      let last ← changeAt dotted change path .header last
      some (table.set key (.tables (elements.dropLast ++ [last])))

/-- Adds a pair.  Its key may not stand for anything yet, and a path has to end at a table that
dotted keys have made. -/
def add (table : Table) (pair : Pair) : Option Table :=
  changeAt true (fun origin inner =>
    if (origin == .dots) == pair.path.isEmpty then none
    else if (inner.find? pair.key).isSome then none
    else some (inner.set pair.key (.value pair.value))) pair.path .header table

/-- Adds pairs. -/
def addAll (table : Table) (pairs : List Pair) : Option Table := pairs.foldlM add table

/-- The table that pairs add up to. -/
def ofPairs (pairs : List Pair) : Option Table := addAll [] pairs

/-- Gives a table its header and the pairs below it. -/
def addSection (table : Table) (path : List String) (key : String) (pairs : List Pair) :
    Option Table :=
  changeAt false (fun _ parent => do
    let before ← match parent.find? key with
      | none => some []
      | some (.table .step inner) => some inner
      | some _ => none
    some (parent.set key (.table .header (← addAll before pairs)))) path .header table

/-- Adds an element with its pairs to an array of tables. -/
def addElement (table : Table) (path : List String) (key : String) (pairs : List Pair) :
    Option Table :=
  changeAt false (fun _ parent => do
    let before ← match parent.find? key with
      | none => some []
      | some (.tables elements) => some elements
      | some _ => none
    some (parent.set key (.tables (before ++ [← ofPairs pairs])))) path .header table

end Table

mutual

/-- The value that a node has become. -/
def Node.finish : Node → Value
  | .value value => value
  | .table _ entries => .table (Table.finish entries)
  | .tables elements => .array (finishElements elements)

/-- The entries that a table has got. -/
def Table.finish : List (String × Node) → List (String × Value)
  | [] => []
  | (key, node) :: rest => (key, node.finish) :: Table.finish rest

/-- The values that the elements of an array of tables have become. -/
def finishElements : List (List (String × Node)) → List Value
  | [] => []
  | table :: rest => .table (Table.finish table) :: finishElements rest

end

end ChatPad.Toml
