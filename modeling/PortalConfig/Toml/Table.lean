import PortalConfig.Toml.Value

/-!
# Building tables

A document defines its tables by headers and by dotted keys, in pieces. A header opens a table that
has not been opened, and implies the tables on the way to it; a dotted key makes tables that no
header may open. What is written as a value is complete and can be extended by neither.
-/

namespace PortalConfig.Toml

/-- How a table came about. -/
inductive TableKind
  /-- Opened by a header. -/
  | header
  /-- On the way to a table opened by a header. -/
  | implied
  /-- Made by a dotted key. -/
  | dotted
deriving DecidableEq

/-- A part of a document while its tables are being built. -/
inductive Node
  /-- A complete value. -/
  | value (value : Value)
  | table (kind : TableKind) (entries : List (String × Node))
  /-- A list of tables, the latest first. -/
  | tables (items : List (List (String × Node)))

/-- The entries of a table that is being built. -/
abbrev Entries := List (String × Node)

/-- One statement of a document. -/
inductive Statement
  /-- The header `[path]`. -/
  | header (path : List String)
  /-- The header `[[path]]`. -/
  | listHeader (path : List String)
  /-- An assignment; the path leads to the table, the key is the last of the dotted keys. -/
  | assign (path : List String) (key : String) (value : Value)

/-- Changes the table at a path. Missing tables on the way are made, of kind `made`; a list of
tables leads to its latest one. Dotted keys do not lead through tables that a header opened. -/
def descend (made : TableKind) (change : TableKind → Entries → Option Entries) (kind : TableKind)
    (entries : Entries) : List String → Option Entries
  | [] => change kind entries
  | key :: rest =>
    let store (node : Node) : Entries := Members.insert entries key node
    match Members.get? entries key with
    | none => (descend made change made [] rest).map fun below => store (.table made below)
    | some (.table found below) =>
      if made = .dotted ∧ found = .header then none
      else (descend made change found below rest).map fun below => store (.table found below)
    | some (.tables (latest :: earlier)) =>
      (descend made change .header latest rest).map fun latest =>
        store (.tables (latest :: earlier))
    | some (.tables []) => none
    | some (.value _) => none

/-- Opens a table by a header. -/
def openTable (key : String) (_ : TableKind) (entries : Entries) : Option Entries :=
  match Members.get? entries key with
  | none => some (Members.insert entries key (.table .header []))
  | some (.table .implied below) => some (Members.insert entries key (.table .header below))
  | _ => none

/-- Adds a table to a list by a header. -/
def openListItem (key : String) (_ : TableKind) (entries : Entries) : Option Entries :=
  match Members.get? entries key with
  | none => some (Members.insert entries key (.tables [[]]))
  | some (.tables items) => some (Members.insert entries key (.tables ([] :: items)))
  | _ => none

/-- Sets a key that is not set. A dotted key sets it in a table made by dotted keys, a plain key in
one that is not. -/
def setKey (path : List String) (key : String) (value : Value) (kind : TableKind)
    (entries : Entries) : Option Entries :=
  if (kind == .dotted) == path.isEmpty then none
  else
    match Members.get? entries key with
    | none => some (Members.insert entries key (.value value))
    | some _ => none

/-- Assigns a value to a dotted key in a table. -/
def assign (path : List String) (key : String) (value : Value) (kind : TableKind)
    (entries : Entries) : Option Entries :=
  descend .dotted (setKey path key value) kind entries path

/-- The document so far, and the path of the table that assignments go to. -/
structure Building where
  root : Entries
  current : List String

namespace Building

/-- Nothing but the root table. -/
def empty : Building := ⟨[], []⟩

/-- Opens a table with a header. -/
def openAt (building : Building) (path : List String)
    (change : String → TableKind → Entries → Option Entries) : Option Building := do
  let key ← path.getLast?
  let root ← descend .implied (change key) .header building.root path.dropLast
  return ⟨root, path⟩

/-- Adds one statement. -/
def add (building : Building) : Statement → Option Building
  | .header path => building.openAt path openTable
  | .listHeader path => building.openAt path openListItem
  | .assign path key value =>
    (descend .implied (assign path key value) .header building.root building.current).map
      fun root => { building with root }

end Building

mutual

/-- The finished value of a part of a document. -/
def Node.finish : Node → Value
  | .value value => value
  | .table _ entries => .table (finishEntries entries)
  | .tables items => .array (finishItems items).reverse

/-- The finished entries of a table. -/
def finishEntries : List (String × Node) → List (String × Value)
  | [] => []
  | (key, node) :: rest => (key, node.finish) :: finishEntries rest

/-- The finished tables of a list. -/
def finishItems : List (List (String × Node)) → List Value
  | [] => []
  | entries :: rest => .table (finishEntries entries) :: finishItems rest

end

/-- The table that statements define. -/
def tableOf? (statements : List Statement) : Option (List (String × Value)) :=
  (statements.foldlM Building.add .empty).map fun building => finishEntries building.root

/-- The table that the assignments of an inline table define. -/
def inlineTableOf? (assignments : List Statement) : Option Value :=
  (tableOf? assignments).map .table

end PortalConfig.Toml
