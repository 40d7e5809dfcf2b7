import QueryRights.Toml.Basic

/-!
# The tables of a document

Statements name the places of their values by paths.  This module puts the values where the paths
lead, by the rules of TOML: no key is given twice, a table is opened by one header only, and a
table that came to be by dotted keys is closed to headers.

## What is here

* `Node`: a table under construction, with how each table in it came to be (`Origin`).
* `Node.alter`: changes the table at the end of a path; tables that are missing on the way come to
  be, and a path through an array of tables leads into its last one.
* `tableOfPairs?`: an inline table, from its keys and values.
* `Document.ofStatements?`: the root table of a document.
-/

set_option autoImplicit false

namespace QueryRights
namespace Toml

/-- How a table came to be. -/
inductive Origin where
  /-- By a header of its own, as an inline table, or as the root. -/
  | declared
  /-- By the header of a table inside it. -/
  | implied
  /-- By a dotted key. -/
  | dotted
  deriving DecidableEq

/-- What a key leads to while a document is put together. -/
inductive Node where
  | leaf (item : Item)
  | table (origin : Origin) (entries : List (String × Node))
  | series (elements : List (List (String × Node)))

namespace Node

/-- Changes the table at the end of a path.  Inside a table, `dotted` paths are those of dotted
keys, which must not lead into a table that is declared elsewhere; the others are those of
headers. -/
def alter (dotted : Bool)
    (change : Origin → List (String × Node) → Option (List (String × Node))) :
    List String → Origin → List (String × Node) → Option (List (String × Node))
  | [], origin, entries => change origin entries
  | k :: path, _, entries =>
    match findEntry k entries with
    | none =>
      let origin := if dotted then Origin.dotted else Origin.implied
      (alter dotted change path origin []).map fun inner =>
        insertEntry k (.table origin inner) entries
    | some (.leaf _) => none
    | some (.table origin inner) =>
      if dotted ∧ origin = .declared then none
      else (alter dotted change path origin inner).map fun inner =>
        insertEntry k (.table origin inner) entries
    | some (.series elements) =>
      match elements.getLast? with
      | none => none
      | some last =>
        (alter dotted change path .declared last).map fun last =>
          insertEntry k (.series (elements.dropLast ++ [last])) entries

/-- Gives a key its value in a table.  A table that did not come to be by the dotted key itself is
closed to it. -/
def assign (path : List String) (key : String) (item : Item) (entries : List (String × Node)) :
    Option (List (String × Node)) :=
  alter true
    (fun origin entries =>
      if decide (origin = .dotted) == path.isEmpty then none
      else match findEntry key entries with
        | none => some (insertEntry key (.leaf item) entries)
        | some _ => none)
    path .declared entries

/-- Opens a table by its header.  A table that is there already must have come to be by headers
inside it. -/
def openTable (path : List String) (key : String) (entries : List (String × Node)) :
    Option (List (String × Node)) :=
  alter false
    (fun _ entries =>
      match findEntry key entries with
      | none => some (insertEntry key (.table .declared []) entries)
      | some (.table .implied inner) => some (insertEntry key (.table .declared inner) entries)
      | some _ => none)
    path .declared entries

/-- Opens one more table of an array of tables. -/
def openElement (path : List String) (key : String) (entries : List (String × Node)) :
    Option (List (String × Node)) :=
  alter false
    (fun _ entries =>
      match findEntry key entries with
      | none => some (insertEntry key (.series [[]]) entries)
      | some (.series elements) => some (insertEntry key (.series (elements ++ [[]])) entries)
      | some _ => none)
    path .declared entries

mutual

/-- The finished value. -/
def item : Node → Item
  | .leaf i => i
  | .table _ entries => .table (itemEntries entries)
  | .series elements => .array (itemElements elements)

def itemEntries : List (String × Node) → List (String × Item)
  | [] => []
  | (k, n) :: rest => (k, item n) :: itemEntries rest

def itemElements : List (List (String × Node)) → List Item
  | [] => []
  | entries :: rest => .table (itemEntries entries) :: itemElements rest

end

end Node

/-- The table of keys and values, each key with the path of tables to it. -/
def tableOfPairs? (pairs : List ((List String × String) × Item)) :
    Option (List (String × Item)) :=
  (pairs.foldlM (fun entries pair => Node.assign pair.1.1 pair.1.2 pair.2 entries) []).map
    Node.itemEntries

namespace Document

/-- A document while its statements are read: the root table, and the path of the table that was
opened last. -/
structure State where
  root : List (String × Node)
  current : List String

/-- One more statement. -/
def step (s : State) : Statement → Option State
  | .assign path key item =>
    (Node.alter false (fun _ entries => Node.assign path key item entries)
      s.current .declared s.root).map fun root => { s with root }
  | .table path key =>
    (Node.openTable path key s.root).map fun root => ⟨root, path ++ [key]⟩
  | .element path key =>
    (Node.openElement path key s.root).map fun root => ⟨root, path ++ [key]⟩

/-- The root table that statements make up; none if they contradict each other. -/
def ofStatements? (statements : List Statement) : Option (List (String × Item)) :=
  (statements.foldlM step ⟨[], []⟩).map fun s => Node.itemEntries s.root

end Document
end Toml
end QueryRights
