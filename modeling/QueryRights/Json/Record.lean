import QueryRights.Json.Basic

/-!
# Records in JSON texts

A record is written as an object with one member for each field, or as an array of its fields in
their order.  Fields may be missing; what that means is for the reader of the record to say.  The
tables of a configuration file are records too, so what belongs to objects alone is said for
entries of any kind.

## What is here

* `Shape`: the fields of a record in their order, each with the other names it may be given by.
* `Record.ofEntries?`: the fields among entries.  Entries that are no field are passed over, and a
  field given twice (under any of its names) is refused.
* `Record.ofJson?`: the fields that a JSON text gives; in an array, fields may be missing only at
  the end.
* `Record.field?` and `Record.required?`: one field, with or without a value for its absence.
-/

set_option autoImplicit false

namespace QueryRights

/-- The fields of a record in their order, each with its other names. -/
structure Shape where
  fields : List (String × List String)

namespace Shape

/-- A shape whose fields have one name each. -/
def ofNames (names : List String) : Shape := ⟨names.map fun n => (n, [])⟩

/-- The name of the field that a key stands for. -/
def fieldOf? (s : Shape) (key : String) : Option String :=
  (s.fields.find? fun f => decide (f.1 = key) || f.2.contains key).map (·.1)

end Shape

/-- What is given for the fields of a record, by their names. -/
abbrev Record (α : Type) := List (String × α)

namespace Record

variable {α : Type}

/-- The keys of an object as texts; none if one of them is no text. -/
def keyed? : List (Quoted × Json) → Option (List (String × Json))
  | [] => some []
  | (k, j) :: rest => do
    let key ← k.text?
    let entries ← keyed? rest
    return (key, j) :: entries

/-- The entries that are fields, under the names of the fields. -/
def known (shape : Shape) (entries : List (String × α)) : Record α :=
  entries.filterMap fun e => (shape.fieldOf? e.1).map fun name => (name, e.2)

/-- Whether no field is given twice. -/
def distinct : Record α → Bool
  | [] => true
  | (name, _) :: rest => !(rest.any fun e => decide (e.1 = name)) && distinct rest

/-- The fields among entries, unless one is given twice. -/
def ofEntries? (shape : Shape) (entries : List (String × α)) : Option (Record α) :=
  let record := known shape entries
  if distinct record then some record else none

/-- The fields that a JSON text gives. -/
def ofJson? (shape : Shape) : Json → Option (Record Json)
  | .object members => do
    let entries ← keyed? members
    ofEntries? shape entries
  | .array items =>
    if items.length ≤ shape.fields.length then
      some ((shape.fields.map (·.1)).zip items)
    else none
  | _ => none

/-- What is given for a field. -/
def get? (r : Record α) (name : String) : Option α := findEntry name r

/-- A field with a value for the case that it is missing. -/
def field? {β : Type} (r : Record α) (name : String) (read : α → Option β) (absent : β) :
    Option β :=
  match r.get? name with
  | none => some absent
  | some j => read j

/-- A field that must be given. -/
def required? {β : Type} (r : Record α) (name : String) (read : α → Option β) : Option β :=
  match r.get? name with
  | none => none
  | some j => read j

end Record
end QueryRights
