import QueryRights.Json.Value

/-!
# TOML documents

A document is a list of statements, and what it denotes is a table of items.  The items of TOML are
more than the values of JSON.  What a value cannot say is turned into something that it can, so
that a setting from a file can be kept and handed on like any other: dates and times become objects
with one member, and floats that are no finite numbers become null.

## What is here

* `Toml.Item`: the values of TOML.  A date or time is kept as its text, and a float that is no
  finite number only as being one.
* `Toml.Statement`: one line of a document: a key with its value, or the header of a table.
* `Toml.Item.value`: what is kept of an item as a JSON value.
* `Toml.Item.same`: equality of items as a comparison, from which they have decidable equality.
-/

set_option autoImplicit false

namespace QueryRights
namespace Toml

/-- A value in a TOML document. -/
inductive Item where
  | string (s : String)
  | integer (n : Int)
  /-- A float; none for the infinities and for what is not a number. -/
  | float (x : Option Double)
  | bool (b : Bool)
  /-- A date, a time or both, in the form in which it is written out. -/
  | moment (text : String)
  | array (items : List Item)
  | table (entries : List (String × Item))

/-- One statement of a document. -/
inductive Statement where
  /-- A value for a key; the path is the dotted key. -/
  | assign (path : List String) (key : String) (item : Item)
  /-- The header of a table. -/
  | table (path : List String) (key : String)
  /-- The header of one more table in an array of tables. -/
  | element (path : List String) (key : String)

/-- The key that marks a date or time among kept values. -/
def momentKey : String := "$__toml_private_datetime"

namespace Item

mutual

/-- What is kept of an item: a date or time becomes an object with one member, a float that is no
finite number becomes null, and a table has its keys sorted. -/
def value : Item → Value
  | .string s => .string s
  | .integer n => .int n
  | .float none => .null
  | .float (some x) => .number (.double x)
  | .bool b => .bool b
  | .moment text => .object [(momentKey, .string text)]
  | .array items => .array (valuesOfItems items)
  | .table entries =>
    .object ((valuesOfEntries entries).foldl (fun sorted e => insertEntry e.1 e.2 sorted) [])

def valuesOfItems : List Item → List Value
  | [] => []
  | i :: rest => value i :: valuesOfItems rest

def valuesOfEntries : List (String × Item) → List (String × Value)
  | [] => []
  | (k, i) :: rest => (k, value i) :: valuesOfEntries rest

end

mutual

/-- Items compared part by part.  Deriving does not reach through the lists in an item. -/
def same : Item → Item → Bool
  | .string s, .string t => s == t
  | .integer m, .integer n => m == n
  | .float x, .float y => x == y
  | .bool a, .bool b => a == b
  | .moment s, .moment t => s == t
  | .array xs, .array ys => sameItems xs ys
  | .table xs, .table ys => sameEntries xs ys
  | _, _ => false

def sameItems : List Item → List Item → Bool
  | [], [] => true
  | i :: xs, j :: ys => same i j && sameItems xs ys
  | _, _ => false

def sameEntries : List (String × Item) → List (String × Item) → Bool
  | [], [] => true
  | (k, i) :: xs, (l, j) :: ys => k == l && same i j && sameEntries xs ys
  | _, _ => false

end

mutual

theorem same_iff : ∀ i j : Item, same i j = true ↔ i = j
  | .string _, j | .integer _, j | .float _, j | .bool _, j | .moment _, j => by
    cases j <;> simp [same]
  | .array xs, j => by cases j <;> simp [same, sameItems_iff xs]
  | .table xs, j => by cases j <;> simp [same, sameEntries_iff xs]

theorem sameItems_iff : ∀ xs ys : List Item, sameItems xs ys = true ↔ xs = ys
  | [], ys => by cases ys <;> simp [sameItems]
  | i :: xs, ys => by cases ys <;> simp [sameItems, same_iff i, sameItems_iff xs]

theorem sameEntries_iff : ∀ xs ys : List (String × Item), sameEntries xs ys = true ↔ xs = ys
  | [], ys => by cases ys <;> simp [sameEntries]
  | (k, i) :: xs, ys => by
    cases ys <;> simp [sameEntries, same_iff i, sameEntries_iff xs, Prod.ext_iff]

end

instance : DecidableEq Item := fun i j => decidable_of_iff (same i j = true) (same_iff i j)

end Item
end Toml
end QueryRights
