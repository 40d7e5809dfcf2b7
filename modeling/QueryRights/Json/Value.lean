import QueryRights.Number.Shortest
import QueryRights.Table

/-!
# JSON values

The values that this library keeps and writes.  A value is what remains of a JSON text once it
has been decided what the text means: integers of 64 bits are exact, any other number is a double,
strings are texts, and an object that was read has its keys sorted and none twice.

## What is here

* `Number`, `Value`, and short names for the values that entities are written as.
* `Value.same`: equality of values, in which the order of members counts (they are sorted) and the
  two zeros are the same number.
-/

set_option autoImplicit false

namespace QueryRights

/-- A number: an integer, or a double for what no 64-bit integer holds. -/
inductive Number where
  | integer (n : Int)
  | double (x : Double)
  deriving DecidableEq

namespace Number

/-- Equality as written numbers: an integer and a double are never the same. -/
def same : Number → Number → Bool
  | .integer m, .integer n => decide (m = n)
  | .double x, .double y => x.same y
  | _, _ => false

/-- The text of a number. -/
def text : Number → String
  | .integer n => toString n
  | .double x => x.text .json

end Number

/-- A JSON value. -/
inductive Value where
  | null
  | bool (b : Bool)
  | number (n : Number)
  | string (s : String)
  | array (items : List Value)
  | object (members : List (String × Value))

namespace Value

instance : Inhabited Value := ⟨.null⟩

/-- An integer as a value. -/
def int (n : Int) : Value := .number (.integer n)

/-- An optional part, written as null when it is missing. -/
def optional {α : Type} (f : α → Value) : Option α → Value
  | none => .null
  | some a => f a

/-- A list of parts. -/
def list {α : Type} (f : α → Value) (items : List α) : Value := .array (items.map f)

mutual

/-- Equality of values. -/
def same : Value → Value → Bool
  | .null, .null => true
  | .bool a, .bool b => a == b
  | .number m, .number n => m.same n
  | .string s, .string t => decide (s = t)
  | .array xs, .array ys => sameItems xs ys
  | .object xs, .object ys => sameMembers xs ys
  | _, _ => false

/-- Equality of arrays, item by item. -/
def sameItems : List Value → List Value → Bool
  | [], [] => true
  | x :: xs, y :: ys => same x y && sameItems xs ys
  | _, _ => false

/-- Equality of sorted objects, member by member. -/
def sameMembers : List (String × Value) → List (String × Value) → Bool
  | [], [] => true
  | (j, x) :: xs, (k, y) :: ys => decide (j = k) && same x y && sameMembers xs ys
  | _, _ => false

end

instance : BEq Value := ⟨same⟩

end Value
end QueryRights
