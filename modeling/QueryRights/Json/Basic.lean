import QueryRights.Json.Value
import QueryRights.Number.Word

/-!
# JSON texts

What a JSON text says, before it is decided what is kept of it.  A text may repeat a key, hold a
number that no double can hold, or a string that is no text (half of a surrogate pair, bytes that
are not UTF-8).  None of that matters in a part that nobody keeps, so this type has room for it,
and a part that is kept is turned into a `Value` by `Json.value?`, which refuses it.

## What is here

* `Quoted`: a string, with the text it denotes if it denotes one.
* `Json`, `Json.depth`, `Json.value?`, and `Value.json`, which says what a value is written as.
* The readers of simple parts: `Json.string?`, `Json.bool?`, `Json.integer?`, `Json.optional?`,
  `Json.list?`.
-/

set_option autoImplicit false

namespace QueryRights

/-- A string of a JSON text. -/
structure Quoted where
  /-- The text that the string denotes; none if it denotes no text. -/
  text? : Option String
  /-- Whether all its characters stand for themselves. -/
  plain : Bool
  deriving DecidableEq

namespace Quoted

/-- Whether a character must be written as an escape inside a string. -/
def escapes (c : Char) : Bool := c == '"' || c == '\\' || Nat.blt c.toNat 0x20

/-- How a text is written. -/
def ofText (s : String) : Quoted := ⟨some s, s.toList.all fun c => !escapes c⟩

end Quoted

/-- What a JSON text says. -/
inductive Json where
  | null
  | bool (b : Bool)
  /-- A number; none if it is beyond the largest double. -/
  | number (n : Option Number)
  | string (s : Quoted)
  | array (items : List Json)
  /-- The members in the order of the text, repeated keys included. -/
  | object (members : List (Quoted × Json))

namespace Json

instance : Inhabited Json := ⟨.null⟩

mutual

/-- How deep arrays and objects are nested. -/
def depth : Json → Nat
  | .array items => depthOfItems items + 1
  | .object members => depthOfMembers members + 1
  | _ => 0

def depthOfItems : List Json → Nat
  | [] => 0
  | j :: rest => max (depth j) (depthOfItems rest)

def depthOfMembers : List (Quoted × Json) → Nat
  | [] => 0
  | (_, j) :: rest => max (depth j) (depthOfMembers rest)

end

mutual

/-- The value of a part that is kept: every string in it must be a text and every number a
double at most; of members with one key the last counts, and the keys are sorted. -/
def value? : Json → Option Value
  | .null => some .null
  | .bool b => some (.bool b)
  | .number n => n.map .number
  | .string s => s.text?.map .string
  | .array items => (itemValues? items).map .array
  | .object members =>
    (memberValues? members).map fun entries =>
      .object (entries.foldl (fun sorted e => insertEntry e.1 e.2 sorted) [])

/-- The values of the items of an array. -/
def itemValues? : List Json → Option (List Value)
  | [] => some []
  | j :: rest => do
    let v ← value? j
    let vs ← itemValues? rest
    return v :: vs

/-- The keys and values of the members of an object, in their order. -/
def memberValues? : List (Quoted × Json) → Option (List (String × Value))
  | [] => some []
  | (k, j) :: rest => do
    let key ← k.text?
    let v ← value? j
    let entries ← memberValues? rest
    return (key, v) :: entries

end

/-! ## Reading simple parts -/

/-- A text. -/
def string? : Json → Option String
  | .string s => s.text?
  | _ => none

/-- A truth value. -/
def bool? : Json → Option Bool
  | .bool b => some b
  | _ => none

/-- A number written as an integer. -/
def integer? : Json → Option Int
  | .number (some (.integer n)) => some n
  | _ => none

/-- A signed integer of 64 bits. -/
def int64? (j : Json) : Option Int64 :=
  match j.integer? with
  | some n => if Word.FitsSigned n then some (Int64.ofInt n) else none
  | none => none

/-- An unsigned integer of 64 bits. -/
def uint64? (j : Json) : Option UInt64 :=
  match j.integer? with
  | some n => if Word.FitsUnsigned n then some (UInt64.ofNat n.toNat) else none
  | none => none

/-- An optional part: null where it is missing. -/
def optional? {α : Type} (f : Json → Option α) : Json → Option (Option α)
  | .null => some none
  | j => (f j).map some

/-- A list of parts. -/
def list? {α : Type} (f : Json → Option α) : Json → Option (List α)
  | .array items => items.mapM f
  | _ => none

end Json

namespace Value

mutual

/-- What a value is written as. -/
def json : Value → Json
  | .null => .null
  | .bool b => .bool b
  | .number n => .number (some n)
  | .string s => .string (.ofText s)
  | .array items => .array (jsonOfItems items)
  | .object members => .object (jsonOfMembers members)

def jsonOfItems : List Value → List Json
  | [] => []
  | v :: rest => json v :: jsonOfItems rest

def jsonOfMembers : List (String × Value) → List (Quoted × Json)
  | [] => []
  | (k, v) :: rest => (.ofText k, json v) :: jsonOfMembers rest

end

end Value
end QueryRights
