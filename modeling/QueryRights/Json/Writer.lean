import QueryRights.Json.Basic

/-!
# Writing JSON texts

Values are written without white space, members in their order.  In strings only what must be an
escape is one: the quotation mark, the backslash and the control characters, the common ones of
these by a letter.
-/

set_option autoImplicit false

namespace QueryRights
namespace Value

/-- One character of a string as it is written. -/
def writtenChar (c : Char) : List Char :=
  if c = '"' then ['\\', '"']
  else if c = '\\' then ['\\', '\\']
  else if c.toNat = 0x8 then ['\\', 'b']
  else if c.toNat = 0xc then ['\\', 'f']
  else if c = '\n' then ['\\', 'n']
  else if c = '\r' then ['\\', 'r']
  else if c = '\t' then ['\\', 't']
  else if c.toNat < 0x20 then
    ['\\', 'u', '0', '0', Nat.digitChar (c.toNat / 16), Nat.digitChar (c.toNat % 16)]
  else [c]

/-- A text as a JSON string. -/
def writtenString (s : String) : String :=
  String.ofList ('"' :: s.toList.flatMap writtenChar ++ ['"'])

mutual

/-- The text of a value. -/
def text : Value → String
  | .null => "null"
  | .bool true => "true"
  | .bool false => "false"
  | .number n => n.text
  | .string s => writtenString s
  | .array items => "[" ++ String.intercalate "," (textsOfItems items) ++ "]"
  | .object members => "\x7b" ++ String.intercalate "," (textsOfMembers members) ++ "\x7d"

/-- The texts of the items of an array. -/
def textsOfItems : List Value → List String
  | [] => []
  | v :: rest => text v :: textsOfItems rest

/-- The texts of the members of an object. -/
def textsOfMembers : List (String × Value) → List String
  | [] => []
  | (k, v) :: rest => (writtenString k ++ ":" ++ text v) :: textsOfMembers rest

end

end Value
end QueryRights
