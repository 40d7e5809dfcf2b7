/-!
# What separates the parts of a TOML document

## What is here

* `skipSpace`, `skipBlank`: blanks within a line, and across lines.
* `skipLineEnd`, `skipComment`.
* `isText`: the characters that comments and strings may hold.
-/

set_option autoImplicit false

namespace QueryRights
namespace Toml

/-- Drops spaces and tabs. -/
def skipSpace (s : List Char) : List Char := s.dropWhile fun c => c == ' ' || c == '\t'

/-- Drops one line end. -/
def skipLineEnd : List Char → Option (List Char)
  | '\n' :: s => some s
  | '\r' :: '\n' :: s => some s
  | _ => none

/-- What may stand in a comment or a string besides letters with a meaning there: tabs, and every
character that is no control character. -/
def isText (c : Char) : Bool := c == '\t' || (Nat.ble 0x20 c.toNat && c.toNat != 0x7f)

/-- Drops a comment if there is one, up to the end of its line. -/
def skipComment : List Char → List Char
  | '#' :: s => s.dropWhile isText
  | s => s

/-- Drops spaces, tabs and line ends. -/
def skipBlank : List Char → List Char
  | '\r' :: '\n' :: s => skipBlank s
  | c :: s => if c = ' ' ∨ c = '\t' ∨ c = '\n' then skipBlank s else c :: s
  | [] => []

end Toml
end QueryRights
