import QueryRights.Toml.Quoted

/-!
# Keys of TOML

A key is a path: every dot in it leads into a table, and the last part is the key proper.  Each
part is a bare name or a string in quotation marks, in which a dot is a character like others.

## What is here

* `scanPart`: one part of a key, bare or quoted.
* `scanKey`: a key with its dots, as the path of tables to it and its last part.  Paths have a
  greatest length.
-/

set_option autoImplicit false

namespace QueryRights
namespace Toml

/-- What a key without marks is made of. -/
def isBare (c : Char) : Bool :=
  let n := c.toNat
  (Nat.ble 0x61 n && Nat.ble n 0x7a) || (Nat.ble 0x41 n && Nat.ble n 0x5a) || Text.isDigit c ||
    c == '_' || c == '-'

/-- One part of a key. -/
def scanPart : List Char → Option (String × List Char)
  | '"' :: s => (scanBasic (s.length + 1) s).map fun (cs, s) => (String.ofList cs, s)
  | '\'' :: s => (scanLiteral s).map fun (cs, s) => (String.ofList cs, s)
  | s =>
    let name := s.takeWhile isBare
    if name.isEmpty then none else some (String.ofList name, s.drop name.length)

/-- The parts of a key with dots between them, blanks allowed around each.  The first argument
bounds their number. -/
def scanParts : Nat → List Char → Option (List String × List Char)
  | 0, _ => none
  | fuel + 1, s => do
    let (part, s) ← scanPart (skipSpace s)
    match skipSpace s with
    | '.' :: s =>
      let (parts, s) ← scanParts fuel s
      return (part :: parts, s)
    | s => return ([part], s)

/-- The most parts a key may have. -/
def mostParts : Nat := 79

/-- A key: the path of tables to it, and its last part. -/
def scanKey (s : List Char) : Option ((List String × String) × List Char) := do
  let (parts, s) ← scanParts (s.length + 1) s
  if parts.length ≤ mostParts then
    match parts.getLast? with
    | some key => return ((parts.dropLast, key), s)
    | none => none
  else none

end Toml
end QueryRights
