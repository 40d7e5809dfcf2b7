import QueryRights.Text.Digits
import QueryRights.Toml.Blank

/-!
# Strings of TOML

Each function takes a string off the front of a text, and gives none where the text does not begin
with one; what follows is for the caller to judge.

## What is here

* `scanEscape`: what a backslash and the letters after it stand for.
* `scanBasic`, `scanLiteral`: strings of one line.
* `scanLong`, `scanLines`: strings of several lines.
* `scanString`: a string of any of the four kinds.
-/

set_option autoImplicit false

namespace QueryRights
namespace Toml

/-- The character with the code point that hexadecimal digits denote, if it is one. -/
def charOfHex? (digits : List Char) : Option Char :=
  if digits.all fun c => (Text.digitValue? 16 c).isSome then
    let n := Text.valueFrom 16 0 digits
    if h : n.isValidChar then some (Char.ofNatAux n h) else none
  else none

/-- The character that a letter stands for after a backslash. -/
def ofLetter? (c : Char) : Option Char :=
  if c = '"' ∨ c = '\\' then some c
  else if c = 'b' then some (Char.ofNat 0x8)
  else if c = 'f' then some (Char.ofNat 0xc)
  else if c = 'n' then some '\n'
  else if c = 'r' then some '\r'
  else if c = 't' then some '\t'
  else none

/-- The character that an escape stands for, after its backslash. -/
def scanEscape : List Char → Option (Char × List Char)
  | 'u' :: s => if s.length < 4 then none else (charOfHex? (s.take 4)).map fun c => (c, s.drop 4)
  | 'U' :: s => if s.length < 8 then none else (charOfHex? (s.take 8)).map fun c => (c, s.drop 8)
  | c :: s => (ofLetter? c).map fun c => (c, s)
  | [] => none

/-- A basic string after its opening mark.  The first argument bounds its length. -/
def scanBasic : Nat → List Char → Option (List Char × List Char)
  | 0, _ => none
  | fuel + 1, s =>
    match s with
    | '"' :: s => some ([], s)
    | '\\' :: s => do
      let (c, s) ← scanEscape s
      let (cs, s) ← scanBasic fuel s
      return (c :: cs, s)
    | c :: s =>
      if isText c then do
        let (cs, s) ← scanBasic fuel s
        return (c :: cs, s)
      else none
    | [] => none

/-- A literal string after its opening mark. -/
def scanLiteral : List Char → Option (List Char × List Char)
  | '\'' :: s => some ([], s)
  | c :: s =>
    if isText c then do
      let (cs, s) ← scanLiteral s
      return (c :: cs, s)
    else none
  | [] => none

/-- How many times the mark stands in front of a text. -/
def countMarks (mark : Char) (s : List Char) : Nat := (s.takeWhile (· == mark)).length

/-- A string of several lines after its opening marks, up to the three marks that close it.  One
or two marks belong to the string, also right before the closing ones.  In a basic string a
backslash before a line end drops all blanks up to the next other character.  The second argument
bounds its length. -/
def scanLong (mark : Char) : Nat → List Char → Option (List Char × List Char)
  | 0, _ => none
  | fuel + 1, s =>
    match s with
    | [] => none
    | c :: rest =>
      if c = mark then
        let marks := countMarks mark s
        if marks < 3 then do
          let (cs, s) ← scanLong mark fuel (s.drop marks)
          return (List.replicate marks mark ++ cs, s)
        else if marks ≤ 5 then some (List.replicate (marks - 3) mark, s.drop marks)
        else none
      else if c = '\\' ∧ mark = '"' then
        match skipLineEnd (skipSpace rest) with
        | some s => scanLong mark fuel (skipBlank s)
        | none => do
          let (c, s) ← scanEscape rest
          let (cs, s) ← scanLong mark fuel s
          return (c :: cs, s)
      else match skipLineEnd s with
        | some s => do
          let (cs, s) ← scanLong mark fuel s
          return ('\n' :: cs, s)
        | none =>
          if isText c then do
            let (cs, s) ← scanLong mark fuel rest
            return (c :: cs, s)
          else none

/-- A string of several lines after its opening marks; a line end right after them is dropped. -/
def scanLines (mark : Char) (s : List Char) : Option (List Char × List Char) :=
  let s := (skipLineEnd s).getD s
  scanLong mark (s.length + 1) s

/-- A string of any of the four kinds. -/
def scanString : List Char → Option (List Char × List Char)
  | '"' :: '"' :: '"' :: s => scanLines '"' s
  | '"' :: s => scanBasic (s.length + 1) s
  | '\'' :: '\'' :: '\'' :: s => scanLines '\'' s
  | '\'' :: s => scanLiteral s
  | _ => none

end Toml
end QueryRights
