import QueryRights.Toml.Key
import QueryRights.Toml.Moment
import QueryRights.Toml.Numeral
import QueryRights.Toml.Tables

/-!
# Reading TOML documents

The grammar of TOML 1.0.  A byte order mark in front of the document is passed over.

## What is here

* `scanItem`, `scanItems`, `scanPairs`: a value, the items of an array and the pairs of an inline
  table in front of a text.  The first argument bounds the number of calls and the second how deep
  arrays and inline tables may be nested.
* `scanStatements`: the statements of a document.
* `Document.ofText?`: the root table of a document.
-/

set_option autoImplicit false

namespace QueryRights
namespace Toml

/-- Drops blanks, line ends and comments, as they may stand inside an array.  The first argument
says whether the text begins inside a comment. -/
def skipFiller (inComment : Bool) : List Char → List Char
  | '\n' :: s => skipFiller false s
  | '\r' :: '\n' :: s => skipFiller false s
  | c :: s =>
    if inComment then (if isText c then skipFiller true s else c :: s)
    else if c = ' ' ∨ c = '\t' then skipFiller false s
    else if c = '#' then skipFiller true s
    else c :: s
  | [] => []

/-- The deepest that arrays and inline tables may be nested. -/
def deepest : Nat := 79

mutual

/-- Takes a value off the front of a text. -/
def scanItem : Nat → Nat → List Char → Option (Item × List Char)
  | 0, _, _ => none
  | fuel + 1, room, s =>
    match s with
    | '[' :: rest =>
      match room with
      | 0 => none
      | room + 1 => (scanItems fuel room rest).map fun (items, rest) => (.array items, rest)
    | '\x7b' :: rest =>
      match room with
      | 0 => none
      | room + 1 =>
        match skipSpace rest with
        | '\x7d' :: rest => some (.table [], rest)
        | s => do
          let (pairs, rest) ← scanPairs fuel room s
          let entries ← tableOfPairs? pairs
          return (.table entries, rest)
    | 't' :: 'r' :: 'u' :: 'e' :: rest => some (.bool true, rest)
    | 'f' :: 'a' :: 'l' :: 's' :: 'e' :: rest => some (.bool false, rest)
    | s =>
      match scanString s with
      | some (cs, rest) => some (.string (String.ofList cs), rest)
      | none =>
        match scanMoment s with
        | some (text, rest) => some (.moment text, rest)
        | none => scanNumber s

/-- Takes the items of an array off the front of a text, with the bracket that closes it.  A comma
may follow the last item. -/
def scanItems : Nat → Nat → List Char → Option (List Item × List Char)
  | 0, _, _ => none
  | fuel + 1, room, s =>
    match skipFiller false s with
    | ']' :: rest => some ([], rest)
    | s => do
      let (i, s) ← scanItem fuel room s
      match skipFiller false s with
      | ']' :: rest => return ([i], rest)
      | ',' :: rest =>
        let (items, rest) ← scanItems fuel room rest
        return (i :: items, rest)
      | _ => none

/-- Takes the pairs of an inline table off the front of a text, with the brace that closes it. -/
def scanPairs : Nat → Nat → List Char → Option (List ((List String × String) × Item) × List Char)
  | 0, _, _ => none
  | fuel + 1, room, s => do
    let (key, s) ← scanKey s
    let s ← skipMark '=' s
    let (i, s) ← scanItem fuel room (skipSpace s)
    match skipSpace s with
    | '\x7d' :: rest => return ([(key, i)], rest)
    | ',' :: rest =>
      let (pairs, rest) ← scanPairs fuel room rest
      return ((key, i) :: pairs, rest)
    | _ => none

end

/-- Drops what may follow a statement on its line, with the line end. -/
def skipLine (s : List Char) : Option (List Char) :=
  match skipComment (skipSpace s) with
  | [] => some []
  | s => skipLineEnd s

/-- A statement in front of a text, up to the end of its line. -/
def scanStatement (s : List Char) : Option (Statement × List Char) :=
  match s with
  | '[' :: '[' :: s => do
    let ((path, key), s) ← scanKey s
    let s ← skipMark ']' s
    let s ← skipMark ']' s
    return (.element path key, s)
  | '[' :: s => do
    let ((path, key), s) ← scanKey s
    let s ← skipMark ']' s
    return (.table path key, s)
  | s => do
    let ((path, key), s) ← scanKey s
    let s ← skipMark '=' s
    let (i, s) ← scanItem (2 * s.length + 2) deepest (skipSpace s)
    return (.assign path key i, s)

/-- The statements of a document.  The first argument bounds the number of its lines. -/
def scanStatements : Nat → List Char → Option (List Statement)
  | 0, _ => none
  | fuel + 1, s =>
    match skipSpace s with
    | [] => some []
    | c :: s =>
      if c = '#' ∨ c = '\n' ∨ c = '\r' then do
        let s ← skipLine (c :: s)
        scanStatements fuel s
      else do
        let (statement, s) ← scanStatement (c :: s)
        let s ← skipLine s
        let statements ← scanStatements fuel s
        return statement :: statements

/-- The text without a byte order mark in front. -/
def skipMarkOfOrder : List Char → List Char
  | c :: s => if c.toNat = 0xfeff then s else c :: s
  | [] => []

/-- The root table of a document. -/
def Document.ofText? (text : String) : Option (List (String × Item)) := do
  let s := skipMarkOfOrder text.toList
  let statements ← scanStatements (s.length + 1) s
  Document.ofStatements? statements

end Toml
end QueryRights
