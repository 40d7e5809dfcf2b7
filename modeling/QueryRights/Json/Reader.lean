import QueryRights.Json.Numeral

/-!
# Reading JSON texts

The grammar is that of RFC 8259, without any leniency: no byte order mark, no comments, no comma
after the last item, and only white space around the one value of a text.

## What is here

* `Piece`, `scanString`, `textOf?`: a string as it is written, and the text that it denotes.
* `Json.readValue`, `Json.readItems`, `Json.readMembers`: the value, the items of an array and the
  members of an object in front of a text.  The first argument bounds the number of calls; twice
  the length of the text and two more always suffice, since a value takes at least one symbol.
* `Json.read?`, `Json.ofText?`, `Json.ofBytes?`: a whole text.
-/

set_option autoImplicit false

namespace QueryRights

/-! ## Strings -/

/-- One piece of a string as it is written. -/
inductive Piece where
  /-- A character that stands for itself. -/
  | plain (c : Char)
  /-- A character written as a backslash and a letter. -/
  | escaped (c : Char)
  /-- A 16-bit unit written in hexadecimal. -/
  | unit (u : Nat)
  /-- A byte that belongs to no character. -/
  | stray
  deriving DecidableEq

namespace Piece

/-- The character that a letter stands for after a backslash. -/
def ofLetter? (c : Char) : Option Char :=
  if c = '"' ∨ c = '\\' ∨ c = '/' then some c
  else if c = 'b' then some (Char.ofNat 0x8)
  else if c = 'f' then some (Char.ofNat 0xc)
  else if c = 'n' then some '\n'
  else if c = 'r' then some '\r'
  else if c = 't' then some '\t'
  else none

/-- The number that four hexadecimal digits denote. -/
def ofHex? (a b c d : Char) : Option Nat := do
  let a ← Text.digitValue? 16 a
  let b ← Text.digitValue? 16 b
  let c ← Text.digitValue? 16 c
  let d ← Text.digitValue? 16 d
  return ((a * 16 + b) * 16 + c) * 16 + d

/-- The pieces of a string after its opening mark, and what follows the closing mark. -/
def scanString : List Symbol → Option (List Piece × List Symbol)
  | [] => none
  | .char '"' :: rest => some ([], rest)
  | .char '\\' :: .char 'u' :: .char a :: .char b :: .char c :: .char d :: rest => do
    let u ← ofHex? a b c d
    let (ps, rest) ← scanString rest
    return (.unit u :: ps, rest)
  | .char '\\' :: .char c :: rest => do
    let e ← ofLetter? c
    let (ps, rest) ← scanString rest
    return (.escaped e :: ps, rest)
  | .char c :: rest =>
    if c = '\\' ∨ c.toNat < 0x20 then none
    else do
      let (ps, rest) ← scanString rest
      return (.plain c :: ps, rest)
  | .stray _ :: rest => do
    let (ps, rest) ← scanString rest
    return (.stray :: ps, rest)

/-- Whether a unit is the first half of a surrogate pair. -/
def isHigh (u : Nat) : Bool := Nat.ble 0xd800 u && Nat.ble u 0xdbff

/-- Whether a unit is the second half of a surrogate pair. -/
def isLow (u : Nat) : Bool := Nat.ble 0xdc00 u && Nat.ble u 0xdfff

/-- The text that pieces denote: units count alone, or in surrogate pairs; half a pair and stray
bytes denote nothing. -/
def textOf? : List Piece → Option (List Char)
  | [] => some []
  | .plain c :: rest => (textOf? rest).map (c :: ·)
  | .escaped c :: rest => (textOf? rest).map (c :: ·)
  | .unit u :: rest =>
    if isHigh u then
      match rest with
      | .unit v :: rest =>
        if isLow v then
          (textOf? rest).map (Char.ofNat (0x10000 + (u - 0xd800) * 0x400 + (v - 0xdc00)) :: ·)
        else none
      | _ => none
    else if isLow u then none
    else (textOf? rest).map (Char.ofNat u :: ·)
  | .stray :: _ => none

/-- Whether a piece stands for itself. -/
def isPlain : Piece → Bool
  | .plain _ => true
  | _ => false

/-- The string that pieces make up. -/
def quoted (pieces : List Piece) : Quoted :=
  ⟨(textOf? pieces).map String.ofList, pieces.all isPlain⟩

end Piece

/-! ## Values -/

namespace Json

/-- The text without white space in front: spaces, tabs and line ends. -/
def skipSpace : List Symbol → List Symbol
  | .char c :: rest =>
    if c = ' ' ∨ c = '\t' ∨ c = '\n' ∨ c = '\r' then skipSpace rest else .char c :: rest
  | s => s

/-- Takes a string off the front of a text. -/
def readString : List Symbol → Option (Quoted × List Symbol)
  | .char '"' :: rest => (Piece.scanString rest).map fun (ps, rest) => (Piece.quoted ps, rest)
  | _ => none

mutual

/-- Takes a value off the front of a text. -/
def readValue : Nat → List Symbol → Option (Json × List Symbol)
  | 0, _ => none
  | fuel + 1, s =>
    match skipSpace s with
    | .char 'n' :: .char 'u' :: .char 'l' :: .char 'l' :: rest => some (.null, rest)
    | .char 't' :: .char 'r' :: .char 'u' :: .char 'e' :: rest => some (.bool true, rest)
    | .char 'f' :: .char 'a' :: .char 'l' :: .char 's' :: .char 'e' :: rest =>
      some (.bool false, rest)
    | .char '"' :: rest =>
      (Piece.scanString rest).map fun (ps, rest) => (.string (Piece.quoted ps), rest)
    | .char '[' :: rest =>
      match skipSpace rest with
      | .char ']' :: rest => some (.array [], rest)
      | s => (readItems fuel s).map fun (items, rest) => (.array items, rest)
    | .char '\x7b' :: rest =>
      match skipSpace rest with
      | .char '\x7d' :: rest => some (.object [], rest)
      | s => (readMembers fuel s).map fun (members, rest) => (.object members, rest)
    | s => (Numeral.scan s).map fun (n, rest) => (.number n.number?, rest)

/-- Takes the items of an array off the front of a text, with the bracket that closes it. -/
def readItems : Nat → List Symbol → Option (List Json × List Symbol)
  | 0, _ => none
  | fuel + 1, s => do
    let (j, s) ← readValue fuel s
    match skipSpace s with
    | .char ']' :: rest => return ([j], rest)
    | .char ',' :: rest =>
      let (items, rest) ← readItems fuel rest
      return (j :: items, rest)
    | _ => none

/-- Takes the members of an object off the front of a text, with the brace that closes it. -/
def readMembers : Nat → List Symbol → Option (List (Quoted × Json) × List Symbol)
  | 0, _ => none
  | fuel + 1, s => do
    let (key, s) ← readString (skipSpace s)
    match skipSpace s with
    | .char ':' :: s =>
      let (j, s) ← readValue fuel s
      match skipSpace s with
      | .char '\x7d' :: rest => return ([(key, j)], rest)
      | .char ',' :: rest =>
        let (members, rest) ← readMembers fuel rest
        return ((key, j) :: members, rest)
      | _ => none
    | _ => none

end

/-- What a text of symbols says, if it is JSON. -/
def read? (s : List Symbol) : Option Json :=
  match readValue (2 * s.length + 2) s with
  | some (j, rest) => if (skipSpace rest).isEmpty then some j else none
  | none => none

/-- What a text says, if it is JSON. -/
def ofText? (s : String) : Option Json := read? (Symbol.ofText s)

/-- What bytes say, if they are JSON. -/
def ofBytes? (bytes : ByteArray) : Option Json := read? (Symbol.ofBytes bytes)

end Json
end QueryRights
