/-!
# Bytes as symbols

Text arrives as bytes.  Where the bytes are UTF-8 they stand for characters; where they are not,
a reader may still have to step over them (a string that nobody keeps may hold anything).  A
`Symbol` is what a reader sees at one place: a character, or a byte that is part of none.

## What is here

* `Symbol.ofBytes`: the symbols of a byte string, from left to right; a byte that starts no
  character is stepped over alone.
* `Symbol.ofText`: the symbols of a text, which are its characters.
-/

set_option autoImplicit false

namespace QueryRights

/-- What a reader of bytes sees at one place. -/
inductive Symbol where
  /-- A character. -/
  | char (c : Char)
  /-- A byte that belongs to no character. -/
  | stray (b : UInt8)
  deriving DecidableEq

namespace Symbol

/-- The symbols of a byte string from a position on. -/
def ofBytesFrom (bytes : ByteArray) (i : Nat) : List Symbol :=
  if h : i < bytes.size then
    match bytes.utf8DecodeChar? i with
    | some c => .char c :: ofBytesFrom bytes (i + c.utf8Size)
    | none => .stray bytes[i] :: ofBytesFrom bytes (i + 1)
  else []
termination_by bytes.size - i
decreasing_by
  · have := c.utf8Size_pos; omega
  · omega

/-- The symbols of a byte string. -/
def ofBytes (bytes : ByteArray) : List Symbol := ofBytesFrom bytes 0

/-- The symbols of a text. -/
def ofText (s : String) : List Symbol := s.toList.map .char

end Symbol
end QueryRights
