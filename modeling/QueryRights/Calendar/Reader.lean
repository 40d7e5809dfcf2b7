import QueryRights.Calendar.Date

/-!
# Reading dates

A date is written as year, month and day, with hyphens between them or without any; the year has
four digits, or a sign and six.  A time of day, an offset from universal time and annotations in
brackets may follow.  They are checked and dropped, except that a date given in universal time
(offset `Z`) is refused, since it is a different day in different places.

## What is here

* `Date.scan`: year, month and day in front of a text.
* `skipTime`, `skipOffset`, `skipAnnotations`: what may follow; each gives the rest of the text.
* `Date.ofText?`: the date that a whole text denotes.
-/

set_option autoImplicit false

namespace QueryRights

namespace Calendar

/-- Takes a number of exactly `n` digits off the front of a text. -/
def scanNumber (n : Nat) (s : List Char) : Option (Nat × List Char) :=
  let ds := s.take n
  if ds.length = n ∧ ds.all Text.isDigit then some (Text.valueOf ds, s.drop n) else none

/-- Takes a number of two digits and at most `limit` off the front of a text. -/
def scanTwo (limit : Nat) (s : List Char) : Option (Nat × List Char) := do
  let (n, rest) ← scanNumber 2 s
  if n ≤ limit then return (n, rest) else none

/-- Takes a year off the front of a text.  Year zero has no minus sign. -/
def scanYear : List Char → Option (Int × List Char)
  | '+' :: s => do
    let (n, rest) ← scanNumber 6 s
    return ((n : Int), rest)
  | '-' :: s => do
    let (n, rest) ← scanNumber 6 s
    if n = 0 then none else return (-(n : Int), rest)
  | s => do
    let (n, rest) ← scanNumber 4 s
    return ((n : Int), rest)

/-- Takes the separator between two parts off the front of a text: a hyphen in the extended form,
nothing in the compact one. -/
def skipHyphen (extended : Bool) : List Char → Option (List Char)
  | '-' :: s => if extended then some s else none
  | s => if extended then none else some s

/-- Takes year, month and day off the front of a text. -/
def scanDate (s : List Char) : Option (Date × List Char) := do
  let (year, s) ← scanYear s
  let extended := s.head? == some '-'
  let s ← skipHyphen extended s
  let (month, s) ← scanNumber 2 s
  let s ← skipHyphen extended s
  let (day, s) ← scanNumber 2 s
  let d ← Date.ofParts? year month day
  return (d, s)

/-- Whether another part of a time follows: after a colon in the extended form, at once in the
compact one.  Gives the text after the colon. -/
def nextPart? (extended : Bool) : List Char → Option (List Char)
  | c :: s =>
    if extended then (if c = ':' then some s else none)
    else match s with
      | d :: _ => if Text.isDigit c && Text.isDigit d then some (c :: s) else none
      | [] => none
  | [] => none

/-- Drops a fraction of a second: a point or a comma, and one to nine digits. -/
def skipFraction : List Char → Option (List Char)
  | c :: s =>
    if c = '.' ∨ c = ',' then
      let ds := s.takeWhile Text.isDigit
      if ds.isEmpty then none else some (s.drop (min ds.length 9))
    else some (c :: s)
  | [] => some []

/-- Drops minutes, seconds and a fraction after the hours, as far as they are given. -/
def skipAfterHours (lastSecond : Nat) (s : List Char) : Option (List Char) :=
  let extended := s.head? == some ':'
  match nextPart? extended s with
  | none => some s
  | some s => do
    let (_, s) ← scanTwo 59 s
    match nextPart? extended s with
    | none => return s
    | some s =>
      let (_, s) ← scanTwo lastSecond s
      skipFraction s

/-- Drops a time of day; a leap second may be sixty. -/
def skipTime (s : List Char) : Option (List Char) := do
  let (_, s) ← scanTwo 23 s
  skipAfterHours 60 s

/-- Drops a numeric offset if there is one; universal time is refused. -/
def skipOffset : List Char → Option (List Char)
  | c :: s =>
    if c = 'Z' ∨ c = 'z' then none
    else if c = '+' ∨ c = '-' then do
      let (_, s) ← scanTwo 25 s
      skipAfterHours 59 s
    else some (c :: s)
  | [] => some []

/-! ## Annotations -/

/-- Lower-case letters, which the keys of annotations are made of. -/
def isLower (c : Char) : Bool := Nat.ble 0x61 c.toNat && Nat.ble c.toNat 0x7a

/-- Letters of ASCII. -/
def isLetter (c : Char) : Bool := isLower c || (Nat.ble 0x41 c.toNat && Nat.ble c.toNat 0x5a)

/-- How the name of a time zone, or a part of it after a slash, may begin. -/
def startsZone (c : Char) : Bool := isLetter c || c == '_' || c == '.'

/-- How the name of a time zone may go on. -/
def continuesZone (c : Char) : Bool := startsZone c || Text.isDigit c || c == '+' || c == '-'

/-- How the key of an annotation may go on. -/
def continuesKey (c : Char) : Bool := isLower c || c == '_' || c == '-' || Text.isDigit c

/-- What values of annotations are made of. -/
def inValue (c : Char) : Bool := isLetter c || Text.isDigit c

/-- Drops the closing bracket. -/
def skipClose : List Char → Option (List Char)
  | ']' :: s => some s
  | _ => none

/-- Drops the name of a time zone.  The first argument bounds the number of its parts. -/
def skipZone : Nat → List Char → Option (List Char)
  | 0, _ => none
  | fuel + 1, s =>
    match s with
    | c :: s =>
      if startsZone c then
        match s.dropWhile continuesZone with
        | '/' :: s => skipZone fuel s
        | s => some s
      else none
    | [] => none

/-- Drops the offset of a time zone annotation, after its sign: hours, and minutes if given. -/
def skipZoneOffset (s : List Char) : Option (List Char) := do
  let (_, s) ← scanTwo 25 s
  match nextPart? (s.head? == some ':') s with
  | none => return s
  | some s =>
    let (_, s) ← scanTwo 59 s
    return s

/-- Drops the time zone annotation if there is one.  What turns out to be a key is left alone. -/
def skipZoneAnnotation (text : List Char) : Option (List Char) :=
  match text with
  | '[' :: s =>
    let s := match s with
      | '!' :: s => s
      | s => s
    match s with
    | c :: rest =>
      if c = '+' ∨ c = '-' then do
        let s ← skipZoneOffset rest
        skipClose s
      else do
        let s ← skipZone (s.length + 1) s
        if s.head? == some '=' then return text else skipClose s
    | [] => none
  | s => some s

/-- Drops the values of an annotation, with hyphens between them.  The first argument bounds
their number. -/
def skipValues : Nat → List Char → Option (List Char)
  | 0, _ => none
  | fuel + 1, s =>
    if (s.takeWhile inValue).isEmpty then none
    else match s.dropWhile inValue with
      | '-' :: s => skipValues fuel s
      | s => some s

/-- Drops all other annotations, keys with values.  None of their keys is known, so one that is
marked as critical is refused.  The first argument bounds their number. -/
def skipAnnotations : Nat → List Char → Option (List Char)
  | 0, s => some s
  | fuel + 1, s =>
    match s with
    | '[' :: c :: s =>
      if isLower c || c == '_' then
        match s.dropWhile continuesKey with
        | '=' :: s => do
          let s ← skipValues (s.length + 1) s
          let s ← skipClose s
          skipAnnotations fuel s
        | _ => none
      else none
    | s => some s

end Calendar

namespace Date

open Calendar

/-- The date that a text denotes. -/
def ofText? (text : String) : Option Date := do
  let (d, s) ← scanDate text.toList
  let s ← match s with
    | c :: rest =>
      if c = 'T' ∨ c = 't' ∨ c = ' ' then do
        let s ← skipTime rest
        skipOffset s
      else some (c :: rest)
    | [] => some []
  let s ← skipZoneAnnotation s
  let s ← skipAnnotations (s.length + 1) s
  if s.isEmpty then some d else none

end Date
end QueryRights
