import QueryRights.Failure
import QueryRights.Interval
import QueryRights.Number.Word
import QueryRights.Text.Blank
import QueryRights.Text.Digits

/-!
# Lists of intervals in plain text

An environment variable gives intervals as numbers of seconds with commas between them.  Blanks
around a number do not matter, nor do entries without anything in them.

## What is here

* `IntervalList.entries`: the entries of a text.
* `IntervalList.seconds`: one entry as a number, or the first thing that is wrong with it, from
  left to right.
* `IntervalList.parse`: the whole list, or the fault of its first wrong entry.
-/

set_option autoImplicit false

namespace QueryRights
namespace IntervalList

/-- The pieces of a text between commas. -/
def pieces : List Char → List (List Char)
  | [] => [[]]
  | c :: rest =>
    if c = ',' then [] :: pieces rest
    else match pieces rest with
      | [] => [[c]]
      | p :: ps => (c :: p) :: ps

/-- The entries of a text: its pieces without blanks around them, the empty ones left out. -/
def entries (text : List Char) : List (List Char) :=
  ((pieces text).map Text.trim).filter fun e => !e.isEmpty

/-- The number that digits denote after others of value `acc`, as long as 64 bits hold it. -/
def digits (acc : Nat) : List Char → Except DigitFault Nat
  | [] => .ok acc
  | c :: rest =>
    if Text.isDigit c then
      let next := acc * 10 + Text.digitValue c
      if next < Word.limit then digits next rest else .error .tooLarge
    else .error .invalidDigit

/-- The number of seconds that an entry denotes.  A plus sign may stand in front of the digits. -/
def seconds (entry : List Char) : Except DigitFault Nat :=
  let ds := match entry with
    | '+' :: rest => rest
    | s => s
  if ds.isEmpty then .error .invalidDigit else digits 0 ds

/-- The intervals of a list of entries. -/
def ofEntries : List (List Char) → Except Failure (List Interval)
  | [] => .ok []
  | e :: rest =>
    match seconds e with
    | .error fault => .error (.config (.invalidInterval (String.ofList e) fault))
    | .ok n =>
      match ofEntries rest with
      | .error failure => .error failure
      | .ok intervals => .ok (⟨UInt64.ofNat n⟩ :: intervals)

/-- The intervals of a text. -/
def parse (text : String) : Except Failure (List Interval) := ofEntries (entries text.toList)

end IntervalList
end QueryRights
