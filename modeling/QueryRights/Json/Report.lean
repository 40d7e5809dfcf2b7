import QueryRights.Number.Word
import QueryRights.Text.Digits

/-!
# Reports of a JSON reader

What a reader of JSON has to report is a message, with the line and the column of the place that
it is about.  Reports are passed on as plain text, and a report made from a text finds its place
again at the end of that text.

## What is here

* `Json.Report` and `Json.Report.text`: a report without a place is its message alone.
* `Json.Report.ofText`: the report that a text stands for.
-/

set_option autoImplicit false

namespace QueryRights
namespace Json

/-- A message about a place in a JSON text. -/
structure Report where
  message : String
  /-- The line, counted from one; zero stands for no place at all. -/
  line : Nat
  column : Nat
  deriving DecidableEq

namespace Report

/-- A report as it is written. -/
def text (r : Report) : String :=
  if r.line = 0 then r.message
  else r.message ++ " at line " ++ Text.padded 1 r.line ++ " column " ++ Text.padded 1 r.column

/-- Drops what a backward text begins with. -/
def skipBack (ending : String) (s : List Char) : Option (List Char) :=
  let back := ending.toList.reverse
  if s.take back.length = back then some (s.drop back.length) else none

/-- The number that a backward text begins with, if 64 bits hold it. -/
def numberBack (s : List Char) : Option (Nat × List Char) :=
  let ds := s.takeWhile Text.isDigit
  let n := Text.valueOf ds.reverse
  if ds.isEmpty ∨ Word.limit ≤ n then none else some (n, s.drop ds.length)

/-- The place at the end of a text, and the message before it. -/
def split? (s : String) : Option Report := do
  let (column, back) ← numberBack s.toList.reverse
  let back ← skipBack " column " back
  let (line, back) ← numberBack back
  let back ← skipBack " at line " back
  return ⟨String.ofList back.reverse, line, column⟩

/-- The report that a text stands for; without a place at its end the text is all message. -/
def ofText (s : String) : Report := (split? s).getD ⟨s, 0, 0⟩

end Report
end Json
end QueryRights
