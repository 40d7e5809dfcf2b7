import QueryRights.Text.Extending
import QueryRights.Text.Ignorable
import QueryRights.Text.Unprintable

/-!
# Texts shown in messages

A message that repeats a text from outside shows it between quotation marks, in a form from which
the text can be read off without doubt: what a reader could not see, or could take for the mark
that ends the text, is written as an escape.

## What is here

* `Text.isHidden`: the characters that a reader could not tell by their looks.
* `Text.shownChar`: one character, as itself or as an escape.
* `Text.shown`: a whole text between its quotation marks.
-/

set_option autoImplicit false

namespace QueryRights
namespace Text

/-- Whether a reader cannot tell a character by its looks: it cannot be shown, it leaves no trace,
or it is drawn into the character before it. -/
def isHidden (c : Char) : Bool := isCombining c || isIgnorable c || isUnprintable c

/-- One character of a shown text.  The quotation mark and the backslash are written after a
backslash, the four common controls by a letter or zero, and every other hidden character by its
code point in hexadecimal. -/
def shownChar (c : Char) : List Char :=
  if c = '"' then ['\\', '"']
  else if c = '\\' then ['\\', '\\']
  else if c = '\t' then ['\\', 't']
  else if c = '\n' then ['\\', 'n']
  else if c = '\r' then ['\\', 'r']
  else if c.toNat = 0 then ['\\', '0']
  else if isHidden c then
    ['\\', 'u', '\x7b'] ++ Nat.toDigits 16 c.toNat ++ ['\x7d']
  else [c]

/-- A text between quotation marks, as messages show it. -/
def shown (s : String) : String :=
  String.ofList ('"' :: s.toList.flatMap shownChar ++ ['"'])

end Text
end QueryRights
