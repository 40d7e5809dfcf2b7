/-!
# Digits

Natural numbers in positional notation, as lists of characters.  Only the digits of ASCII count,
since those of other scripts are no digits in any of the formats that are read here.  Numbers have
no bound; a reader that accepts only what 64 bits hold checks that itself.

## What is here

* `Text.isDigit` and `Text.digitValue?`: decimal digits, and the value of a digit in a base up to
  sixteen, in either case.
* `Text.valueFrom` and `Text.valueOf`: the number that a list of digits denotes, also behind
  others.
* `Text.padded`: decimal digits with zeros in front.
-/

set_option autoImplicit false

namespace QueryRights
namespace Text

/-- Whether a character is a decimal digit of ASCII. -/
def isDigit (c : Char) : Bool := Nat.ble 0x30 c.toNat && Nat.ble c.toNat 0x39

/-- The value of a decimal digit. -/
def digitValue (c : Char) : Nat := c.toNat - 0x30

/-- The value of a digit in a base up to sixteen; letters count in either case. -/
def digitValue? (base : Nat) (c : Char) : Option Nat :=
  let n := c.toNat
  let v :=
    if isDigit c then some (n - 0x30)
    else if 0x61 ≤ n ∧ n ≤ 0x66 then some (n - 0x61 + 10)
    else if 0x41 ≤ n ∧ n ≤ 0x46 then some (n - 0x41 + 10)
    else none
  v.filter (Nat.blt · base)

/-- The number denoted by digits that follow others of value `acc`. -/
def valueFrom (base acc : Nat) : List Char → Nat
  | [] => acc
  | c :: rest => valueFrom base (acc * base + (digitValue? base c).getD 0) rest

/-- The number that decimal digits denote. -/
def valueOf (digits : List Char) : Nat := valueFrom 10 0 digits

/-- A number in decimal with at least `width` digits. -/
def padded (width n : Nat) : String :=
  let ds := Nat.toDigits 10 n
  String.ofList (List.replicate (width - ds.length) '0' ++ ds)

end Text
end QueryRights
