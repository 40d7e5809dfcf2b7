/-!
# Sets of characters

A class of characters is a table of code points, written as ranges with both ends included.
-/

set_option autoImplicit false

namespace QueryRights
namespace Text

/-- Code points, as ranges with both ends included. -/
abbrev Ranges := List (Nat × Nat)

namespace Ranges

/-- Whether a character is in one of the ranges. -/
def covers (rs : Ranges) (c : Char) : Bool :=
  rs.any fun r => Nat.ble r.1 c.toNat && Nat.ble c.toNat r.2

/-- How many code points there are in ranges that do not overlap. -/
def count : Ranges → Nat
  | [] => 0
  | r :: rest => (r.2 - r.1 + 1) + count rest

end Ranges
end Text
end QueryRights
