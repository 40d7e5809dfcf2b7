/-!
# Words of 64 bits

The ranges of the integers that 64 bits hold, with and without a sign.  Integers are mathematical
integers throughout, and these ranges are checked where a number is read; so nothing wraps around
anywhere.  The bounds are written out, which keeps them within the reach of linear arithmetic.
-/

set_option autoImplicit false

namespace QueryRights
namespace Word

/-- Two to the power of 64, the first natural number that 64 bits do not hold. -/
abbrev limit : Nat := 18446744073709551616

/-- Two to the power of 63, the first natural number that 64 bits with a sign do not hold. -/
abbrev signedLimit : Nat := 9223372036854775808

/-- 64 bits without a sign hold the integer. -/
abbrev FitsUnsigned (n : Int) : Prop := 0 ≤ n ∧ n < 18446744073709551616

/-- 64 bits with a sign hold the integer. -/
abbrev FitsSigned (n : Int) : Prop := -9223372036854775808 ≤ n ∧ n < 9223372036854775808

example : limit = 2 ^ 64 ∧ signedLimit = 2 ^ 63 := by decide

end Word
end QueryRights
