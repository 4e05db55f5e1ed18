/-!
# Words

The greatest numbers of fixed width. A number that a format limits to a width is refused, or read
as something else, once it is past them; none ever wraps.
-/

namespace DaprHosting.Word

/-- The greatest signed number of 32 bits. -/
def maxSigned32 : Nat := 2147483647

/-- The greatest unsigned number of 32 bits. -/
def max32 : Nat := 4294967295

/-- The greatest signed number of 64 bits. -/
def maxSigned64 : Nat := 9223372036854775807

/-- The greatest unsigned number of 64 bits. -/
def max64 : Nat := 18446744073709551615

example : max32 = 2 * maxSigned32 + 1 := by decide

example : max64 = max32 * (max32 + 2) := by decide

example : max64 = 2 * maxSigned64 + 1 := by decide

end DaprHosting.Word
