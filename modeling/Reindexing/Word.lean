/-!
# Words

Whole numbers of fixed size, where a format or a count admits no others: the
largest words of 32 and 64 bits, and the integers of 64 bits with a sign.
-/
namespace Reindexing.Word

/-- The largest word of 32 bits. -/
def max32 : Nat := 0xffffffff

/-- The largest word of 64 bits. -/
def max64 : Nat := 0xffffffffffffffff

/-- The largest integer of 64 bits with a sign. -/
def maxInt64 : Nat := 0x7fffffffffffffff

/-- Whether an integer fits into 64 bits with a sign. -/
def isInt64 (i : Int) : Bool := decide (-(maxInt64 : Int) - 1 ≤ i) && decide (i ≤ maxInt64)

theorem toNat_le_max64 (w : UInt64) : w.toNat ≤ max64 := Nat.le_of_lt_succ w.toNat_lt

end Reindexing.Word
