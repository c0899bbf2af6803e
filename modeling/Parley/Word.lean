/-!
# Words of 32 and 64 bits

The integers that fit into a word, with and without a sign.
-/

namespace Parley.Word

/-- How many natural numbers fit into 32 bits. -/
def size32 : Nat := 4294967296

/-- How many natural numbers fit into 64 bits. -/
def size64 : Nat := 18446744073709551616

def isNat32 (i : Int) : Bool := 0 ≤ i && i < 4294967296

def isNat64 (i : Int) : Bool := 0 ≤ i && i < 18446744073709551616

def isInt32 (i : Int) : Bool := -2147483648 ≤ i && i < 2147483648

def isInt64 (i : Int) : Bool := -9223372036854775808 ≤ i && i < 9223372036854775808

end Parley.Word
