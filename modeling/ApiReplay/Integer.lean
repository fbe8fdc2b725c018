/-!
# Ranges of integers

An integer of some bits with a sign lies between two powers of two; one without a sign lies below a
power of two.

## Main definitions

* `Integer.isSigned`, `Integer.isUnsigned`: whether an integer has so many bits.
-/

namespace ApiReplay.Integer

/-- Whether an integer has so many bits, of which one is its sign. -/
def isSigned (bits : Nat) (i : Int) : Bool :=
  -(Nat.pow 2 (bits - 1) : Int) ≤ i && i < Nat.pow 2 (bits - 1)

/-- Whether an integer has so many bits and no sign. -/
def isUnsigned (bits : Nat) (i : Int) : Bool :=
  0 ≤ i && i < Nat.pow 2 bits

end ApiReplay.Integer
