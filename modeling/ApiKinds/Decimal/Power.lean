/-
  Powers of two, which bound the integers of a machine, and of ten, which scale
  decimals.
-/

namespace ApiKinds

/-- The number `2 ^ n`. -/
def twoTo (n : Nat) : Nat :=
  Nat.pow 2 n

/-- The number `10 ^ n`. -/
def tenTo (n : Nat) : Nat :=
  Nat.pow 10 n

theorem twoTo_pos (n : Nat) : 0 < twoTo n :=
  Nat.pow_pos (Nat.succ_pos 1)

theorem tenTo_pos (n : Nat) : 0 < tenTo n :=
  Nat.pow_pos (Nat.succ_pos 9)

end ApiKinds
