/-!
# Sums of words

A sum of words is the sum of the numbers they stand for, as long as that is a word too.
-/

set_option autoImplicit false

namespace ReplicaSync.Words

/-- The sum of two words of 32 bits that fits. -/
theorem toNat_add32 {left right : UInt32} (fits : left.toNat + right.toNat < UInt32.size) :
    (left + right).toNat = left.toNat + right.toNat := by
  rw [UInt32.toNat_add]
  exact Nat.mod_eq_of_lt fits

/-- The sum of two words of 64 bits that fits. -/
theorem toNat_add64 {left right : UInt64} (fits : left.toNat + right.toNat < UInt64.size) :
    (left + right).toNat = left.toNat + right.toNat := by
  rw [UInt64.toNat_add]
  exact Nat.mod_eq_of_lt fits

end ReplicaSync.Words
