import Casework.Error

/-!
Sums and products of words of 64 bits. Where the result is too great for a word, a
program that was built to check its arithmetic fails, and any other goes on with
what is left of the result in a word.
-/

namespace Casework

/-- What becomes of a result that is too great for a word. -/
inductive Arithmetic where
  /-- It is a failure. -/
  | checked
  /-- It is cut down to a word. -/
  | wrapping
  deriving DecidableEq, Inhabited

namespace Arithmetic

def add (arithmetic : Arithmetic) (a b : UInt64) : Except Error UInt64 :=
  if arithmetic = .checked ∧ UInt64.size ≤ a.toNat + b.toNat then .error (.overflow .sum)
  else .ok (a + b)

def mul (arithmetic : Arithmetic) (a b : UInt64) : Except Error UInt64 :=
  if arithmetic = .checked ∧ UInt64.size ≤ a.toNat * b.toNat then .error (.overflow .product)
  else .ok (a * b)

variable {a b c : UInt64}

theorem add_of_fits (fits : a.toNat + b.toNat < UInt64.size) (arithmetic : Arithmetic) :
    arithmetic.add a b = .ok (a + b) := if_neg fun exceeds => absurd fits (Nat.not_lt.2 exceeds.2)

theorem mul_of_fits (fits : a.toNat * b.toNat < UInt64.size) (arithmetic : Arithmetic) :
    arithmetic.mul a b = .ok (a * b) := if_neg fun exceeds => absurd fits (Nat.not_lt.2 exceeds.2)

theorem add_of_exceeds (exceeds : UInt64.size ≤ a.toNat + b.toNat) :
    checked.add a b = .error (.overflow .sum) := if_pos ⟨rfl, exceeds⟩

theorem mul_of_exceeds (exceeds : UInt64.size ≤ a.toNat * b.toNat) :
    checked.mul a b = .error (.overflow .product) := if_pos ⟨rfl, exceeds⟩

theorem toNat_of_add (sum : checked.add a b = .ok c) : c.toNat = a.toNat + b.toNat := by
  by_cases fits : a.toNat + b.toNat < UInt64.size
  · rw [add_of_fits fits] at sum
    cases sum
    rw [UInt64.toNat_add, Nat.mod_eq_of_lt fits]
  · rw [add_of_exceeds (Nat.le_of_not_lt fits)] at sum
    cases sum

theorem add_wrapping (a b : UInt64) : wrapping.add a b = .ok (a + b) := if_neg nofun

theorem mul_wrapping (a b : UInt64) : wrapping.mul a b = .ok (a * b) := if_neg nofun

end Arithmetic
end Casework
