import Mathlib.Data.Nat.Log
import Mathlib.Tactic.NormNum

namespace RipDvd
set_option autoImplicit true

/-- The double nearest to a number, and the even one where two are as near. Numbers of `2 ^ 1024`
and more have none. -/
def nearestDouble (n : Nat) : Nat :=
  let unit := 2 ^ (n.log2 - 52)
  let below := n / unit
  if 2 * (n % unit) < unit ∨ 2 * (n % unit) = unit ∧ below % 2 = 0 then below * unit
  else (below + 1) * unit

/-- The double nearest to an integer. -/
def nearestDoubleInt (x : Int) : Int := x.sign * nearestDouble x.natAbs

theorem nearestDouble_exact (h : n ≤ 2 ^ 53) : nearestDouble n = n := by
  cases Nat.lt_or_eq_of_le h with
  | inl hlt =>
    have hunit : n.log2 - 52 = 0 := by
      by_cases hzero : n = 0
      · rw [hzero]
        rfl
      · have hlog := (Nat.log2_lt hzero).2 hlt
        omega
    simp only [nearestDouble, hunit, pow_zero, Nat.mod_one, Nat.div_one, Nat.mul_one]
    exact if_pos (.inl (by decide))
  | inr heq =>
    subst heq
    decide +kernel

theorem nearestDoubleInt_exact {x : Int} (h : x.natAbs ≤ 2 ^ 53) : nearestDoubleInt x = x := by
  rw [nearestDoubleInt, nearestDouble_exact h]
  exact Int.sign_mul_natAbs x

example : nearestDouble (2 ^ 53 + 1) = 2 ^ 53 := by decide +kernel

example : nearestDouble (2 ^ 53 + 3) = 2 ^ 53 + 4 := by decide +kernel

end RipDvd
