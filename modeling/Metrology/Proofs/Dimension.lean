import Mathlib.Algebra.Group.Defs
import Metrology.Dimension

/-!
# The group of dimensions

Products and quotients of dimensions obey the laws of a commutative group, and powers are the powers
of that group.
-/

namespace Metrology

/-- Dimensions form a commutative group under products. -/
instance : CommGroup Dimension where
  mul := Dimension.mul
  mul_assoc := Dimension.mul_assoc
  one := Dimension.one
  one_mul := Dimension.one_mul
  mul_one := Dimension.mul_one
  inv d := d.pow (-1)
  inv_mul_cancel d := by
    have quotient : d.div d = (d.pow (-1)).mul d := by
      rw [Dimension.div_eq_mul_pow, Dimension.mul_comm]
    exact quotient.symm.trans d.div_self
  div := Dimension.div
  div_eq_mul_inv := Dimension.div_eq_mul_pow
  zpow n d := d.pow n
  zpow_zero' := Dimension.pow_zero
  zpow_succ' n d := by
    have first := d.pow_add n 1
    rw [Dimension.pow_one] at first
    exact first
  zpow_neg' n d := by
    have opposite : Int.negSucc n = ((n.succ : Nat) : Int) * -1 := by omega
    have twice := d.pow_pow n.succ (-1)
    rw [← opposite] at twice
    exact twice.symm
  mul_comm := Dimension.mul_comm

end Metrology
