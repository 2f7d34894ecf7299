import Gridface.Fault

/-!
# Positions

Pixel positions are 32-bit integers. A sum or difference that leaves the range is a fault, never a
wrapped value. The column and the row of a pixel are 32-bit numbers without a sign; they are taken
as positions bit by bit.
-/

namespace Gridface.Position

/-- The least position. -/
def least : Int := -2147483648

/-- The greatest position. -/
def greatest : Int := 2147483647

/-- Whether `v` is a position. -/
def InRange (v : Int) : Prop := least ≤ v ∧ v ≤ greatest

instance (v : Int) : Decidable (InRange v) := inferInstanceAs (Decidable (_ ∧ _))

/-- The position with the same 32 bits as a number without a sign. -/
def wrapped (n : Nat) : Int := (UInt32.ofNat n).toInt32.toInt

/-- The position `v`, if it is one. -/
def checked (v : Int) : Except Fault Int :=
  if InRange v then .ok v else .error .positionOverflow

theorem wrapped_eq_bmod (n : Nat) : wrapped n = Int.bmod n 4294967296 := by
  rw [wrapped, UInt32.toInt32_ofNat', Int32.toInt_ofNat']

theorem wrapped_eq {n : Nat} (h : n ≤ 2147483647) : wrapped n = n := by
  rw [wrapped_eq_bmod]
  exact Int.bmod_eq_of_le (by omega) (by omega)

theorem checked_eq_ok {v : Int} (h : InRange v) : checked v = .ok v := by
  simp [checked, h]

theorem checked_eq_ok_iff {v w : Int} : checked v = .ok w ↔ InRange v ∧ w = v := by
  unfold checked
  split <;> simp_all [eq_comm]

end Gridface.Position
