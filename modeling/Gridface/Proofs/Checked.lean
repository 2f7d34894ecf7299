import Mathlib.Algebra.BigOperators.Group.List.Basic
import Mathlib.Data.UInt

/-!
# Numbers of 32 bits

Sums, products, differences and quotients that are refused where they leave the range of 32 bits or
where there is none. What is not refused is exact.
-/

namespace Gridface.Checked

/-- The sum of two numbers, if it is one. -/
def add (a b : UInt32) : Option UInt32 :=
  if a.toNat + b.toNat < UInt32.size then some (a + b) else none

/-- The product of two numbers, if it is one. -/
def mul (a b : UInt32) : Option UInt32 :=
  if a.toNat * b.toNat < UInt32.size then some (a * b) else none

/-- The difference of two numbers, if it is one. -/
def sub (a b : UInt32) : Option UInt32 := if b ≤ a then some (a - b) else none

/-- A signed number as one without a sign, if it is one. -/
def ofSigned (v : Int32) : Option UInt32 := if 0 ≤ v then some v.toUInt32 else none

variable {a b c : UInt32} {v : Int32}

theorem add_eq_none (h : UInt32.size ≤ a.toNat + b.toNat) : add a b = none :=
  if_neg (Nat.not_lt.mpr h)

theorem add_eq_some (h : a.toNat + b.toNat < UInt32.size) :
    ∃ c, add a b = some c ∧ c.toNat = a.toNat + b.toNat :=
  ⟨a + b, if_pos h, by rw [UInt32.toNat_add, Nat.mod_eq_of_lt h]⟩

theorem add_eq_some_iff : add a b = some c ↔ c.toNat = a.toNat + b.toNat := by
  rcases Nat.lt_or_ge (a.toNat + b.toNat) UInt32.size with hsum | hsum
  · obtain ⟨d, hd, hvalue⟩ := add_eq_some hsum
    rw [hd, Option.some_inj, ← UInt32.toNat_inj, hvalue, eq_comm]
  · have hrange : c.toNat < UInt32.size := c.toNat_lt
    rw [add_eq_none hsum]
    exact iff_of_false nofun fun h => by omega

theorem mul_eq_some (h : a.toNat * b.toNat < UInt32.size) :
    ∃ c, mul a b = some c ∧ c.toNat = a.toNat * b.toNat :=
  ⟨a * b, if_pos h, by rw [UInt32.toNat_mul, Nat.mod_eq_of_lt h]⟩

theorem sub_eq_some (h : b.toNat ≤ a.toNat) :
    ∃ c, sub a b = some c ∧ c.toNat = a.toNat - b.toNat :=
  have hle : b ≤ a := UInt32.le_iff_toNat_le.mpr h
  ⟨a - b, if_pos hle, UInt32.toNat_sub_of_le a b hle⟩

theorem nonneg_iff : 0 ≤ v ↔ 0 ≤ v.toInt := Int32.le_iff_toInt_le

theorem toNat_toUInt32 (h : 0 ≤ v.toInt) : v.toUInt32.toNat = v.toInt.toNat :=
  Int32.toNat_toUInt32_of_le (nonneg_iff.mpr h)

theorem ofSigned_eq_none (h : v.toInt < 0) : ofSigned v = none :=
  if_neg fun hle => Int.not_le.mpr h (nonneg_iff.mp hle)

theorem ofSigned_eq_some (h : 0 ≤ v.toInt) :
    ∃ c, ofSigned v = some c ∧ c.toNat = v.toInt.toNat :=
  ⟨v.toUInt32, if_pos (nonneg_iff.mpr h), toNat_toUInt32 h⟩

/-! ## Quotients -/

/-- The quotient of two numbers, if there is one. -/
def div (a b : UInt32) : Option UInt32 := if b = 0 then none else some (a / b)

/-- The remainder of a quotient, if there is one. -/
def mod (a b : UInt32) : Option UInt32 := if b = 0 then none else some (a % b)

theorem div_eq_some (h : b ≠ 0) : div a b = some (a / b) := if_neg h

theorem mod_eq_some (h : b ≠ 0) : mod a b = some (a % b) := if_neg h

/-! ## Sums of many numbers -/

/-- The sum of some numbers, one added after the other, if none of the sums leaves the range. -/
def sum (as : List UInt32) : Option UInt32 := as.foldlM add 0

theorem foldlM_add_eq_some_iff {as : List UInt32} :
    as.foldlM add a = some c ↔ c.toNat = a.toNat + (as.map UInt32.toNat).sum := by
  induction as generalizing a with
  | nil =>
      rw [List.map_nil, List.sum_nil, Nat.add_zero]
      show some a = some c ↔ _
      rw [Option.some_inj, ← UInt32.toNat_inj, eq_comm]
  | cons b as ih =>
      rw [List.foldlM_cons, List.map_cons, List.sum_cons, ← Nat.add_assoc]
      show (add a b).bind _ = _ ↔ _
      simp only [Option.bind_eq_some_iff, ih, add_eq_some_iff]
      constructor
      · rintro ⟨d, hd, hc⟩
        rw [hc, hd]
      · intro hc
        -- the sum so far is at most the whole, which is in range
        have hrange : c.toNat < UInt32.size := c.toNat_lt
        obtain ⟨d, -, hd⟩ := add_eq_some (a := a) (b := b) (by omega)
        exact ⟨d, hd, by rw [hc, hd]⟩

/-- A sum of many numbers is taken without fail just if the exact sum is in range. -/
theorem sum_eq_some_iff {as : List UInt32} :
    sum as = some c ↔ c.toNat = (as.map UInt32.toNat).sum := by
  rw [sum, foldlM_add_eq_some_iff]
  exact Eq.congr_right (Nat.zero_add _)

/-! ## Bounds -/

/-- Whether what has a size and begins at an offset ends within a limit. -/
def fits (size : UInt32) (offset : Int32) (limit : UInt32) : Bool :=
  ((ofSigned offset).bind (add size)).any (· ≤ limit)

theorem fits_iff {size limit : UInt32} {offset : Int32} :
    fits size offset limit = true ↔
      0 ≤ offset.toInt ∧ offset.toInt + size.toNat ≤ limit.toNat := by
  unfold fits
  rcases Int.lt_or_le offset.toInt 0 with hneg | hpos
  · rw [ofSigned_eq_none hneg]
    exact iff_of_false nofun fun h => Int.not_le.mpr hneg h.1
  obtain ⟨start, hstart, hvalue⟩ := ofSigned_eq_some hpos
  rw [hstart, Option.bind_some]
  rcases Nat.lt_or_ge (size.toNat + start.toNat) UInt32.size with hsum | hsum
  · obtain ⟨last, hlast, hend⟩ := add_eq_some hsum
    rw [hlast, Option.any_some, decide_eq_true_iff, UInt32.le_iff_toNat_le]
    omega
  · rw [add_eq_none hsum]
    have hlimit : limit.toNat < UInt32.size := limit.toNat_lt
    exact iff_of_false nofun fun h => by omega

end Gridface.Checked
