import Mathlib.Algebra.Ring.Int.Defs
import Mathlib.Algebra.Ring.Nat

/-!
# Checked machine arithmetic

`signed w v` and `unsigned w v` are `v`, where a type of `w` bits holds it. A C expression written
with them around each operation has a value exactly where no operation overflows and no conversion
changes a value, and it is then the value of the exact arithmetic.

* `signed_of_mem`, `unsigned_of_mem`, `signed_of_not_mem`: the way to evaluate it.
* `bind_signed`, `bind_unsigned`: one checked operation of a longer expression.
-/

namespace MagicTrackpad.Lib.Checked

variable {α : Type} {w : Nat} {v : Int}

/-- `v`, if a signed type of `w` bits holds it. -/
def signed (w : Nat) (v : Int) : Option Int :=
  if -2 ^ (w - 1) ≤ v ∧ v < 2 ^ (w - 1) then some v else none

/-- `v`, if an unsigned type of `w` bits holds it. -/
def unsigned (w : Nat) (v : Int) : Option Int := if 0 ≤ v ∧ v < 2 ^ w then some v else none

theorem signed_of_mem (hlo : -2 ^ (w - 1) ≤ v) (hhi : v < 2 ^ (w - 1)) : signed w v = some v :=
  if_pos ⟨hlo, hhi⟩

theorem signed_of_not_mem (h : 2 ^ (w - 1) ≤ v) : signed w v = none :=
  if_neg fun hmem => absurd hmem.2 (Int.not_lt.mpr h)

theorem unsigned_of_mem (hlo : 0 ≤ v) (hhi : v < 2 ^ w) : unsigned w v = some v :=
  if_pos ⟨hlo, hhi⟩

theorem bind_signed (hlo : -2 ^ (w - 1) ≤ v) (hhi : v < 2 ^ (w - 1)) (f : Int → Option α) :
    (signed w v >>= f) = f v := by
  rw [signed_of_mem hlo hhi]
  rfl

theorem bind_unsigned (hlo : 0 ≤ v) (hhi : v < 2 ^ w) (f : Int → Option α) :
    (unsigned w v >>= f) = f v := by
  rw [unsigned_of_mem hlo hhi]
  rfl

end MagicTrackpad.Lib.Checked
