import Mathlib.Algebra.Ring.Int.Defs
import Mathlib.Data.List.Basic

/-!
# Integer rescaling between two ranges

`stretch v` maps `[inMin, inMax]` linearly onto `[outMin, outMax]`, rounding down, and clamps what
falls outside. C code that clamps after a division truncating toward zero computes the same, since
the two divisions differ only below `inMin`, where the clamp decides (`clamp_tdiv`).

* `clamp_mem`, `stretch_mono`: it lands in the output range and is monotone.
* `stretch_of_le`, `stretch_of_ge`: it saturates, and so maps endpoints to endpoints.
* `stretch_clamp`: clamping the input first changes nothing.

`thereAndBack a s l` takes `a` from a range of length `s` to one of length `l` and back, rounding
down both times.
* `thereAndBack_le`, `thereAndBack_mono`: nothing grows, and the order stays.
* `le_thereAndBack`: where the other range is at least as long, at most one unit is lost.
-/

namespace MagicTrackpad.Lib.Rescale

variable {v w inMin inMax outMin outMax : Int}

/-- `v` moved into `[lo, hi]`. -/
def clamp (v lo hi : Int) : Int := max lo (min hi v)

/-- The linear map from `[inMin, inMax]` to `[outMin, outMax]`, clamped. -/
def stretch (v inMin inMax outMin outMax : Int) : Int :=
  clamp ((v - inMin) * (outMax - outMin) / (inMax - inMin) + outMin) outMin outMax

theorem clamp_of_le (h : v ≤ inMin) : clamp v inMin inMax = inMin := by
  unfold clamp
  omega

theorem clamp_of_ge (h : inMax ≤ v) (hle : inMin ≤ inMax) : clamp v inMin inMax = inMax := by
  unfold clamp
  omega

theorem clamp_of_mem (h : inMin ≤ v) (h' : v ≤ inMax) : clamp v inMin inMax = v := by
  unfold clamp
  omega

theorem clamp_mem (hle : inMin ≤ inMax) :
    inMin ≤ clamp v inMin inMax ∧ clamp v inMin inMax ≤ inMax := by
  unfold clamp
  omega

/-- The two `if`s of C code are the clamp. -/
theorem ifs_eq_clamp (hle : outMin ≤ outMax) :
    (if outMax < (if v < outMin then outMin else v) then outMax
      else (if v < outMin then outMin else v)) = clamp v outMin outMax := by
  unfold clamp
  by_cases h : v < outMin
  · rw [if_pos h]
    split <;> omega
  · rw [if_neg h]
    split <;> omega

theorem scaled_nonpos (h : v ≤ inMin) (hin : inMin < inMax) (hout : outMin ≤ outMax) :
    (v - inMin) * (outMax - outMin) / (inMax - inMin) ≤ 0 :=
  Int.ediv_nonpos_of_nonpos_of_neg
    (Int.mul_nonpos_of_nonpos_of_nonneg (by omega) (by omega)) (by omega)

/-- **Truncating toward zero makes no difference** under the clamp. -/
theorem clamp_tdiv (hin : inMin < inMax) (hout : outMin ≤ outMax) :
    clamp (((v - inMin) * (outMax - outMin)).tdiv (inMax - inMin) + outMin) outMin outMax =
      stretch v inMin inMax outMin outMax := by
  unfold stretch
  by_cases h : inMin ≤ v
  · rw [Int.tdiv_eq_ediv_of_nonneg (Int.mul_nonneg (by omega) (by omega))]
  · have hneg : (v - inMin) * (outMax - outMin) ≤ 0 :=
      Int.mul_nonpos_of_nonpos_of_nonneg (by omega) (by omega)
    have htrunc : ((v - inMin) * (outMax - outMin)).tdiv (inMax - inMin) ≤ 0 := by
      rw [← Int.neg_nonneg, ← Int.neg_tdiv]
      exact Int.tdiv_nonneg (by omega) (by omega)
    have hfloor : (v - inMin) * (outMax - outMin) / (inMax - inMin) ≤ 0 :=
      scaled_nonpos (by omega) hin hout
    rw [clamp_of_le (by omega), clamp_of_le (by omega)]

/-- **Rescaling is monotone.** -/
theorem stretch_mono (hin : inMin < inMax) (hout : outMin ≤ outMax) (h : v ≤ w) :
    stretch v inMin inMax outMin outMax ≤ stretch w inMin inMax outMin outMax := by
  have hdiv : (v - inMin) * (outMax - outMin) / (inMax - inMin) ≤
      (w - inMin) * (outMax - outMin) / (inMax - inMin) := by
    refine Int.ediv_le_ediv (by omega) ?_
    exact Int.mul_le_mul_of_nonneg_right (by omega) (by omega)
  unfold stretch clamp
  omega

theorem stretch_of_le (hin : inMin < inMax) (hout : outMin ≤ outMax) (h : v ≤ inMin) :
    stretch v inMin inMax outMin outMax = outMin := by
  have hdiv : (v - inMin) * (outMax - outMin) / (inMax - inMin) ≤ 0 := scaled_nonpos h hin hout
  exact clamp_of_le (by omega)

theorem stretch_of_ge (hin : inMin < inMax) (hout : outMin ≤ outMax) (h : inMax ≤ v) :
    stretch v inMin inMax outMin outMax = outMax := by
  have hdiv : outMax - outMin ≤ (v - inMin) * (outMax - outMin) / (inMax - inMin) := by
    refine Int.le_ediv_of_mul_le (by omega) ?_
    rw [Int.mul_comm]
    exact Int.mul_le_mul_of_nonneg_right (by omega) (by omega)
  exact clamp_of_ge (by omega) hout

/-- **Clamping the input first changes nothing.** -/
theorem stretch_clamp (hin : inMin < inMax) (hout : outMin ≤ outMax) (v : Int) :
    stretch (clamp v inMin inMax) inMin inMax outMin outMax =
      stretch v inMin inMax outMin outMax := by
  by_cases hle : v ≤ inMin
  · rw [clamp_of_le hle, stretch_of_le hin hout (Int.le_refl _),
      stretch_of_le hin hout hle]
  · by_cases hge : inMax ≤ v
    · rw [clamp_of_ge hge (by omega), stretch_of_ge hin hout (Int.le_refl _),
        stretch_of_ge hin hout hge]
    · rw [clamp_of_mem (by omega) (by omega)]

/-! ## There and back -/

/-- `a` scaled by `l / s` and then by `s / l`, rounding down both times. -/
def thereAndBack (a s l : Int) : Int := a * l / s * s / l

section ThereAndBack

variable {a b s l : Int}

theorem thereAndBack_self (hs : 0 < s) : thereAndBack a s s = a := by
  rw [thereAndBack, Int.mul_ediv_cancel _ (by omega), Int.mul_ediv_cancel _ (by omega)]

/-- What is lost is lost. -/
theorem thereAndBack_le (hs : 0 < s) (hl : 0 < l) : thereAndBack a s l ≤ a := by
  have hback : a * l / s * s ≤ a * l := Int.ediv_mul_le _ (by omega)
  calc a * l / s * s / l ≤ a * l / l := Int.ediv_le_ediv hl hback
    _ = a := Int.mul_ediv_cancel _ (by omega)

theorem thereAndBack_nonneg (hs : 0 < s) (hl : 0 < l) (ha : 0 ≤ a) : 0 ≤ thereAndBack a s l := by
  have hthere : 0 ≤ a * l / s := Int.ediv_nonneg (Int.mul_nonneg ha (by omega)) (by omega)
  exact Int.ediv_nonneg (Int.mul_nonneg hthere (by omega)) (by omega)

/-- **A longer range in between costs one unit at most.** -/
theorem le_thereAndBack (hs : 0 < s) (h : s ≤ l) : a - 1 ≤ thereAndBack a s l := by
  refine Int.le_ediv_of_mul_le (by omega) ?_
  have hfloor : a * l < (a * l / s + 1) * s := Int.lt_ediv_add_one_mul_self _ hs
  rw [Int.add_mul] at hfloor
  rw [Int.sub_mul]
  omega

theorem thereAndBack_mono (hs : 0 < s) (hl : 0 < l) (h : a ≤ b) :
    thereAndBack a s l ≤ thereAndBack b s l := by
  have hthere : a * l / s ≤ b * l / s :=
    Int.ediv_le_ediv hs (Int.mul_le_mul_of_nonneg_right h (by omega))
  exact Int.ediv_le_ediv hl (Int.mul_le_mul_of_nonneg_right hthere (by omega))

end ThereAndBack

end MagicTrackpad.Lib.Rescale
