import Mathlib.Data.List.Basic

/-!
# Writing runs of bytes into memory

Memory is a function from addresses. `store` writes one cell and `storeList` a run of cells from an
address on, in order.

* `storeList_before`, `storeList_after`, `storeList_at`: which cells a run changes, and to what.
* `storeList_append`, `fold_storeList`: runs one behind the other are one run.
-/

namespace MagicTrackpad.Lib.ByteStore

variable {α : Type}

/-- `m[k] = v`. -/
def store (m : Nat → α) (k : Nat) (v : α) : Nat → α := fun j => if j = k then v else m j

/-- `m[off] = b0; m[off + 1] = b1; …`. -/
def storeList (m : Nat → α) (off : Nat) : List α → Nat → α
  | [] => m
  | b :: bs => storeList (store m off b) (off + 1) bs

theorem storeList_before (m : Nat → α) {off : Nat} (bs : List α) {j : Nat} (h : j < off) :
    storeList m off bs j = m j := by
  induction bs generalizing m off with
  | nil => rfl
  | cons b bs ih =>
    rw [storeList, ih _ (Nat.lt_succ_of_lt h)]
    exact if_neg (Nat.ne_of_lt h)

theorem storeList_after (m : Nat → α) {off : Nat} {bs : List α} {j : Nat}
    (h : off + bs.length ≤ j) : storeList m off bs j = m j := by
  induction bs generalizing m off with
  | nil => rfl
  | cons b bs ih =>
    rw [List.length_cons] at h
    rw [storeList, ih _ (by omega)]
    exact if_neg (by omega)

/-- **The cells of a run hold its bytes.** -/
theorem storeList_at (m : Nat → α) (off : Nat) {bs : List α} {i : Nat} (h : i < bs.length) :
    storeList m off bs (off + i) = bs[i] := by
  induction bs generalizing m off i with
  | nil => exact absurd h (Nat.not_lt_zero i)
  | cons b bs ih =>
    rw [storeList]
    cases i with
    | zero =>
      exact (storeList_before _ _ (Nat.lt_succ_self off)).trans (if_pos rfl)
    | succ i =>
      have hidx : off + (i + 1) = off + 1 + i := by omega
      rw [hidx]
      exact ih _ _ (Nat.lt_of_succ_lt_succ h)

theorem storeList_append (m : Nat → α) (off : Nat) (xs ys : List α) :
    storeList m off (xs ++ ys) = storeList (storeList m off xs) (off + xs.length) ys := by
  induction xs generalizing m off with
  | nil => rfl
  | cons x xs ih =>
    rw [List.cons_append, storeList, storeList, ih, List.length_cons]
    congr 1
    omega

/-- **A loop that writes blocks of one size**, one behind the other. -/
theorem fold_storeList {f : Nat → List α} {size : Nat} (hsize : ∀ i, (f i).length = size)
    (m : Nat → α) (off n : Nat) :
    Nat.fold n (fun i _ m => storeList m (off + i * size) (f i)) m =
      storeList m off ((List.range n).flatMap f) := by
  induction n with
  | zero => rfl
  | succ n ih =>
    have hlen : ((List.range n).flatMap f).length = n * size := by
      simp [List.length_flatMap, hsize]
    rw [Nat.fold_succ, ih, List.range_succ, List.flatMap_append, storeList_append, hlen]
    simp

end MagicTrackpad.Lib.ByteStore
