import Mathlib.Algebra.Ring.Nat
import Mathlib.Data.List.Basic

/-!
# Bit masks as sets of small numbers

A `BitVec w` used as a set: `bit w i` is `1 << i` and `hasBit m i` the usual test
`m & (1 << i)`. `ofList f xs` is the mask a loop builds with `m |= 1 << f(x)`.

* `hasBit_eq_getLsbD`, `hasBit_or_bit`, `hasBit_ofList`: membership.
* `eq_zero_iff`: a mask is zero iff it has no bit.
* `and_mask`: a mask of low bits as a truncation.
* `length_add_missing_le`: entries with distinct numbers below `n`, with any set of numbers that no
  entry has, number at most `n`.
* `testAt_setAt`: the same for an array of bytes, eight numbers a byte.
-/

namespace MagicTrackpad.Lib.Bitmask

variable {w : Nat} {α : Type}

/-- `1 << i`. -/
def bit (w i : Nat) : BitVec w := 1#w <<< i

/-- `(m & (1 << i)) != 0`. -/
def hasBit (m : BitVec w) (i : Nat) : Bool := m &&& bit w i != 0#w

/-- `m = 0; for x in xs: m |= 1 << f(x)`. -/
def ofList (w : Nat) (f : α → Nat) (xs : List α) : BitVec w :=
  xs.foldl (fun m x => m ||| bit w (f x)) 0#w

theorem getLsbD_bit (i j : Nat) : (bit w i).getLsbD j = (decide (i < w) && decide (i = j)) := by
  rw [bit, ← BitVec.twoPow_eq]
  exact BitVec.getLsbD_twoPow i j

theorem hasBit_eq_getLsbD (m : BitVec w) (i : Nat) : hasBit m i = m.getLsbD i := by
  rw [hasBit, bit, ← BitVec.twoPow_eq, BitVec.and_twoPow]
  by_cases h : m.getLsbD i = true
  · have hi : i < w := BitVec.lt_of_getLsbD h
    have hne : BitVec.twoPow w i ≠ 0#w := fun h0 => by
      have hbit := congrArg (fun x => BitVec.getLsbD x i) h0
      simp [hi] at hbit
    simp [h, hne]
  · simp [h]

theorem hasBit_zero (i : Nat) : hasBit (0#w) i = false := by
  rw [hasBit_eq_getLsbD]
  exact BitVec.getLsbD_zero

theorem hasBit_or_bit (m : BitVec w) {i : Nat} (hi : i < w) (j : Nat) :
    hasBit (m ||| bit w i) j = (hasBit m j || decide (i = j)) := by
  simp [hasBit_eq_getLsbD, getLsbD_bit, hi]

theorem eq_zero_iff {m : BitVec w} : m = 0#w ↔ ∀ i, hasBit m i = false := by
  constructor
  · rintro rfl i
    exact hasBit_zero i
  · intro h
    refine BitVec.eq_of_getLsbD_eq fun i _ => ?_
    rw [← hasBit_eq_getLsbD, h i, BitVec.getLsbD_zero]

theorem hasBit_foldl {f : α → Nat} {xs : List α} (hf : ∀ x ∈ xs, f x < w) (m : BitVec w)
    (j : Nat) :
    hasBit (xs.foldl (fun m x => m ||| bit w (f x)) m) j = true ↔
      hasBit m j = true ∨ ∃ x ∈ xs, f x = j := by
  induction xs generalizing m with
  | nil => simp
  | cons x xs ih =>
    rw [List.foldl_cons, ih (fun y hy => hf y (List.mem_cons_of_mem x hy)),
      hasBit_or_bit m (hf x List.mem_cons_self)]
    simp only [Bool.or_eq_true, decide_eq_true_eq, List.mem_cons, exists_eq_or_imp]
    tauto

/-- **The mask a loop builds has exactly the bits of its entries.** -/
theorem hasBit_ofList {f : α → Nat} {xs : List α} (hf : ∀ x ∈ xs, f x < w) (j : Nat) :
    hasBit (ofList w f xs) j = true ↔ ∃ x ∈ xs, f x = j := by
  rw [ofList, hasBit_foldl hf, hasBit_zero]
  simp

theorem ofList_eq_zero_iff {f : α → Nat} {xs : List α} (hf : ∀ x ∈ xs, f x < w) :
    ofList w f xs = 0#w ↔ xs = [] := by
  rw [eq_zero_iff]
  constructor
  · intro h
    cases xs with
    | nil => rfl
    | cons x xs =>
      have hx : hasBit (ofList w f (x :: xs)) (f x) = true :=
        (hasBit_ofList hf (f x)).mpr ⟨x, List.mem_cons_self, rfl⟩
      rw [h] at hx
      exact absurd hx Bool.false_ne_true
  · rintro rfl i
    exact hasBit_zero i

/-! ## Low bits -/

/-- A mask of `n` ones takes the low `n` bits. -/
theorem and_mask (n : Nat) {m : BitVec w} (hm : m = BitVec.ofNat w (2 ^ n - 1)) (x : BitVec w) :
    x &&& m = (x.setWidth n).setWidth w := by
  refine BitVec.eq_of_getLsbD_eq fun i hi => ?_
  rw [hm, BitVec.getLsbD_and, BitVec.getLsbD_ofNat, Nat.testBit_two_pow_sub_one]
  simp [hi, Bool.and_comm]

/-! ## Counting -/

/-- Distinct numbers below `n` are, up to order, the members of `range n` that occur. -/
theorem length_filter_mem {xs : List Nat} (hnd : xs.Nodup) {n : Nat} (hlt : ∀ x ∈ xs, x < n) :
    ((List.range n).filter (fun i => decide (i ∈ xs))).length = xs.length := by
  refine List.Perm.length_eq ?_
  refine (List.perm_ext_iff_of_nodup (List.nodup_range.filter _) hnd).mpr fun i => ?_
  rw [List.mem_filter, List.mem_range, decide_eq_true_eq]
  exact ⟨fun h => h.2, fun h => ⟨hlt i h, h⟩⟩

/-- Entries with distinct numbers below `n`, and some numbers that no entry has, fit into `n`. -/
theorem length_add_missing_le {f : α → Nat} {xs : List α} (hnd : (xs.map f).Nodup) {n : Nat}
    (hlt : ∀ x ∈ xs, f x < n) (p : Nat → Bool) (hp : ∀ i, p i = true → ∀ x ∈ xs, f x ≠ i) :
    xs.length + ((List.range n).filter p).length ≤ n := by
  have hlt' : ∀ i ∈ xs.map f, i < n := by
    intro i hi
    obtain ⟨x, hx, rfl⟩ := List.mem_map.mp hi
    exact hlt x hx
  have hmem := length_filter_mem hnd hlt'
  rw [List.length_map] at hmem
  have hdisj : ((List.range n).filter p).length ≤
      ((List.range n).filter (fun i => !decide (i ∈ xs.map f))).length := by
    refine List.Sublist.length_le (List.monotone_filter_right _ fun i hi => ?_)
    simp only [Bool.not_eq_true', decide_eq_false_iff_not, List.mem_map, not_exists, not_and]
    exact fun x hx => hp i hi x hx
  have hsum := List.length_eq_length_filter_add (l := List.range n)
    (fun i => decide (i ∈ xs.map f))
  rw [List.length_range] at hsum
  omega

/-! ## Words -/

theorem setWidth_and_255 (x : BitVec 32) : (x &&& 0xff#32).setWidth 8 = x.setWidth 8 := by
  rw [and_mask 8 (by decide) x, BitVec.setWidth_setWidth_of_le _ (by decide), BitVec.setWidth_eq]

/-- **The four bytes of a word make it up.** -/
theorem or_bytes (v : BitVec 32) :
    (v.setWidth 8).setWidth 32 ||| ((v >>> 8).setWidth 8).setWidth 32 <<< 8 |||
      ((v >>> 16).setWidth 8).setWidth 32 <<< 16 ||| ((v >>> 24).setWidth 8).setWidth 32 <<< 24 =
      v := by
  ext i hi
  simp only [BitVec.getElem_or, BitVec.getElem_shiftLeft, BitVec.getElem_setWidth,
    BitVec.getLsbD_setWidth, BitVec.getLsbD_ushiftRight]
  -- one case for each byte the bit may be in
  have hbyte : i < 8 ∨ 8 ≤ i ∧ i < 16 ∨ 16 ≤ i ∧ i < 24 ∨ 24 ≤ i := by omega
  rcases hbyte with h | ⟨h, h'⟩ | ⟨h, h'⟩ | h <;> grind

/-- The bytes a word was made up of. -/
theorem bytes_of_or (a b c d : BitVec 8) {v : BitVec 32}
    (h : a.setWidth 32 ||| b.setWidth 32 <<< 8 ||| c.setWidth 32 <<< 16 |||
      d.setWidth 32 <<< 24 = v) :
    v.setWidth 8 = a ∧ (v >>> 8).setWidth 8 = b ∧ (v >>> 16).setWidth 8 = c ∧
      (v >>> 24).setWidth 8 = d := by
  subst h
  refine ⟨?_, ?_, ?_, ?_⟩ <;> ext i hi <;>
    simp only [BitVec.getElem_setWidth, BitVec.getLsbD_ushiftRight, BitVec.getLsbD_or,
      BitVec.getLsbD_shiftLeft, BitVec.getLsbD_setWidth] <;> grind

/-! ## Arrays of bytes -/

/-- `m[i >> 3] & (1 << (i & 7))`. -/
def testAt (m : Nat → BitVec 8) (i : Nat) : Bool := hasBit (m (i / 8)) (i % 8)

/-- `m[i >> 3] |= 1 << (i & 7)`. -/
def setAt (m : Nat → BitVec 8) (i : Nat) : Nat → BitVec 8 := fun k =>
  if k = i / 8 then m k ||| bit 8 (i % 8) else m k

theorem testAt_zero (i : Nat) : testAt (fun _ => 0#8) i = false := hasBit_zero (i % 8)

/-- **Setting a bit of an array adds one number to its set.** -/
theorem testAt_setAt (m : Nat → BitVec 8) (i j : Nat) :
    testAt (setAt m i) j = (testAt m j || decide (i = j)) := by
  unfold testAt setAt
  by_cases hbyte : j / 8 = i / 8
  · have hiff : i % 8 = j % 8 ↔ i = j := by omega
    rw [if_pos hbyte, hasBit_or_bit _ (Nat.mod_lt i (by decide))]
    simp only [hiff]
  · have hne : i ≠ j := fun h => hbyte (by rw [h])
    rw [if_neg hbyte, decide_eq_false hne, Bool.or_false]

end MagicTrackpad.Lib.Bitmask
