import Mathlib.Data.List.Basic

/-!
# Fixed-capacity slot buffers and the loops that fill them

A `SlotBuffer α cap` is a C array of `cap` slots with a fill count: the slots from `count` on keep
whatever was stored there last. That the count never passes the capacity is a field, so a buffer
that overflows cannot be built. `toList` is what a reader that stops at `count` sees.

The loops of C code over such a buffer are `Nat.fold`s over the index. Each result below says what
one kind of loop does to the list view, whatever the slots beyond the count hold:

* `toList_push`: an append, dropped when the buffer is full.
* `toList_compact`: in-place compaction with a write index is `List.filter`.
* `fold_rewrite`: rewriting slot `i` from its own content, with an accumulator, is `List.map` and
  `List.foldl`.
* `toList_fold_push`: appending the selected indices of a range is `filter` and `map`, cut at the
  capacity; `fold_push_congr`: only the values at the selected indices matter.
* `toList_fold_pushWith`: filling a cleared buffer, each new slot computed over its stale content.
-/

namespace MagicTrackpad.Lib

/-- `cap` slots of which the first `count` are in use. -/
@[ext] structure SlotBuffer (α : Type) (cap : Nat) where
  slots : Nat → α
  count : Nat
  count_le : count ≤ cap

namespace SlotBuffer

variable {α β : Type} {cap : Nat}

/-- The used slots, in order. -/
def toList (b : SlotBuffer α cap) : List α := (List.range b.count).map b.slots

/-- `slots[i] = v`. -/
def set (b : SlotBuffer α cap) (i : Nat) (v : α) : SlotBuffer α cap :=
  { b with slots := fun k => if k = i then v else b.slots k }

/-- `count = n`, never past the capacity. -/
def resize (b : SlotBuffer α cap) (n : Nat) : SlotBuffer α cap :=
  { b with count := min n cap, count_le := Nat.min_le_right n cap }

/-- `p = &slots[count++]`, then the slot rewritten through `p`: `f` is given its stale content. -/
def pushWith (b : SlotBuffer α cap) (f : α → α) : SlotBuffer α cap :=
  if h : b.count < cap then
    { slots := fun k => if k = b.count then f (b.slots k) else b.slots k
      count := b.count + 1
      count_le := h }
  else b

/-- `slots[count++] = v`. -/
def push (b : SlotBuffer α cap) (v : α) : SlotBuffer α cap := b.pushWith fun _ => v

/-- One turn of the compaction loop: `kept` is the write index. -/
def compactStep (p : α → Bool) (i : Nat) (st : SlotBuffer α cap × Nat) : SlotBuffer α cap × Nat :=
  if p (st.1.slots i) then
    (if st.2 ≠ i then st.1.set st.2 (st.1.slots i) else st.1, st.2 + 1)
  else st

/-- `kept = 0; for i < count: if p(slots[i]) { if (kept != i) slots[kept] = slots[i]; kept++ };
count = kept`. -/
def compact (b : SlotBuffer α cap) (p : α → Bool) : SlotBuffer α cap :=
  let st := Nat.fold b.count (fun i _ st => compactStep p i st) (b, 0)
  st.1.resize st.2

/-! ## The list view of one operation -/

@[simp] theorem length_toList (b : SlotBuffer α cap) : b.toList.length = b.count := by
  simp [toList]

theorem getElem_toList (b : SlotBuffer α cap) (i : Nat) (h : i < b.toList.length) :
    b.toList[i] = b.slots i := by
  simp [toList]

theorem getElem?_toList {b : SlotBuffer α cap} {i : Nat} (h : i < b.count) :
    b.toList[i]? = some (b.slots i) := by
  rw [toList, List.getElem?_map, List.getElem?_range h]
  rfl

theorem length_toList_le (b : SlotBuffer α cap) : b.toList.length ≤ cap := by
  rw [length_toList]
  exact b.count_le

@[simp] theorem count_resize (b : SlotBuffer α cap) (n : Nat) : (b.resize n).count = min n cap :=
  rfl

@[simp] theorem toList_resize_zero (b : SlotBuffer α cap) : (b.resize 0).toList = [] := by
  simp [toList, resize]

theorem toList_pushWith {b : SlotBuffer α cap} (h : b.count < cap) (f : α → α) :
    (b.pushWith f).toList = b.toList ++ [f (b.slots b.count)] := by
  simp only [pushWith, dif_pos h, toList, List.range_succ, List.map_append, List.map_singleton,
    if_true]
  congr 1
  refine List.map_congr_left fun k hk => ?_
  rw [if_neg (Nat.ne_of_lt (List.mem_range.mp hk))]

/-- **An append is cut at the capacity.** -/
theorem toList_push (b : SlotBuffer α cap) (v : α) :
    (b.push v).toList = (b.toList ++ [v]).take cap := by
  by_cases h : b.count < cap
  · have hle : (b.toList ++ [v]).length ≤ cap := by
      rw [List.length_append, length_toList]
      exact h
    rw [push, toList_pushWith h, List.take_of_length_le hle]
  · have hfull : b.toList.length = cap := by
      have := b.count_le
      rw [length_toList]
      omega
    have hb : b.push v = b := dif_neg h
    rw [hb, List.take_append_of_le_length (Nat.le_of_eq hfull.symm),
      List.take_of_length_le (Nat.le_of_eq hfull)]

/-! ## Compaction -/

/-- The compaction loop after `n` turns: the write index counts the kept slots, the slots below it
hold them in order, and no slot from `n` on has changed. -/
theorem fold_compact (p : α → Bool) (b : SlotBuffer α cap) (n : Nat) :
    let st := Nat.fold n (fun i _ st => compactStep p i st) (b, 0)
    (List.range st.2).map st.1.slots = ((List.range n).map b.slots).filter p ∧ st.2 ≤ n ∧
      ∀ k, n ≤ k → st.1.slots k = b.slots k := by
  induction n with
  | zero => simp
  | succ n ih =>
    obtain ⟨hkept, hle, hrest⟩ := ih
    rw [Nat.fold_succ]
    generalize Nat.fold n (fun i _ st => compactStep p i st) (b, 0) = st at hkept hle hrest ⊢
    have hn : st.1.slots n = b.slots n := hrest n (Nat.le_refl n)
    have hrange : ((List.range (n + 1)).map b.slots).filter p =
        (List.range st.2).map st.1.slots ++ if p (b.slots n) then [b.slots n] else [] := by
      rw [List.range_succ, List.map_append, List.filter_append, ← hkept]
      by_cases hp : p (b.slots n) = true <;> simp [hp]
    rw [hrange]
    unfold compactStep
    rw [hn]
    by_cases hp : p (b.slots n) = true
    · by_cases hk : st.2 = n
      · simp only [hp, hk, if_true, ne_eq, not_true_eq_false, if_false, List.range_succ,
          List.map_append, List.map_singleton, hn]
        exact ⟨trivial, Nat.le_refl _, fun k hk' => hrest k (Nat.le_of_succ_le hk')⟩
      · simp only [hp, if_true, ne_eq, hk, not_false_eq_true, List.range_succ, List.map_append,
          List.map_singleton, set]
        refine ⟨?_, by omega, fun k hk' => ?_⟩
        · congr 1
          refine List.map_congr_left fun k hk' => ?_
          rw [if_neg (Nat.ne_of_lt (List.mem_range.mp hk'))]
        · rw [if_neg (by omega)]
          exact hrest k (Nat.le_of_succ_le hk')
    · simp only [hp, Bool.false_eq_true, if_false, List.append_nil]
      exact ⟨trivial, Nat.le_succ_of_le hle, fun k hk' => hrest k (Nat.le_of_succ_le hk')⟩

/-- **In-place compaction is `filter`.** -/
theorem toList_compact (b : SlotBuffer α cap) (p : α → Bool) :
    (b.compact p).toList = b.toList.filter p := by
  obtain ⟨hkept, hle, -⟩ := fold_compact p b b.count
  unfold compact
  rw [toList, toList, ← hkept, count_resize, Nat.min_eq_left (Nat.le_trans hle b.count_le)]
  rfl

/-! ## Rewriting the used slots in place -/

/-- The buffer with `f` applied to its first `n` slots. -/
def rewrite (b : SlotBuffer α cap) (n : Nat) (f : α → α) : SlotBuffer α cap :=
  { b with slots := fun k => if k < n then f (b.slots k) else b.slots k }

theorem toList_rewrite (b : SlotBuffer α cap) (f : α → α) :
    (b.rewrite b.count f).toList = b.toList.map f := by
  simp only [toList, rewrite, List.map_map]
  refine List.map_congr_left fun k hk => ?_
  rw [if_pos (List.mem_range.mp hk)]
  rfl

/-- **A loop that rewrites slot `i` from its own content**, and folds the old contents into an
accumulator. -/
theorem fold_rewrite (f : α → α) (g : β → α → β) (b : SlotBuffer α cap) (acc : β) (n : Nat) :
    Nat.fold n (fun i _ st => (st.1.set i (f (st.1.slots i)), g st.2 (st.1.slots i))) (b, acc) =
      (b.rewrite n f, ((List.range n).map b.slots).foldl g acc) := by
  induction n with
  | zero => simp [rewrite]
  | succ n ih =>
    rw [Nat.fold_succ, ih]
    have hn : (b.rewrite n f).slots n = b.slots n := if_neg (Nat.lt_irrefl n)
    simp only [hn, List.range_succ, List.map_append, List.map_singleton, List.foldl_append,
      List.foldl_cons, List.foldl_nil, Prod.mk.injEq, and_true]
    unfold rewrite set
    congr 1
    funext k
    rcases Nat.lt_trichotomy k n with h | rfl | h
    · simp [h, Nat.ne_of_lt h, Nat.lt_succ_of_lt h]
    · simp
    · simp [Nat.ne_of_gt h, Nat.not_lt_of_gt h, show ¬ k < n + 1 by omega]

/-! ## Appending in a loop -/

theorem take_take_append (n : Nat) (xs ys : List α) :
    (xs.take n ++ ys).take n = (xs ++ ys).take n := by
  rw [List.take_append, List.take_append, List.take_take, Nat.min_self, List.length_take]
  congr 2
  omega

/-- **Appending the selected indices of a range.** -/
theorem toList_fold_push (p : Nat → Bool) (g : Nat → α) (b : SlotBuffer α cap) (n : Nat) :
    (Nat.fold n (fun i _ b => if p i then b.push (g i) else b) b).toList =
      (b.toList ++ ((List.range n).filter p).map g).take cap := by
  induction n with
  | zero =>
    simp [List.take_of_length_le b.length_toList_le]
  | succ n ih =>
    rw [Nat.fold_succ, List.range_succ, List.filter_append, List.map_append, ← List.append_assoc]
    by_cases hp : p n = true
    · rw [if_pos hp, toList_push, ih, take_take_append]
      simp [hp]
    · rw [if_neg hp, ih]
      simp [hp]

/-- Two such loops that append the same values at the selected indices fill the buffer alike, its
slots beyond the count included. -/
theorem fold_push_congr {p : Nat → Bool} {g g' : Nat → α} {n : Nat}
    (h : ∀ i, i < n → p i = true → g i = g' i) (b : SlotBuffer α cap) :
    Nat.fold n (fun i _ b => if p i then b.push (g i) else b) b =
      Nat.fold n (fun i _ b => if p i then b.push (g' i) else b) b := by
  induction n with
  | zero => rfl
  | succ n ih =>
    rw [Nat.fold_succ, Nat.fold_succ, ih fun i hi => h i (Nat.lt_succ_of_lt hi)]
    by_cases hp : p n = true
    · rw [if_pos hp, if_pos hp, h n (Nat.lt_succ_self n) hp]
    · rw [if_neg hp, if_neg hp]

/-- **Filling a cleared buffer**, each slot rewritten over its stale content. -/
theorem toList_fold_pushWith (f : Nat → α → α) (b : SlotBuffer α cap) {n : Nat} (hn : n ≤ cap) :
    let r := Nat.fold n (fun i _ b => b.pushWith (f i)) (b.resize 0)
    r.toList = (List.range n).map (fun i => f i (b.slots i)) ∧
      ∀ k, n ≤ k → r.slots k = b.slots k := by
  induction n with
  | zero => exact ⟨toList_resize_zero b, fun _ _ => rfl⟩
  | succ n ih =>
    obtain ⟨hlist, hrest⟩ := ih (Nat.le_of_succ_le hn)
    rw [Nat.fold_succ]
    generalize Nat.fold n (fun i _ b => b.pushWith (f i)) (b.resize 0) = r at hlist hrest ⊢
    have hcount : r.count = n := by rw [← length_toList, hlist]; simp
    have hlt : r.count < cap := by omega
    refine ⟨?_, fun k hk => ?_⟩
    · rw [toList_pushWith hlt, hlist, hcount, hrest n (Nat.le_refl n), List.range_succ,
        List.map_append, List.map_singleton]
    · have hk' : k ≠ r.count := by omega
      simp only [pushWith, dif_pos hlt, if_neg hk']
      exact hrest k (Nat.le_of_succ_le hk)

/-- The same, slot by slot. -/
theorem slots_fold_pushWith (f : Nat → α → α) (b : SlotBuffer α cap) {n : Nat} (hn : n ≤ cap) :
    let r := Nat.fold n (fun i _ b => b.pushWith (f i)) (b.resize 0)
    r.count = n ∧ ∀ i, i < n → r.slots i = f i (b.slots i) := by
  obtain ⟨hlist, -⟩ := toList_fold_pushWith f b hn
  intro r
  have hcount : r.count = n := by
    rw [← length_toList, hlist]
    simp
  refine ⟨hcount, fun i hi => ?_⟩
  have hget := getElem?_toList (hcount ▸ hi)
  rw [hlist, List.getElem?_map, List.getElem?_range hi] at hget
  exact (Option.some.inj hget).symm

end SlotBuffer

end MagicTrackpad.Lib
