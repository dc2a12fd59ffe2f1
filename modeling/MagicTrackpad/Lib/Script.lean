import Mathlib.Data.List.DropRight

/-!
# Following a script

A machine that waits for one key after another, and ignores all that it does not wait for.
`progress` is how far it has come: it is the longest prefix of the script that the inputs contain
in order.

* `progress_spec`: `k` keys are behind iff the first `k` keys are a sublist of the inputs.
* `since_concat_reset`, `since_concat`: the inputs since the last reset.
-/

namespace MagicTrackpad.Lib.Script

/-- The last key needs an input of its own. -/
theorem sublist_of_concat {α : Type} {xs ys : List α} {a b : α}
    (h : (xs ++ [a]).Sublist (ys ++ [b])) : xs.Sublist ys := by
  rw [← List.reverse_sublist, List.reverse_append, List.reverse_append] at h
  exact List.reverse_sublist.mp (List.Sublist.of_cons_cons h)

/-- An input that is not the last key is none of the keys' inputs. -/
theorem sublist_of_concat_ne {α : Type} {xs ys : List α} {a b : α} (hab : a ≠ b)
    (h : (xs ++ [a]).Sublist (ys ++ [b])) : (xs ++ [a]).Sublist ys := by
  rw [← List.reverse_sublist, List.reverse_append, List.reverse_append] at h
  rw [← List.reverse_sublist, List.reverse_append]
  cases h with
  | cons _ hrest => exact hrest
  | cons_cons => exact absurd rfl hab

variable {κ : Type} [DecidableEq κ]

/-- One input: the key that is waited for moves on, any other is ignored. -/
def advance (script : List κ) (n : Nat) (e : κ) : Nat :=
  if script[n]? = some e then n + 1 else n

/-- How many keys are behind, after these inputs. -/
def progress (script : List κ) (es : List κ) : Nat := es.foldl (advance script) 0

theorem progress_concat (script es : List κ) (e : κ) :
    progress script (es ++ [e]) = advance script (progress script es) e := by
  unfold progress
  rw [List.foldl_append]
  rfl

theorem progress_le_length (script es : List κ) : progress script es ≤ script.length := by
  induction es using List.reverseRecOn with
  | nil => exact Nat.zero_le _
  | append_singleton es e ih =>
    rw [progress_concat]
    unfold advance
    split
    · rename_i hkey
      exact (List.getElem?_eq_some_iff.mp hkey).1
    · exact ih

/-- The keys that are behind came in order. -/
theorem take_progress_sublist (script es : List κ) :
    (script.take (progress script es)).Sublist es := by
  induction es using List.reverseRecOn with
  | nil => exact List.Sublist.refl []
  | append_singleton es e ih =>
    rw [progress_concat]
    unfold advance
    split
    · rename_i hkey
      obtain ⟨hlt, rfl⟩ := List.getElem?_eq_some_iff.mp hkey
      rw [List.take_succ_eq_append_getElem hlt]
      exact List.Sublist.append ih (List.Sublist.refl _)
    · exact ih.trans (List.sublist_append_left es [e])

/-- No machine that matches in order is ahead. -/
theorem le_progress {script es : List κ} {k : Nat} (hk : k ≤ script.length)
    (h : (script.take k).Sublist es) : k ≤ progress script es := by
  induction es using List.reverseRecOn generalizing k with
  | nil =>
    have hnil := List.eq_nil_of_sublist_nil h
    rw [List.take_eq_nil_iff] at hnil
    rcases hnil with rfl | rfl
    · exact Nat.zero_le _
    · exact hk
  | append_singleton es e ih =>
    rw [progress_concat]
    cases k with
    | zero => exact Nat.zero_le _
    | succ k =>
      have hlt : k < script.length := hk
      rw [List.take_succ_eq_append_getElem hlt] at h
      have hbefore : k ≤ progress script es := ih (Nat.le_of_lt hlt) (sublist_of_concat h)
      unfold advance
      split
      · exact Nat.succ_le_succ hbefore
      · rename_i hkey
        rcases Nat.lt_or_eq_of_le hbefore with hahead | heq
        · exact hahead
        · rw [← heq, List.getElem?_eq_getElem hlt, Option.some.injEq] at hkey
          refine ih hk ?_
          rw [List.take_succ_eq_append_getElem hlt]
          exact sublist_of_concat_ne hkey h

/-- **The longest prefix that came in order.** -/
theorem progress_spec (script es : List κ) (k : Nat) :
    k ≤ progress script es ↔ k ≤ script.length ∧ (script.take k).Sublist es := by
  constructor
  · intro hk
    refine ⟨hk.trans (progress_le_length script es), ?_⟩
    have htake : script.take k = (script.take (progress script es)).take k := by
      rw [List.take_take, Nat.min_eq_left hk]
    rw [htake]
    exact (List.take_sublist _ _).trans (take_progress_sublist script es)
  · rintro ⟨hlen, hsub⟩
    exact le_progress hlen hsub

/-- The inputs since the last reset. -/
def since (reset : κ) (es : List κ) : List κ := es.rtakeWhile fun e => e ≠ reset

theorem since_concat_reset (reset : κ) (es : List κ) : since reset (es ++ [reset]) = [] := by
  unfold since
  rw [List.rtakeWhile_concat_neg]
  simp

theorem since_concat {reset e : κ} (he : e ≠ reset) (es : List κ) :
    since reset (es ++ [e]) = since reset es ++ [e] := by
  unfold since
  rw [List.rtakeWhile_concat_pos]
  simpa using he

end MagicTrackpad.Lib.Script
