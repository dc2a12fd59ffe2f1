import Mathlib.Data.List.Basic
import Mathlib.Logic.Function.Basic

/-!
# Sequences of literals and back references

A `Token` appends an entry, or entries that stand a fixed distance back; the source of a copy may
overlap what it writes. `expand` is what a list of tokens makes of a text, `none` where one reaches
back before its start.

A decoder keeps the last N entries of the text in a ring. `Window` says that it does: entry q of the
text is at index q mod N, as long as q is among the last N.

* `prefix_expand`: a text is only appended to.
* `Window.push`, `Window.read`: writing the next entry, and reading one at a distance of at most N.
* `copyFrom_one`: a copy from 1 back is a run.
-/

namespace MagicTrackpad.Lib.Lz77

variable {α : Type}

/-- An entry, or a copy of `n` entries from `dist` back. -/
inductive Token (α : Type)
  | lit (b : α)
  | copy (dist n : Nat)

/-- `n` entries, each the one `dist` back from where it is written. -/
def copyFrom (dist : Nat) : Nat → List α → Option (List α)
  | 0, xs => some xs
  | n + 1, xs =>
    if h : 0 < dist ∧ dist ≤ xs.length then copyFrom dist n (xs ++ [xs[xs.length - dist]]) else none

/-- One token. -/
def expandToken : Token α → List α → Option (List α)
  | .lit b, xs => some (xs ++ [b])
  | .copy dist n, xs => copyFrom dist n xs

/-- The tokens in order. -/
def expand : List (Token α) → List α → Option (List α)
  | [], xs => some xs
  | t :: ts, xs => (expandToken t xs).bind (expand ts)

theorem prefix_copyFrom {dist n : Nat} {xs ys : List α} (h : copyFrom dist n xs = some ys) :
    xs <+: ys := by
  induction n generalizing xs with
  | zero =>
    obtain rfl : xs = ys := Option.some.inj h
    exact List.prefix_refl xs
  | succ n ih =>
    rw [copyFrom] at h
    split at h
    · exact (List.prefix_append xs _).trans (ih h)
    · exact absurd h.symm (Option.some_ne_none ys)

theorem prefix_expandToken {t : Token α} {xs ys : List α} (h : expandToken t xs = some ys) :
    xs <+: ys := by
  cases t with
  | lit b =>
    obtain rfl : xs ++ [b] = ys := Option.some.inj h
    exact List.prefix_append xs [b]
  | copy dist n => exact prefix_copyFrom h

theorem expand_append (ts us : List (Token α)) (xs : List α) :
    expand (ts ++ us) xs = (expand ts xs).bind (expand us) := by
  induction ts generalizing xs with
  | nil => rfl
  | cons t ts ih =>
    rw [List.cons_append, expand, expand, Option.bind_assoc]
    exact Option.bind_congr fun ys _ => ih ys

/-- **A text is only appended to.** -/
theorem prefix_expand {ts : List (Token α)} {xs ys : List α} (h : expand ts xs = some ys) :
    xs <+: ys := by
  induction ts generalizing xs with
  | nil =>
    obtain rfl : xs = ys := Option.some.inj h
    exact List.prefix_refl xs
  | cons t ts ih =>
    obtain ⟨zs, ht, hts⟩ := Option.bind_eq_some_iff.mp h
    exact (prefix_expandToken ht).trans (ih hts)

/-- A copy from 1 back is a run. -/
theorem copyFrom_one (n : Nat) (c : α) (xs : List α) :
    copyFrom 1 n (xs ++ [c]) = some (xs ++ [c] ++ List.replicate n c) := by
  induction n generalizing xs with
  | zero => rw [List.replicate_zero, List.append_nil]; rfl
  | succ n ih =>
    have hback : 0 < 1 ∧ 1 ≤ (xs ++ [c]).length := by
      rw [List.length_append, List.length_singleton]
      omega
    have hlast : (xs ++ [c])[(xs ++ [c]).length - 1] = c := by simp
    rw [copyFrom, dif_pos hback, hlast, ih, List.replicate_succ, List.append_assoc (xs ++ [c])]
    rfl

/-! ## The ring -/

/-- The last N entries of the text are in the ring. -/
def Window (N : Nat) (ring : Nat → α) (xs : List α) : Prop :=
  ∀ q, (hq : q < xs.length) → xs.length ≤ q + N → ring (q % N) = xs[q]

variable {N : Nat} {ring : Nat → α} {xs : List α}

/-- Different entries of one window are at different indices. -/
theorem mod_ne_mod {p q : Nat} (hlt : q < p) (hN : p < q + N) : q % N ≠ p % N := by
  intro h
  have hdvd : N ∣ p - q := Nat.dvd_of_mod_eq_zero (Nat.sub_mod_eq_zero_of_mod_eq h.symm)
  have hle := Nat.le_of_dvd (Nat.sub_pos_of_lt hlt) hdvd
  omega

/-- **The next entry is written.** -/
theorem Window.push (h : Window N ring xs) (c : α) :
    Window N (Function.update ring (xs.length % N) c) (xs ++ [c]) := by
  intro q hq hrange
  rw [List.length_append, List.length_singleton] at hq hrange
  by_cases hlast : q = xs.length
  · subst hlast
    rw [Function.update_self, List.getElem_append_right (Nat.le_refl _)]
    simp
  · have hold : q < xs.length := by omega
    rw [Function.update_of_ne (mod_ne_mod hold (by omega)), List.getElem_append_left hold]
    exact h q hold (by omega)

/-- **An entry is read**, at a distance within the ring. -/
theorem Window.read (h : Window N ring xs) {dist : Nat} (hdist : 0 < dist ∧ dist ≤ xs.length)
    (hN : dist ≤ N) : ring ((xs.length - dist) % N) = xs[xs.length - dist] :=
  h (xs.length - dist) (by omega) (by omega)

end MagicTrackpad.Lib.Lz77
