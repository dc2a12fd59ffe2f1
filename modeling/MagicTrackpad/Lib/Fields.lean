import Mathlib.Algebra.Ring.Nat
import Mathlib.Data.List.Basic

/-!
# The fields of a line, and numerals

A line of text is split into fields at blanks and tabs, and a field into a key and a value at its
first `=`. Numbers are printed in base ten, with a sign, or in base sixteen after `0x`.

* `fields_append_blank`, `fields_word`, `fields_append_flatMap`: how a line that was put together
  comes apart.
* `keyValue_join`: so does a field.
* `decimal_inj`: a number is printed in one way.
* `plain_decimal`, `plain_hexadecimal`: no numeral contains a blank.
-/

namespace MagicTrackpad.Lib.Fields

/-- What separates the fields of a line. -/
def isBlank (c : Char) : Bool := [' ', '\t'].contains c

/-- The fields of a line. -/
def fields (line : List Char) : List (List Char) :=
  (line.splitOnP isBlank).filter fun w => w ≠ []

/-- A word without blanks. -/
def Plain (w : List Char) : Prop := ∀ c ∈ w, isBlank c = false

instance (w : List Char) : Decidable (Plain w) := List.decidableBAll _ w

theorem Plain.append {v w : List Char} (hv : Plain v) (hw : Plain w) : Plain (v ++ w) := by
  intro c hc
  rcases List.mem_append.mp hc with hc | hc
  · exact hv c hc
  · exact hw c hc

/-- **A blank ends a field.** -/
theorem fields_append_blank (xs ys : List Char) :
    fields (xs ++ ' ' :: ys) = fields xs ++ fields ys := by
  unfold fields
  rw [List.splitOnP_append_cons xs ys (by decide), List.filter_append]

theorem fields_word {w : List Char} (hw : Plain w) (hne : w ≠ []) : fields w = [w] := by
  unfold fields
  rw [List.splitOnP_eq_singleton hw]
  simpa using hne

/-- Fields put one behind the other, each after a blank, come apart again. -/
theorem fields_append_flatMap (xs : List Char) {ws : List (List Char)}
    (hws : ∀ w ∈ ws, Plain w ∧ w ≠ []) :
    fields (xs ++ ws.flatMap fun w => ' ' :: w) = fields xs ++ ws := by
  induction ws generalizing xs with
  | nil => simp
  | cons w ws ih =>
    obtain ⟨hplain, hne⟩ := hws w List.mem_cons_self
    rw [List.flatMap_cons, ← List.append_assoc, ih _ fun v hv => hws v (List.mem_cons_of_mem w hv),
      fields_append_blank, fields_word hplain hne, List.append_assoc, List.singleton_append]

/-- `KEY=VALUE`, split at the first `=`. -/
def keyValue (w : List Char) : Option (List Char × List Char) :=
  match w.dropWhile fun c => c ≠ '=' with
  | [] => none
  | _ :: v => some (w.takeWhile fun c => c ≠ '=', v)

theorem keyValue_join {k : List Char} (hk : '=' ∉ k) (v : List Char) :
    keyValue (k ++ '=' :: v) = some (k, v) := by
  have hkey : ∀ c ∈ k, decide (c ≠ '=') = true := by
    intro c hc
    rw [decide_eq_true_eq]
    rintro rfl
    exact hk hc
  unfold keyValue
  rw [List.dropWhile_append_of_pos hkey, List.takeWhile_append_of_pos hkey]
  simp

/-- `%d`. -/
def decimal (i : Int) : List Char :=
  if i < 0 then '-' :: Nat.toDigits 10 i.natAbs else Nat.toDigits 10 i.natAbs

/-- `%p`. -/
def hexadecimal (n : Nat) : List Char := '0' :: 'x' :: Nat.toDigits 16 n

theorem toDigits_inj {m n : Nat} (h : Nat.toDigits 10 m = Nat.toDigits 10 n) : m = n := by
  rw [← Nat.ofDigitChars_ten_toDigits (n := m), h, Nat.ofDigitChars_ten_toDigits]

/-- A numeral has no sign of its own. -/
theorem toDigits_ne_sign {m : Nat} {ds : List Char} : Nat.toDigits 10 m ≠ '-' :: ds := by
  intro h
  have hdigit : '-'.isDigit = true :=
    Nat.isDigit_of_mem_toDigits (b := 10) (n := m) (by decide) (by decide)
      (h ▸ List.mem_cons_self)
  exact absurd hdigit (by decide)

/-- **Different numbers are printed differently.** -/
theorem decimal_inj {i j : Int} (h : decimal i = decimal j) : i = j := by
  unfold decimal at h
  by_cases hi : i < 0
  · by_cases hj : j < 0
    · rw [if_pos hi, if_pos hj] at h
      have habs := toDigits_inj (List.cons.inj h).2
      omega
    · rw [if_pos hi, if_neg hj] at h
      exact absurd h.symm toDigits_ne_sign
  · by_cases hj : j < 0
    · rw [if_neg hi, if_pos hj] at h
      exact absurd h toDigits_ne_sign
    · rw [if_neg hi, if_neg hj] at h
      have habs := toDigits_inj h
      omega

/-- The characters of a numeral are digits. -/
theorem mem_toDigits {b : Nat} (hb : 1 < b) {n : Nat} {c : Char} (hc : c ∈ Nat.toDigits b n) :
    ∃ d < b, c = Nat.digitChar d := by
  induction n using Nat.strongRecOn with
  | ind n ih =>
    rw [Nat.toDigits_eq_if hb] at hc
    split at hc
    · rename_i hlt
      exact ⟨n, hlt, List.mem_singleton.mp hc⟩
    · rename_i hle
      rcases List.mem_append.mp hc with hc | hc
      · exact ih (n / b) (Nat.div_lt_self (by omega) hb) hc
      · exact ⟨n % b, Nat.mod_lt n (by omega), List.mem_singleton.mp hc⟩

theorem plain_digitChar : ∀ d < 16, isBlank (Nat.digitChar d) = false := by decide

theorem plain_toDigits {b : Nat} (hb : 1 < b) (hb' : b ≤ 16) (n : Nat) :
    Plain (Nat.toDigits b n) := by
  intro c hc
  obtain ⟨d, hd, rfl⟩ := mem_toDigits hb hc
  exact plain_digitChar d (Nat.lt_of_lt_of_le hd hb')

theorem plain_decimal (i : Int) : Plain (decimal i) := by
  unfold decimal
  split
  · exact Plain.append (v := ['-']) (by decide) (plain_toDigits (by decide) (by decide) _)
  · exact plain_toDigits (by decide) (by decide) _

theorem plain_hexadecimal (n : Nat) : Plain (hexadecimal n) :=
  Plain.append (v := ['0', 'x']) (by decide) (plain_toDigits (by decide) (by decide) n)

/-- A number of at most `k` digits, and a sign. -/
theorem length_decimal_le {i : Int} {k : Nat} (hk : 0 < k) (h : i.natAbs < 10 ^ k) :
    (decimal i).length ≤ k + 1 := by
  have hdigits := (Nat.length_toDigits_le_iff (b := 10) (by decide) hk).mpr h
  unfold decimal
  split
  · rw [List.length_cons]
    omega
  · omega

theorem length_hexadecimal_le {n k : Nat} (hk : 0 < k) (h : n < 16 ^ k) :
    (hexadecimal n).length ≤ k + 2 := by
  have hdigits := (Nat.length_toDigits_le_iff (b := 16) (by decide) hk).mpr h
  unfold hexadecimal
  rw [List.length_cons, List.length_cons]
  omega

end MagicTrackpad.Lib.Fields
