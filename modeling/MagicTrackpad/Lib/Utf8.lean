import Mathlib.Data.List.Basic

/-!
# Cutting UTF-8 between characters

Byte strings as lists of `BitVec 8`. `IsUtf8` is the validity of core's `ByteArray.IsValidUTF8`, the
encoding of a list of Unicode scalar values, and `isCont` the test `(b & 0xC0) == 0x80` for the
bytes inside an encoding.

* `isUtf8_take_iff`: a prefix of a valid string is valid iff the byte after it starts a character.
* `exists_start`: the first byte of the character at a position is at most three bytes back.
* `longest_prefix`: a cut that walks back to a first byte keeps as much as fits.
-/

namespace MagicTrackpad.Lib.Utf8

/-- The bytes, as core holds them. -/
def toBytes (bs : List (BitVec 8)) : List UInt8 := bs.map UInt8.ofBitVec

/-- Valid UTF-8. -/
def IsUtf8 (bs : List (BitVec 8)) : Prop := (toBytes bs).toByteArray.IsValidUTF8

instance (bs : List (BitVec 8)) : Decidable (IsUtf8 bs) :=
  inferInstanceAs (Decidable (ByteArray.IsValidUTF8 _))

/-- `(b & 0xC0) == 0x80`: a continuation byte. -/
def isCont (b : BitVec 8) : Bool := b &&& 0xC0#8 = 0x80#8

/-- A valid string is the encoding of its characters. -/
theorem IsUtf8.exists_chars {bs : List (BitVec 8)} (h : IsUtf8 bs) :
    ∃ cs : List Char, toBytes bs = cs.flatMap String.utf8EncodeChar := by
  obtain ⟨cs, hcs⟩ := h
  refine ⟨cs, ?_⟩
  have hdata := congrArg (fun b => b.data.toList) hcs
  simpa [List.utf8Encode] using hdata

/-! ## First bytes and continuation bytes -/

theorem cont_of_low : ∀ y, y < 64 → UInt8.ofNat y + 0x80 &&& 0xC0 = 0x80 := by decide

theorem cont_of_mem_tail (c : Char) :
    ∀ b ∈ (String.utf8EncodeChar c).tail, b &&& 0xC0 = 0x80 := by
  have hcont : ∀ x : Nat, UInt8.ofNat (x % 0x40) + 0x80 &&& 0xC0 = 0x80 := fun x =>
    cont_of_low _ (Nat.mod_lt x (by decide))
  fun_cases String.utf8EncodeChar c <;> simp [hcont]

theorem isCont_of_start :
    ∀ b : BitVec 8, (UInt8.ofBitVec b).IsUTF8FirstByte → isCont b = false := by
  decide

/-- An encoding has no other bytes. -/
theorem start_or_cont (c : Char) {b : UInt8} (hb : b ∈ String.utf8EncodeChar c) :
    b.IsUTF8FirstByte ∨ b &&& 0xC0 = 0x80 := by
  obtain ⟨i, hi, rfl⟩ := List.getElem_of_mem hb
  cases i with
  | zero => exact Or.inl (UInt8.isUTF8FirstByte_getElem_utf8EncodeChar.mpr rfl)
  | succ i =>
    refine Or.inr (cont_of_mem_tail c _ ?_)
    have hi' : i < (String.utf8EncodeChar c).tail.length := by
      rw [List.length_tail]
      omega
    have hmem := List.getElem_mem hi'
    rwa [List.getElem_tail] at hmem

/-- In a valid string, the test finds the first bytes. -/
theorem start_iff {bs : List (BitVec 8)} (h : IsUtf8 bs) {b : BitVec 8} (hb : b ∈ bs) :
    (UInt8.ofBitVec b).IsUTF8FirstByte ↔ isCont b = false := by
  refine ⟨isCont_of_start b, fun hnot => ?_⟩
  obtain ⟨cs, hcs⟩ := h.exists_chars
  have hmem : UInt8.ofBitVec b ∈ cs.flatMap String.utf8EncodeChar := by
    rw [← hcs]
    exact List.mem_map_of_mem hb
  obtain ⟨c, -, hc⟩ := List.mem_flatMap.mp hmem
  refine (start_or_cont c hc).resolve_right fun hcont => ?_
  have hbit : b &&& 0xC0#8 = 0x80#8 := congrArg UInt8.toBitVec hcont
  rw [isCont, hbit] at hnot
  exact absurd hnot (by decide)

/-! ## Prefixes -/

theorem extract_toByteArray (bs : List (BitVec 8)) (k : Nat) :
    (toBytes bs).toByteArray.extract 0 k = (toBytes (bs.take k)).toByteArray := by
  ext1
  simp [toBytes]

/-- **A prefix is valid iff the next byte starts a character.** -/
theorem isUtf8_take_iff {bs : List (BitVec 8)} (h : IsUtf8 bs) {k : Nat} (hk : k < bs.length) :
    IsUtf8 (bs.take k) ↔ isCont bs[k] = false := by
  let s : String := ⟨(toBytes bs).toByteArray, h⟩
  have hsize : s.rawEndPos = ⟨bs.length⟩ := by
    simp [s, String.rawEndPos, toBytes, String.utf8ByteSize]
  have hlt : (⟨k⟩ : String.Pos.Raw) < s.rawEndPos := by
    rw [hsize]
    exact hk
  have hbyte : s.getUTF8Byte ⟨k⟩ hlt = UInt8.ofBitVec bs[k] := by
    simp [s, String.getUTF8Byte, toBytes]
  have hne : (⟨k⟩ : String.Pos.Raw) ≠ s.rawEndPos := fun heq => by
    rw [heq] at hlt
    exact absurd hlt (Nat.lt_irrefl _)
  have hvalid : (⟨k⟩ : String.Pos.Raw).IsValid s ↔ _ := String.Pos.Raw.isValid_iff_isUTF8FirstByte
  rw [String.Pos.Raw.isValid_iff_isValidUTF8_extract_zero] at hvalid
  rw [← start_iff h (List.getElem_mem hk), ← hbyte, IsUtf8, ← extract_toByteArray]
  constructor
  · intro hprefix
    obtain ⟨_, hstart⟩ := (hvalid.mp ⟨Nat.le_of_lt hlt, hprefix⟩).resolve_left hne
    exact hstart
  · intro hstart
    exact (hvalid.mpr (Or.inr ⟨hlt, hstart⟩)).2

theorem exists_start_chars (cs : List Char) {k : Nat}
    (hk : k < (cs.flatMap String.utf8EncodeChar).length) :
    ∃ j, ∃ hj : j < (cs.flatMap String.utf8EncodeChar).length, j ≤ k ∧ k ≤ j + 3 ∧
      ((cs.flatMap String.utf8EncodeChar)[j]).IsUTF8FirstByte := by
  induction cs generalizing k with
  | nil => exact absurd hk (Nat.not_lt_zero k)
  | cons c cs ih =>
    have hlen := String.length_utf8EncodeChar c
    have hpos := c.utf8Size_pos
    have hfour := c.utf8Size_le_four
    simp only [List.flatMap_cons, List.length_append] at hk ⊢
    by_cases hin : k < (String.utf8EncodeChar c).length
    · refine ⟨0, by omega, Nat.zero_le k, by omega, ?_⟩
      rw [List.getElem_append_left (by omega)]
      exact UInt8.isUTF8FirstByte_getElem_utf8EncodeChar.mpr rfl
    · obtain ⟨j, hj, hjk, hkj, hstart⟩ := ih (k := k - (String.utf8EncodeChar c).length) (by omega)
      refine ⟨(String.utf8EncodeChar c).length + j, by omega, by omega, by omega, ?_⟩
      rw [List.getElem_append_right (by omega)]
      simpa using hstart

/-- **The first byte of the character at `k` is at most three bytes back.** -/
theorem exists_start {bs : List (BitVec 8)} (h : IsUtf8 bs) {k : Nat} (hk : k < bs.length) :
    ∃ j, ∃ hj : j < bs.length, j ≤ k ∧ k ≤ j + 3 ∧ isCont bs[j] = false := by
  obtain ⟨cs, hcs⟩ := h.exists_chars
  have hlen : (cs.flatMap String.utf8EncodeChar).length = bs.length := by
    rw [← hcs, toBytes, List.length_map]
  obtain ⟨j, hj, hjk, hkj, hstart⟩ := exists_start_chars cs (k := k) (by omega)
  refine ⟨j, by omega, hjk, hkj, ?_⟩
  simp only [← hcs, toBytes, List.getElem_map] at hstart
  exact isCont_of_start _ hstart

/-- **The longest valid prefix within `k` bytes** ends at the last first byte up to `k`. -/
theorem longest_prefix {bs : List (BitVec 8)} (h : IsUtf8 bs) {j k : Nat} (hk : k < bs.length)
    (hjk : j ≤ k) (hj : ∀ hlt : j < bs.length, isCont bs[j] = false)
    (hbetween : ∀ i (hi : i < bs.length), j < i → i ≤ k → isCont bs[i] = true) :
    IsUtf8 (bs.take j) ∧ k ≤ j + 3 ∧
      ∀ p, p <+: bs → IsUtf8 p → p.length ≤ k → p.length ≤ j := by
  have hlt := Nat.lt_of_le_of_lt hjk hk
  refine ⟨(isUtf8_take_iff h hlt).mpr (hj hlt), ?_, fun p hp hvalid hpk => ?_⟩
  · obtain ⟨i, hi, hik, hki, hstart⟩ := exists_start h hk
    have hij : i ≤ j := by
      by_contra hnot
      rw [hbetween i hi (Nat.lt_of_not_le hnot) hik] at hstart
      exact absurd hstart (by decide)
    omega
  · by_contra hnot
    have hplt : p.length < bs.length := Nat.lt_of_le_of_lt hpk hk
    rw [List.prefix_iff_eq_take.mp hp, isUtf8_take_iff h hplt,
      hbetween _ hplt (Nat.lt_of_not_le hnot) hpk] at hvalid
    exact absurd hvalid (by decide)

end MagicTrackpad.Lib.Utf8
