import MagicTrackpad.Frame
import MagicTrackpad.Lib.Bitmask
import MagicTrackpad.Lib.Lz77
import Mathlib.Tactic.IntervalCases

/-!
# The kernelcache (`tools/kc_lzss.c`)

`kc_lzss` takes the kernel out of a kernelcache: it finds the `complzss` header, and expands the
LZSS data behind it. A flag byte is followed by eight items, bit by bit: a literal, or two bytes for
a copy out of a ring of 4096 bytes.

* The ring starts with 4078 blanks. The bytes behind them are on the stack of `decompress_lzss`
  (`stack`), which nothing initializes, as nothing does the heap behind the file (`heap`).
* `encode` is the format: what a compressor may write, given how it parsed the text into literals
  and copies. `Kernelcache` is a header with such data.
* `Tracks` relates the decoder to the text: the ring is a window on it, while there is room.

Results:
* `InBounds.loop`: no input makes the decoder write outside of its buffers.
* `decompressLzss_encode`: what was encoded is decoded.
* `kcLzss_unsigned`: a file without a signature is refused.
* `kcLzss_kernelcache`: the kernel is taken out of its kernelcache, whatever memory had been before.

Out of scope: a `malloc` that fails, and an `uncompressed_size` that is negative as an `int`.
-/

namespace MagicTrackpad

open Lib Lib.Lz77

/-- `N`. -/
abbrev lzN : Nat := 4096

/-- `F`. -/
abbrev lzF : Nat := 18

/-- `THRESHOLD`. -/
abbrev lzThreshold : Nat := 2

/-- `N - F`, where the text starts in the ring. -/
def lzStart : Nat := lzN - lzF

theorem lzStart_le : lzStart ≤ lzN := by decide

/-- The locals of `decompress_lzss`; `dst` is what was written. -/
structure LzssState where
  textBuf : Nat → U8
  r : Nat
  dst : List U8

/-- `text_buf` and `r` before the loop. -/
def lzssInit (stack : Nat → U8) : LzssState :=
  ⟨fun i => if i < lzStart then 0x20#8 else stack i, lzStart, []⟩

/-- `if (dst < dstend) *dst++ = c; else break; text_buf[r++] = c; r &= (N - 1);` -/
def lzssPut (dstlen : Nat) (s : LzssState) (c : U8) : Option LzssState :=
  if s.dst.length < dstlen then
    some ⟨Function.update s.textBuf s.r c, (s.r + 1) % lzN, s.dst ++ [c]⟩
  else none

/-- The copy loop, with `n` rounds to go; where there is no room it stops, and only it. -/
def lzssCopy (dstlen : Nat) : Nat → Nat → LzssState → LzssState
  | 0, _, s => s
  | n + 1, i, s =>
    match lzssPut dstlen s (s.textBuf (i % lzN)) with
    | some s' => lzssCopy dstlen n (i + 1) s'
    | none => s

/-- The flags of the next item, and the input behind them. -/
def lzssFlags (flags : U32) (src : List U8) : Option (U32 × List U8) :=
  if flags &&& 0x100#32 = 0 then
    match src with
    | c :: src => some (c.setWidth 32 ||| 0xFF00#32, src)
    | [] => none
  else some (flags, src)

/-- One item; `none` where the loop ends. -/
def lzssItem (dstlen : Nat) (flags : U32) (src : List U8) (s : LzssState) :
    Option (List U8 × LzssState) :=
  if flags &&& 1#32 ≠ 0 then
    match src with
    | c :: src => (lzssPut dstlen s c).map fun s' => (src, s')
    | [] => none
  else
    match src with
    | lo :: j :: src =>
      let i := lo.toNat ||| ((j.toNat &&& 0xF0) <<< 4)
      some (src, lzssCopy dstlen ((j.toNat &&& 0x0F) + lzThreshold + 1) i s)
    | _ => none

theorem length_lzssFlags {flags flags' : U32} {src src' : List U8}
    (h : lzssFlags flags src = some (flags', src')) : src'.length ≤ src.length := by
  unfold lzssFlags at h
  split at h
  · cases src with
    | nil => exact absurd h.symm (Option.some_ne_none _)
    | cons c src =>
      obtain ⟨-, rfl⟩ := Prod.mk.inj (Option.some.inj h)
      exact Nat.le_succ _
  · obtain ⟨-, rfl⟩ := Prod.mk.inj (Option.some.inj h)
    exact Nat.le_refl _

/-- Every item takes input. -/
theorem length_lzssItem {dstlen : Nat} {flags : U32} {src src' : List U8} {s s' : LzssState}
    (h : lzssItem dstlen flags src s = some (src', s')) : src'.length < src.length := by
  unfold lzssItem at h
  split at h
  · cases src with
    | nil => exact absurd h.symm (Option.some_ne_none _)
    | cons c src =>
      obtain ⟨t, -, ht⟩ := Option.map_eq_some_iff.mp h
      obtain ⟨rfl, -⟩ := Prod.mk.inj ht
      exact Nat.lt_succ_self _
  · match src with
    | [] => exact absurd h.symm (Option.some_ne_none _)
    | [_] => exact absurd h.symm (Option.some_ne_none _)
    | lo :: j :: src =>
      obtain ⟨rfl, -⟩ := Prod.mk.inj (Option.some.inj h)
      exact Nat.lt_succ_of_lt (Nat.lt_succ_self _)

/-- The loop of `decompress_lzss`, from `flags >>= 1` on. -/
def lzssLoop (dstlen : Nat) (flags : U32) (src : List U8) (s : LzssState) : LzssState :=
  match _hflags : lzssFlags (flags >>> 1) src with
  | none => s
  | some (flags', src') =>
    match _hitem : lzssItem dstlen flags' src' s with
    | none => s
    | some (src'', s') => lzssLoop dstlen flags' src'' s'
termination_by src.length
decreasing_by exact Nat.lt_of_lt_of_le (length_lzssItem ‹_›) (length_lzssFlags ‹_›)

/-- `decompress_lzss`: what it wrote. -/
def decompressLzss (stack : Nat → U8) (dstlen : Nat) (src : List U8) : List U8 :=
  (lzssLoop dstlen 0 src (lzssInit stack)).dst

/-! ## The format -/

/-- A token that an item can say. -/
def Fits : Token U8 → Prop
  | .lit _ => True
  | .copy dist n => dist ≤ lzN ∧ lzThreshold < n ∧ n ≤ lzF

/-- The bytes of an item; `w` is the length of the text before it, blanks included. -/
def itemBytes (w : Nat) : Token U8 → List U8
  | .lit b => [b]
  | .copy dist n =>
    let i := (w - dist) % lzN
    [BitVec.ofNat 8 (i % 256), BitVec.ofNat 8 (i / 256 * 16 + (n - lzThreshold - 1))]

/-- How much a token adds. -/
def tokenSize : Token U8 → Nat
  | .lit _ => 1
  | .copy _ n => n

/-- Items one behind the other. -/
def itemsBytes : Nat → List (Token U8) → List U8
  | _, [] => []
  | w, t :: ts => itemBytes w t ++ itemsBytes (w + tokenSize t) ts

/-- The flag of an item. -/
def isLit : Token U8 → Nat
  | .lit _ => 1
  | .copy _ _ => 0

/-- The flags of a group, the first item in the lowest bit. -/
def flagBits : List (Token U8) → Nat
  | [] => 0
  | t :: ts => isLit t + 2 * flagBits ts

/-- The groups of a text of length `w`. -/
def encodeFrom (w : Nat) : List (Token U8) → List U8
  | [] => []
  | t :: ts =>
    BitVec.ofNat 8 (flagBits (t :: ts.take 7)) :: itemsBytes w (t :: ts.take 7) ++
      encodeFrom (w + ((t :: ts.take 7).map tokenSize).sum) (ts.drop 7)
termination_by ts => ts.length
decreasing_by simp only [List.length_drop, List.length_cons]; omega

/-- The blanks before the text. -/
def lzssBlanks : List U8 := List.replicate lzStart 0x20#8

/-- The LZSS data of the tokens. -/
def encode (ts : List (Token U8)) : List U8 := encodeFrom lzssBlanks.length ts

/-! ## The ring and the text -/

/-- The state of the decoder in terms of the text, blanks included: what it wrote is the text as far
as there was room; and as long as there was, the ring is a window on the text. -/
structure Tracks (dstlen : Nat) (xs : List U8) (s : LzssState) : Prop where
  blanks : lzStart ≤ xs.length
  dst : s.dst = (xs.drop lzStart).take dstlen
  ring : xs.length - lzStart ≤ dstlen → Window lzN s.textBuf xs ∧ s.r = xs.length % lzN

theorem tracks_init (stack : Nat → U8) (dstlen : Nat) :
    Tracks dstlen lzssBlanks (lzssInit stack) where
  blanks := by simp [lzssBlanks]
  dst := by simp [lzssBlanks, lzssInit]
  ring := by
    refine fun _ => ⟨fun q hq _ => ?_, ?_⟩
    · have hq' : q < lzStart := by simpa [lzssBlanks] using hq
      have hmod : q % lzN = q := Nat.mod_eq_of_lt (Nat.lt_of_lt_of_le hq' lzStart_le)
      simp only [lzssInit, lzssBlanks, hmod, if_pos hq', List.getElem_replicate]
    · rw [lzssBlanks, List.length_replicate]
      rfl

variable {dstlen : Nat} {xs ys : List U8} {s : LzssState}

theorem Tracks.length_dst (hs : Tracks dstlen xs s) :
    s.dst.length = min dstlen (xs.length - lzStart) := by
  rw [hs.dst, List.length_take, List.length_drop]

/-- Where there is no room left, the text may go on by itself. -/
theorem Tracks.full (hs : Tracks dstlen xs s) (hfull : dstlen ≤ xs.length - lzStart)
    (hpre : xs <+: ys) : Tracks dstlen ys s := by
  obtain ⟨zs, rfl⟩ := hpre
  have hblanks := hs.blanks
  refine ⟨?_, ?_, fun hroom => ?_⟩
  · rw [List.length_append]
    omega
  · rw [hs.dst, List.drop_append_of_le_length hblanks, List.take_append_of_le_length]
    rwa [List.length_drop]
  · -- there is room for the text only where it did not go on
    rw [List.length_append] at hroom
    have hnil : zs = [] := List.length_eq_zero_iff.mp (by omega)
    rw [hnil, List.append_nil]
    exact hs.ring (by omega)

/-- **A byte is written while there is room.** -/
theorem Tracks.put (hs : Tracks dstlen xs s) (hroom : xs.length - lzStart < dstlen) (c : U8) :
    ∃ s', lzssPut dstlen s c = some s' ∧ Tracks dstlen (xs ++ [c]) s' := by
  have hblanks := hs.blanks
  obtain ⟨hring, hr⟩ := hs.ring (by omega)
  refine ⟨_, if_pos (by rw [hs.length_dst]; omega), ⟨?_, ?_, fun _ => ⟨?_, ?_⟩⟩⟩
  · rw [List.length_append]
    omega
  · have hlen : (xs.drop lzStart).length = xs.length - lzStart := List.length_drop
    rw [hs.dst, List.drop_append_of_le_length hblanks, List.take_of_length_le (by omega),
      List.take_of_length_le]
    rw [List.length_append, List.length_singleton]
    omega
  · rw [hr]
    exact hring.push c
  · simp only [hr, List.length_append, List.length_singleton, Nat.mod_add_mod]

theorem lzssPut_full (hs : Tracks dstlen xs s) (hfull : dstlen ≤ xs.length - lzStart) (c : U8) :
    lzssPut dstlen s c = none := if_neg (by rw [hs.length_dst]; omega)

/-- **A copy out of the ring is a copy of the text**, also where it overlaps itself. -/
theorem Tracks.copy {dist n i : Nat} (hs : Tracks dstlen xs s) (hdist : dist ≤ lzN)
    (hi : i % lzN = (xs.length - dist) % lzN) (hcopy : copyFrom dist n xs = some ys) :
    Tracks dstlen ys (lzssCopy dstlen n i s) := by
  induction n generalizing i xs s with
  | zero =>
    obtain rfl : xs = ys := Option.some.inj hcopy
    exact hs
  | succ n ih =>
    by_cases hroom : xs.length - lzStart < dstlen
    · have hpre := hcopy
      rw [copyFrom] at hcopy
      split at hcopy
      case isFalse => exact absurd hcopy.symm (Option.some_ne_none ys)
      case isTrue hback =>
        have hlt : xs.length - dist < xs.length := by omega
        obtain ⟨s', hput, hs'⟩ := hs.put hroom xs[xs.length - dist]
        have hchar : s.textBuf (i % lzN) = xs[xs.length - dist] := by
          rw [hi]
          exact (hs.ring (by omega)).1.read hback hdist
        rw [lzssCopy, hchar, hput]
        refine ih hs' ?_ hcopy
        have hnext : (xs ++ [xs[xs.length - dist]]).length - dist = xs.length - dist + 1 := by
          rw [List.length_append, List.length_singleton]
          omega
        rw [hnext, Nat.add_mod, hi, ← Nat.add_mod]
    · rw [lzssCopy, lzssPut_full hs (by omega)]
      exact hs.full (by omega) (prefix_copyFrom hcopy)

/-! ## The flags -/

/-- The flags with `ts` still to come, after `k` items of the group. -/
structure Pending (k : Nat) (ts : List (Token U8)) (flags : U32) : Prop where
  toNat : flags.toNat = 0xFF00 / 2 ^ k + flagBits ts
  le : k + ts.length ≤ 8

theorem isLit_le (t : Token U8) : isLit t ≤ 1 := by
  cases t with
  | lit b => exact Nat.le_refl 1
  | copy dist n => exact Nat.zero_le 1

theorem flagBits_lt (ts : List (Token U8)) : flagBits ts < 2 ^ ts.length := by
  induction ts with
  | nil => exact Nat.one_pos
  | cons t ts ih =>
    have hlit := isLit_le t
    rw [flagBits, List.length_cons, Nat.pow_succ]
    omega

/-- The ones above the flags: the lowest is bit 8 while a flag is left, and below it are only
flags. -/
theorem ones_shift {k n : Nat} (hk : k ≤ 7) (hn : n < 2 ^ (8 - k)) :
    (0xFF00 / 2 ^ k + n) / 2 ^ 8 % 2 = 1 ∧ 0xFF00 / 2 ^ k = 2 * (0xFF00 / 2 ^ (k + 1)) := by
  interval_cases k <;> simp only [Nat.reducePow, Nat.reduceSub, Nat.reduceDiv] at hn ⊢ <;> omega

theorem and_twoPow_eq_zero (x : U32) {i : Nat} (hi : i < 32) :
    x &&& BitVec.twoPow 32 i = 0#32 ↔ x.toNat / 2 ^ i % 2 = 0 := by
  rw [BitVec.and_twoPow, BitVec.getLsbD, Nat.testBit_eq_decide_div_mod_eq]
  have hne : BitVec.twoPow 32 i ≠ 0#32 := fun h => by
    have hbit := congrArg (BitVec.getLsbD · i) h
    simp [hi] at hbit
  by_cases h : x.toNat / 2 ^ i % 2 = 1
  · simp [h, hne]
  · simp only [h, decide_false, Bool.false_eq_true, if_false, true_iff]
    omega

section Pending

variable {k : Nat} {t : Token U8} {ts : List (Token U8)} {flags : U32}

theorem Pending.ones (h : Pending k (t :: ts) flags) :
    (0xFF00 / 2 ^ k + flagBits (t :: ts)) / 2 ^ 8 % 2 = 1 ∧
      0xFF00 / 2 ^ k = 2 * (0xFF00 / 2 ^ (k + 1)) := by
  have hle := h.le
  rw [List.length_cons] at hle
  refine ones_shift (by omega) (Nat.lt_of_lt_of_le (flagBits_lt (t :: ts)) ?_)
  exact Nat.pow_le_pow_right (by decide) (by rw [List.length_cons]; omega)

/-- While an item is left, no flags are read. -/
theorem Pending.noFlags (h : Pending k (t :: ts) flags) (src : List U8) :
    lzssFlags flags src = some (flags, src) := by
  have hbit : ¬flags &&& BitVec.twoPow 32 8 = 0#32 := by
    rw [and_twoPow_eq_zero _ (by decide), h.toNat, h.ones.1]
    decide
  exact if_neg hbit

/-- The lowest bit is the flag of the item. -/
theorem Pending.lit (h : Pending k (t :: ts) flags) : flags &&& 1#32 = 0#32 ↔ isLit t = 0 := by
  have hbit := and_twoPow_eq_zero flags (i := 0) (by decide)
  have hlit := isLit_le t
  have hones := h.ones.2
  rw [h.toNat, flagBits] at hbit
  refine hbit.trans ?_
  omega

/-- `flags >>= 1`. -/
theorem Pending.shift (h : Pending k (t :: ts) flags) : Pending (k + 1) ts (flags >>> 1) := by
  have hones := h.ones.2
  have hlit := isLit_le t
  refine ⟨?_, ?_⟩
  · rw [BitVec.toNat_ushiftRight, h.toNat, flagBits, Nat.shiftRight_eq_div_pow]
    omega
  · have hle := h.le
    rw [List.length_cons] at hle
    omega

/-- The flags of a group. -/
theorem pending_group (hts : ts.length ≤ 8) :
    Pending 0 ts ((BitVec.ofNat 8 (flagBits ts)).setWidth 32 ||| 0xFF00#32) := by
  have hlt : flagBits ts < 2 ^ 8 :=
    Nat.lt_of_lt_of_le (flagBits_lt ts) (Nat.pow_le_pow_right (by decide) hts)
  refine ⟨?_, by omega⟩
  rw [BitVec.toNat_or, BitVec.toNat_setWidth, BitVec.toNat_ofNat, Nat.mod_eq_of_lt hlt,
    Nat.mod_eq_of_lt (Nat.lt_trans hlt (by decide)), Nat.or_comm]
  exact (Nat.shiftLeft_add_eq_or_of_lt hlt 0xFF).symm

end Pending

/-- With no flag left, the next byte is flags. -/
theorem lzssFlags_reload {flags : U32} (h : flags.toNat / 2 ^ 8 % 2 = 0) (c : U8) (src : List U8) :
    lzssFlags flags (c :: src) = some (c.setWidth 32 ||| 0xFF00#32, src) :=
  if_pos ((and_twoPow_eq_zero flags (i := 8) (by decide)).mpr h)

/-! ## The loop -/

theorem nibbles : ∀ a < 16, ∀ m < 16,
    ((a * 16 + m) &&& 0xF0) <<< 4 = a <<< 8 ∧ (a * 16 + m) &&& 0x0F = m := by
  decide

/-- **The two bytes of a copy**: twelve bits of a place in the ring, four of a length. -/
theorem copy_bytes {i m : Nat} (hi : i < 4096) (hm : m < 16) :
    (BitVec.ofNat 8 (i % 256)).toNat |||
        (((BitVec.ofNat 8 (i / 256 * 16 + m)).toNat &&& 0xF0) <<< 4) = i ∧
      (BitVec.ofNat 8 (i / 256 * 16 + m)).toNat &&& 0x0F = m := by
  obtain ⟨hhigh, hlow⟩ := nibbles (i / 256) (by omega) m hm
  have hlo : i % 256 < 2 ^ 8 := Nat.mod_lt i (by decide)
  have hj : i / 256 * 16 + m < 2 ^ 8 := by omega
  rw [BitVec.toNat_ofNat, BitVec.toNat_ofNat, Nat.mod_eq_of_lt hlo, Nat.mod_eq_of_lt hj, hhigh,
    Nat.or_comm, ← Nat.shiftLeft_add_eq_or_of_lt hlo, Nat.shiftLeft_eq]
  exact ⟨by omega, hlow⟩

/-- **An item of a copy is read as what it says.** -/
theorem lzssItem_copy {flags : U32} (hflags : flags &&& 1#32 = 0#32) {dist n : Nat}
    (hfits : Fits (.copy dist n)) (w : Nat) (src : List U8) (s : LzssState) :
    lzssItem dstlen flags (itemBytes w (.copy dist n) ++ src) s =
      some (src, lzssCopy dstlen n ((w - dist) % lzN) s) := by
  obtain ⟨-, hlo, hhi⟩ := hfits
  have hthreshold : lzThreshold = 2 := rfl
  have hm : n - lzThreshold - 1 < 16 := by
    have hsmall : n ≤ 18 := hhi
    omega
  obtain ⟨hi, hlow⟩ := copy_bytes (Nat.mod_lt (w - dist) (show lzN > 0 by decide)) hm
  have hn : n - lzThreshold - 1 + lzThreshold + 1 = n := by omega
  unfold lzssItem
  rw [if_neg fun h => h hflags]
  simp only [itemBytes, List.cons_append, List.nil_append, hi, hlow, hn]

/-- The rest of the loop from an item on. -/
def lzssBody (dstlen : Nat) (flags : U32) (src : List U8) (s : LzssState) : LzssState :=
  match lzssItem dstlen flags src s with
  | none => s
  | some (src', s') => lzssLoop dstlen flags src' s'

theorem lzssLoop_eq (dstlen : Nat) (flags : U32) (src : List U8) (s : LzssState) :
    lzssLoop dstlen flags src s =
      match lzssFlags (flags >>> 1) src with
      | none => s
      | some (flags', src') => lzssBody dstlen flags' src' s := by
  rw [lzssLoop]
  unfold lzssBody
  split
  · next h => rw [h]
  · next flags' src' h =>
    rw [h]
    split
    · next h' => simp only [h']
    · next h' => simp only [h']

/-- Without input the loop ends. -/
theorem lzssLoop_nil (flags : U32) (s : LzssState) : lzssLoop dstlen flags [] s = s := by
  have hitem : ∀ flags' : U32, lzssItem dstlen flags' [] s = none := by
    intro flags'
    unfold lzssItem
    split <;> rfl
  rw [lzssLoop_eq]
  unfold lzssFlags
  by_cases hflags : flags >>> 1 &&& 0x100#32 = 0
  · rw [if_pos hflags]
  · rw [if_neg hflags]
    simp only [lzssBody, hitem]

theorem length_copyFrom {dist n : Nat} (h : copyFrom dist n xs = some ys) :
    ys.length = xs.length + n := by
  induction n generalizing xs with
  | zero =>
    obtain rfl : xs = ys := Option.some.inj h
    rfl
  | succ n ih =>
    rw [copyFrom] at h
    split at h
    · rw [ih h, List.length_append, List.length_singleton]
      omega
    · exact absurd h.symm (Option.some_ne_none ys)

theorem length_expandToken {t : Token U8} (h : expandToken t xs = some ys) :
    ys.length = xs.length + tokenSize t := by
  cases t with
  | lit b =>
    obtain rfl : xs ++ [b] = ys := Option.some.inj h
    exact List.length_append
  | copy dist n => exact length_copyFrom h

/-- **One item**: the text goes on by its token, or there is no room for it. -/
theorem lzssItem_tracks {k : Nat} {t : Token U8} {ts : List (Token U8)} {flags : U32}
    (hp : Pending k (t :: ts) flags) (hfits : Fits t) (hs : Tracks dstlen xs s)
    (ht : expandToken t xs = some ys) (src : List U8) :
    (∃ s', lzssItem dstlen flags (itemBytes xs.length t ++ src) s = some (src, s') ∧
      Tracks dstlen ys s') ∨
    (lzssItem dstlen flags (itemBytes xs.length t ++ src) s = none ∧
      ∀ zs, ys <+: zs → Tracks dstlen zs s) := by
  cases t with
  | lit b =>
    have hflags : flags &&& 1#32 ≠ 0 := fun h => absurd (hp.lit.mp h) Nat.one_ne_zero
    have hitem : lzssItem dstlen flags (itemBytes xs.length (.lit b) ++ src) s =
        (lzssPut dstlen s b).map fun s' => (src, s') := if_pos hflags
    obtain rfl : xs ++ [b] = ys := Option.some.inj ht
    rw [hitem]
    by_cases hroom : xs.length - lzStart < dstlen
    · obtain ⟨s', hput, hs'⟩ := hs.put hroom b
      exact .inl ⟨s', by rw [hput]; rfl, hs'⟩
    · refine .inr ⟨by rw [lzssPut_full hs (by omega)]; rfl, fun zs hzs => ?_⟩
      exact hs.full (by omega) ((List.prefix_append xs [b]).trans hzs)
  | copy dist n =>
    refine .inl ⟨_, lzssItem_copy (hp.lit.mpr rfl) hfits _ src s, ?_⟩
    exact hs.copy hfits.1 (Nat.mod_mod _ _) ht

/-- **A group**: whatever comes behind it, if the loop goes on to the text `zs` from there, it does
from the group on. -/
theorem lzssBody_group {k : Nat} {t : Token U8} {ts : List (Token U8)} {flags : U32}
    {zs src : List U8} (hp : Pending k (t :: ts) flags) (hfits : ∀ u ∈ t :: ts, Fits u)
    (hs : Tracks dstlen xs s) (hexpand : expand (t :: ts) xs = some ys) (hpre : ys <+: zs)
    (hcont : ∀ (flags' : U32) s', Pending (k + (t :: ts).length) [] (flags' >>> 1) →
      Tracks dstlen ys s' → Tracks dstlen zs (lzssLoop dstlen flags' src s')) :
    Tracks dstlen zs (lzssBody dstlen flags (itemsBytes xs.length (t :: ts) ++ src) s) := by
  induction ts generalizing k t flags xs s with
  | nil =>
    obtain ⟨mid, ht, hts⟩ := Option.bind_eq_some_iff.mp hexpand
    obtain rfl : mid = ys := Option.some.inj hts
    rw [itemsBytes, itemsBytes, List.append_nil]
    unfold lzssBody
    rcases lzssItem_tracks hp (hfits t List.mem_cons_self) hs ht src with
      ⟨s', hitem, hs'⟩ | ⟨hitem, hfull⟩
    · rw [hitem]
      exact hcont flags s' hp.shift hs'
    · rw [hitem]
      exact hfull zs hpre
  | cons u ts ih =>
    obtain ⟨mid, ht, hts⟩ := Option.bind_eq_some_iff.mp hexpand
    rw [itemsBytes, ← length_expandToken ht, List.append_assoc]
    unfold lzssBody
    rcases lzssItem_tracks hp (hfits t List.mem_cons_self) hs ht
      (itemsBytes mid.length (u :: ts) ++ src) with ⟨s', hitem, hs'⟩ | ⟨hitem, hfull⟩
    · simp only [hitem]
      rw [lzssLoop_eq, hp.shift.noFlags]
      refine ih hp.shift (fun v hv => hfits v (List.mem_cons_of_mem t hv)) hs' hts ?_
      intro flags' s'' hdone
      refine hcont flags' s'' ?_
      rwa [List.length_cons, ← Nat.add_assoc, Nat.add_right_comm]
    · rw [hitem]
      exact hfull zs ((prefix_expand hts).trans hpre)

/-- A group is eight items, but for the last one. -/
theorem length_group {α : Type} (t : α) (ts : List α) (h : ts.drop 7 ≠ []) :
    (t :: ts.take 7).length = 8 := by
  have hlt : 7 < ts.length := Nat.lt_of_not_le fun hle => h (List.drop_eq_nil_iff.mpr hle)
  rw [List.length_cons, List.length_take]
  omega

theorem length_expand {ts : List (Token U8)} (h : expand ts xs = some ys) :
    ys.length = xs.length + (ts.map tokenSize).sum := by
  induction ts generalizing xs with
  | nil =>
    obtain rfl : xs = ys := Option.some.inj h
    rfl
  | cons t ts ih =>
    obtain ⟨mid, ht, hts⟩ := Option.bind_eq_some_iff.mp h
    rw [ih hts, length_expandToken ht, List.map_cons, List.sum_cons, Nat.add_assoc]

/-- **The loop expands what was encoded**, from where it has to read flags. -/
theorem lzssLoop_encodeFrom {ts : List (Token U8)} {flags : U32}
    (hflags : ts ≠ [] → (flags >>> 1).toNat / 2 ^ 8 % 2 = 0) (hfits : ∀ t ∈ ts, Fits t)
    (hs : Tracks dstlen xs s) (hexpand : expand ts xs = some ys) :
    Tracks dstlen ys (lzssLoop dstlen flags (encodeFrom xs.length ts) s) := by
  induction hn : ts.length using Nat.strong_induction_on generalizing ts flags xs s with
  | _ n ih =>
    cases ts with
    | nil =>
      obtain rfl : xs = ys := Option.some.inj hexpand
      rw [encodeFrom, lzssLoop_nil]
      exact hs
    | cons t ts =>
      have hsplit : t :: ts = (t :: ts.take 7) ++ ts.drop 7 := by
        rw [List.cons_append, List.take_append_drop]
      rw [hsplit, expand_append] at hexpand
      obtain ⟨mid, hgroup, hrest⟩ := Option.bind_eq_some_iff.mp hexpand
      rw [encodeFrom, ← length_expand hgroup, List.cons_append, lzssLoop_eq,
        lzssFlags_reload (hflags (List.cons_ne_nil t ts))]
      have hle : (t :: ts.take 7).length ≤ 8 := by
        rw [List.length_cons, List.length_take]
        omega
      refine lzssBody_group (pending_group hle) (fun u hu => hfits u ?_) hs hgroup
        (prefix_expand hrest) fun flags' s' hdone hs' => ?_
      · rw [hsplit]
        exact List.mem_append_left _ hu
      · refine ih (ts.drop 7).length ?_ (fun hne => ?_) (fun u hu => hfits u ?_) hs' hrest rfl
        · rw [← hn, List.length_drop, List.length_cons]
          omega
        · rw [length_group t ts hne] at hdone
          rw [hdone.toNat]
          decide
        · rw [hsplit]
          exact List.mem_append_right _ hu

/-! ## Any input -/

/-- What is written is inside `dst` and `text_buf`. -/
structure InBounds (dstlen : Nat) (s : LzssState) : Prop where
  dst : s.dst.length ≤ dstlen
  r : s.r < lzN

theorem inBounds_put {s' : LzssState} {c : U8} (h : lzssPut dstlen s c = some s') :
    InBounds dstlen s' := by
  unfold lzssPut at h
  split at h
  · next hroom =>
    obtain rfl := Option.some.inj h
    refine ⟨?_, Nat.mod_lt _ (by decide)⟩
    rw [List.length_append, List.length_singleton]
    exact hroom
  · exact absurd h.symm (Option.some_ne_none s')

theorem InBounds.copy (hs : InBounds dstlen s) (n i : Nat) :
    InBounds dstlen (lzssCopy dstlen n i s) := by
  induction n generalizing i s with
  | zero => exact hs
  | succ n ih =>
    rw [lzssCopy]
    split
    · next s' hput => exact ih (inBounds_put hput) (i + 1)
    · exact hs

theorem InBounds.item {flags : U32} {src src' : List U8} {s' : LzssState} (hs : InBounds dstlen s)
    (h : lzssItem dstlen flags src s = some (src', s')) : InBounds dstlen s' := by
  unfold lzssItem at h
  split at h
  · cases src with
    | nil => exact absurd h.symm (Option.some_ne_none _)
    | cons c src =>
      obtain ⟨t, hput, ht⟩ := Option.map_eq_some_iff.mp h
      obtain ⟨-, rfl⟩ := Prod.mk.inj ht
      exact inBounds_put hput
  · match src with
    | [] => exact absurd h.symm (Option.some_ne_none _)
    | [_] => exact absurd h.symm (Option.some_ne_none _)
    | lo :: j :: src =>
      obtain ⟨-, rfl⟩ := Prod.mk.inj (Option.some.inj h)
      exact hs.copy _ _

/-- **No input makes the loop write outside of its buffers.** -/
theorem InBounds.loop {flags : U32} {src : List U8} (hs : InBounds dstlen s) :
    InBounds dstlen (lzssLoop dstlen flags src s) := by
  induction hn : src.length using Nat.strong_induction_on generalizing flags src s with
  | _ n ih =>
    rw [lzssLoop]
    split
    · exact hs
    · next flags' src' hflags =>
      split
      · exact hs
      · next src'' s' hitem =>
        have hlt := Nat.lt_of_lt_of_le (length_lzssItem hitem) (length_lzssFlags hflags)
        exact ih src''.length (hn ▸ hlt) (hs.item hitem) rfl

theorem length_decompressLzss (stack : Nat → U8) (dstlen : Nat) (src : List U8) :
    (decompressLzss stack dstlen src).length ≤ dstlen := by
  have hinit : InBounds dstlen (lzssInit stack) := ⟨Nat.zero_le _, show lzStart < lzN by decide⟩
  exact hinit.loop.dst

/-! ## What was encoded -/

/-- **What was encoded is decoded**, as far as there is room, whatever the stack was. -/
theorem decompressLzss_encode (stack : Nat → U8) (dstlen : Nat) {ts : List (Token U8)}
    {text : List U8} (hfits : ∀ t ∈ ts, Fits t)
    (hexpand : expand ts lzssBlanks = some (lzssBlanks ++ text)) :
    decompressLzss stack dstlen (encode ts) = text.take dstlen := by
  have hinit : (0#32 >>> 1).toNat / 2 ^ 8 % 2 = 0 := by decide
  have h := lzssLoop_encodeFrom (fun _ => hinit) hfits (tracks_init stack dstlen) hexpand
  have hblanks : (lzssBlanks ++ text).drop lzStart = text :=
    List.drop_left' List.length_replicate
  have hdst := h.dst
  rwa [hblanks] at hdst

/-! ## The file -/

/-- `buf[i]`; behind the file it is what the heap has there. -/
def fileAt (heap : Nat → U8) (file : List U8) (i : Nat) : U8 := file.getD i (heap i)

/-- `be32(buf + i)`. -/
def be32 (buf : Nat → U8) (i : Nat) : U32 :=
  (buf i).setWidth 32 <<< 24 ||| (buf (i + 1)).setWidth 32 <<< 16 |||
    (buf (i + 2)).setWidth 32 <<< 8 ||| (buf (i + 3)).setWidth 32

/-- `'comp'`. -/
def sigComp : U32 := 0x636f6d70#32

/-- `'lzss'`. -/
def sigLzss : U32 := 0x6c7a7373#32

/-- `h`, where the first signature is. -/
def findComplzss (buf : Nat → U8) (sz : Nat) : Option Nat :=
  (List.range (sz - 7)).find? fun i => be32 buf i == sigComp && be32 buf (i + 4) == sigLzss

/-- `main` behind its arguments: its exit code, and what it wrote. -/
def kcLzss (stack heap : Nat → U8) (file : List U8) : Nat × Option (List U8) :=
  let buf := fileAt heap file
  match findComplzss buf file.length with
  | none => (1, none)
  | some h =>
    let uncomp := be32 buf (h + 12)
    let comp := be32 buf (h + 16)
    let src := (List.range comp.toNat).map fun k => buf (h + 0x180 + k)
    let out := decompressLzss stack uncomp.toNat src
    (if out.length = uncomp.toNat then 0 else 1, some out)

/-- The four bytes of a word, the highest first. -/
def putBe32 (v : U32) : List U8 :=
  [(v >>> 24).setWidth 8, (v >>> 16).setWidth 8, (v >>> 8).setWidth 8, v.setWidth 8]

/-- The signature. -/
def sigBytes : List U8 := putBe32 sigComp ++ putBe32 sigLzss

/-- A kernelcache: a text, how it was parsed, and what else its header has. -/
structure Kernelcache where
  text : List U8
  tokens : List (Token U8)
  adler : U32
  /-- `prelink_version` to `root`. -/
  rest : List U8
  expand_tokens : expand tokens lzssBlanks = some (lzssBlanks ++ text)
  fits : ∀ t ∈ tokens, Fits t
  length_rest : rest.length = 364
  length_text : text.length < 2 ^ 31
  length_data : (encode tokens).length < 2 ^ 32

/-- The header, and the data behind it. -/
def Kernelcache.bytes (k : Kernelcache) : List U8 :=
  putBe32 sigComp ++ (putBe32 sigLzss ++ (putBe32 k.adler ++
    (putBe32 (BitVec.ofNat 32 k.text.length) ++
      (putBe32 (BitVec.ofNat 32 (encode k.tokens).length) ++ (k.rest ++ encode k.tokens)))))

theorem fileAt_append (heap : Nat → U8) (a b : List U8) (i : Nat) :
    fileAt heap (a ++ b) (a.length + i) = fileAt (fun j => heap (a.length + j)) b i := by
  unfold fileAt
  rw [List.getD_eq_getElem?_getD, List.getD_eq_getElem?_getD,
    List.getElem?_append_right (Nat.le_add_right _ _), Nat.add_sub_cancel_left]

theorem fileAt_append_left (heap : Nat → U8) {a : List U8} (b : List U8) {i : Nat}
    (hi : i < a.length) : fileAt heap (a ++ b) i = a[i] := by
  unfold fileAt
  rw [List.getD_eq_getElem?_getD, List.getElem?_append_left hi, List.getElem?_eq_getElem hi]
  rfl

theorem be32_append (heap : Nat → U8) (a b : List U8) (i : Nat) :
    be32 (fileAt heap (a ++ b)) (a.length + i) =
      be32 (fileAt (fun j => heap (a.length + j)) b) i := by
  unfold be32
  simp only [Nat.add_assoc, fileAt_append]

/-- A word is read as it was put, and only where it was put. -/
theorem be32_eq_iff (buf : Nat → U8) (i : Nat) (v : U32) :
    be32 buf i = v ↔ [buf i, buf (i + 1), buf (i + 2), buf (i + 3)] = putBe32 v := by
  have hrev : ∀ a b c d : U32, a ||| b ||| c ||| d = d ||| c ||| b ||| a := by
    intro a b c d
    ac_rfl
  rw [be32, hrev, putBe32]
  constructor
  · intro h
    obtain ⟨h3, h2, h1, h0⟩ := Bitmask.bytes_of_or _ _ _ _ h
    rw [h0, h1, h2, h3]
  · intro h
    simp only [List.cons.injEq, and_true] at h
    obtain ⟨h0, h1, h2, h3⟩ := h
    rw [h0, h1, h2, h3]
    exact Bitmask.or_bytes v

theorem be32_head (heap : Nat → U8) (v : U32) (b : List U8) :
    be32 (fileAt heap (putBe32 v ++ b)) 0 = v := (be32_eq_iff _ 0 v).mpr rfl

/-- The scan stops where the signature is. -/
theorem isSig_iff (heap : Nat → U8) {file : List U8} {i : Nat} (hi : i < file.length - 7) :
    (be32 (fileAt heap file) i == sigComp && be32 (fileAt heap file) (i + 4) == sigLzss) = true ↔
      sigBytes <+: file.drop i := by
  have htake : (file.drop i).take 8 = (List.range 8).map fun t => fileAt heap file (i + t) := by
    refine List.ext_getElem ?_ fun t ht _ => ?_
    · rw [List.length_take, List.length_drop, List.length_map, List.length_range]
      omega
    · rw [List.length_take, List.length_drop] at ht
      rw [List.getElem_take, List.getElem_drop, List.getElem_map, List.getElem_range, fileAt,
        List.getD_eq_getElem?_getD, List.getElem?_eq_getElem (by omega)]
      rfl
  rw [Bool.and_eq_true, beq_iff_eq, beq_iff_eq, be32_eq_iff, be32_eq_iff,
    List.prefix_iff_eq_take, show sigBytes.length = 8 from rfl, htake]
  constructor
  · rintro ⟨hcomp, hlzss⟩
    rw [sigBytes, ← hcomp, ← hlzss]
    rfl
  · intro h
    exact List.append_inj h.symm rfl

/-- No signature is found only where there is none. -/
theorem findComplzss_eq_none (heap : Nat → U8) (file : List U8) :
    findComplzss (fileAt heap file) file.length = none ↔ ¬sigBytes <:+: file := by
  rw [findComplzss, List.find?_range_eq_none]
  constructor
  · rintro h ⟨a, b, rfl⟩
    have hlen : a.length < (a ++ sigBytes ++ b).length - 7 := by
      simp only [List.length_append, show sigBytes.length = 8 from rfl]
      omega
    have hsig : sigBytes <+: (a ++ sigBytes ++ b).drop a.length := by
      rw [List.append_assoc, List.drop_left]
      exact List.prefix_append sigBytes b
    have hnone := h a.length hlen
    rw [(isSig_iff heap hlen).mpr hsig] at hnone
    exact absurd hnone (by decide)
  · intro h i hi
    rw [Bool.not_eq_true', ← Bool.not_eq_true, isSig_iff heap hi]
    exact fun hsig => h (hsig.isInfix.trans (List.drop_suffix i file).isInfix)

/-- The signature does not overlap itself. -/
theorem sigBytes_head : ∀ m < 8, 0 < m → sigBytes[m]? ≠ sigBytes[0]? := by decide

/-- **The first signature is found** behind a front that has none. -/
theorem findComplzss_front (heap : Nat → U8) {front : List U8} (b : List U8)
    (hfront : ¬sigBytes <:+: front) :
    findComplzss (fileAt heap (front ++ (sigBytes ++ b))) (front ++ (sigBytes ++ b)).length =
      some front.length := by
  have hsize : sigBytes.length = 8 := rfl
  have hlen : front.length < (front ++ (sigBytes ++ b)).length - 7 := by
    rw [List.length_append, List.length_append]
    omega
  rw [findComplzss, List.find?_range_eq_some]
  refine ⟨(isSig_iff heap hlen).mpr ?_, List.mem_range.mpr hlen, fun j hj => ?_⟩
  · rw [List.drop_left]
    exact List.prefix_append sigBytes b
  · rw [Bool.not_eq_true', ← Bool.not_eq_true, isSig_iff heap (by omega),
      List.drop_append_of_le_length (by omega)]
    intro hsig
    by_cases hfits : 8 ≤ (front.drop j).length
    · have hpre : sigBytes <+: front.drop j :=
        List.prefix_of_prefix_length_le hsig (List.prefix_append _ _) hfits
      exact hfront (hpre.isInfix.trans (List.drop_suffix j front).isInfix)
    · -- the head of the one signature would be inside the other
      have hm : 0 < (front.drop j).length := by
        rw [List.length_drop]
        omega
      have hat := List.prefix_iff_getElem?.mp hsig (front.drop j).length (by omega)
      rw [List.getElem?_append_right (Nat.le_refl _), Nat.sub_self] at hat
      refine sigBytes_head _ (by omega) hm ?_
      rw [List.getElem?_eq_getElem (by omega), ← hat]
      rfl

/-- **Without a signature nothing is written**, and only then. -/
theorem kcLzss_unsigned (stack heap : Nat → U8) (file : List U8) :
    kcLzss stack heap file = (1, none) ↔ ¬sigBytes <:+: file := by
  rw [← findComplzss_eq_none heap file, kcLzss]
  cases findComplzss (fileAt heap file) file.length with
  | none => simp
  | some h => simp

section Kernelcache

variable (k : Kernelcache)

theorem be32_next (heap : Nat → U8) (u : U32) (b : List U8) (i : Nat) :
    be32 (fileAt heap (putBe32 u ++ b)) (4 + i) = be32 (fileAt (fun j => heap (4 + j)) b) i :=
  be32_append heap (putBe32 u) b i

/-- `uncompressed_size` of the header. -/
theorem Kernelcache.be32_uncomp (heap : Nat → U8) (back : List U8) :
    (be32 (fileAt heap (k.bytes ++ back)) 12).toNat = k.text.length := by
  have hword : be32 (fileAt heap (k.bytes ++ back)) 12 = BitVec.ofNat 32 k.text.length := by
    simp only [Kernelcache.bytes, List.append_assoc]
    rw [show 12 = 4 + (4 + (4 + 0)) from rfl, be32_next, be32_next, be32_next, be32_head]
  rw [hword, BitVec.toNat_ofNat, Nat.mod_eq_of_lt (Nat.lt_trans k.length_text (by decide))]

/-- `compressed_size` of the header. -/
theorem Kernelcache.be32_comp (heap : Nat → U8) (back : List U8) :
    (be32 (fileAt heap (k.bytes ++ back)) 16).toNat = (encode k.tokens).length := by
  have hword : be32 (fileAt heap (k.bytes ++ back)) 16 =
      BitVec.ofNat 32 (encode k.tokens).length := by
    simp only [Kernelcache.bytes, List.append_assoc]
    rw [show 16 = 4 + (4 + (4 + (4 + 0))) from rfl, be32_next, be32_next, be32_next, be32_next,
      be32_head]
  rw [hword, BitVec.toNat_ofNat, Nat.mod_eq_of_lt k.length_data]

/-- The header is 0x180 bytes. -/
theorem Kernelcache.bytes_eq : ∃ header : List U8,
    header.length = 0x180 ∧ k.bytes = header ++ encode k.tokens := by
  refine ⟨putBe32 sigComp ++ (putBe32 sigLzss ++ (putBe32 k.adler ++
    (putBe32 (BitVec.ofNat 32 k.text.length) ++
      (putBe32 (BitVec.ofNat 32 (encode k.tokens).length) ++ k.rest)))), ?_, ?_⟩
  · simp only [List.length_append, putBe32, List.length_cons, List.length_nil, k.length_rest]
  · simp only [Kernelcache.bytes, List.append_assoc]

/-- `data[]`. -/
theorem Kernelcache.data (heap : Nat → U8) (front back : List U8) :
    ((List.range (encode k.tokens).length).map fun i =>
      fileAt heap (front ++ (k.bytes ++ back)) (front.length + 0x180 + i)) = encode k.tokens := by
  obtain ⟨header, hlen, hbytes⟩ := k.bytes_eq
  have hfile : front ++ (k.bytes ++ back) = front ++ header ++ (encode k.tokens ++ back) := by
    rw [hbytes, List.append_assoc, List.append_assoc]
  refine List.ext_getElem (by rw [List.length_map, List.length_range]) fun i _ hi => ?_
  rw [List.getElem_map, List.getElem_range, hfile, ← hlen, ← List.length_append, fileAt_append,
    fileAt_append_left _ _ hi]

end Kernelcache

/-- **The kernel is taken out of its kernelcache**, wherever that is in the file, whatever is behind
it, and whatever memory had been before. -/
theorem kcLzss_kernelcache (stack heap : Nat → U8) (k : Kernelcache) (front back : List U8)
    (hfront : ¬sigBytes <:+: front) :
    kcLzss stack heap (front ++ (k.bytes ++ back)) = (0, some k.text) := by
  have hfind : findComplzss (fileAt heap (front ++ (k.bytes ++ back)))
      (front ++ (k.bytes ++ back)).length = some front.length := by
    simp only [Kernelcache.bytes, List.append_assoc]
    rw [← List.append_assoc (putBe32 sigComp)]
    exact findComplzss_front heap _ hfront
  have huncomp := be32_append heap front (k.bytes ++ back) 12
  have hcomp := be32_append heap front (k.bytes ++ back) 16
  have hout : decompressLzss stack k.text.length (encode k.tokens) = k.text := by
    rw [decompressLzss_encode stack _ k.fits k.expand_tokens, List.take_length]
  unfold kcLzss
  simp only [hfind, huncomp, hcomp, k.be32_uncomp, k.be32_comp, k.data, hout, if_true]

/-- Seven times the same letter. -/
def runCache : Kernelcache where
  text := List.replicate 7 0x41#8
  tokens := [.lit 0x41#8, .copy 1 6]
  adler := 0
  rest := List.replicate 364 0
  expand_tokens := by
    have hrun := copyFrom_one 6 0x41#8 lzssBlanks
    rw [expand, expandToken, Option.bind_some, expand, expandToken, hrun, Option.bind_some, expand,
      List.append_assoc]
    exact congrArg (fun letters => some (lzssBlanks ++ letters)) rfl
  fits := by
    rintro t (_ | ⟨_, _ | ⟨_, h⟩⟩)
    · trivial
    · exact ⟨by decide, by decide, by decide⟩
    · cases h
  length_rest := List.length_replicate
  length_text := by decide
  length_data := by
    have hrest : List.drop 7 [(.copy 1 6 : Token U8)] = [] := rfl
    rw [encode, encodeFrom, hrest, encodeFrom, List.append_nil]
    decide

theorem kcLzss_kernelcache_run :
    kcLzss (fun _ => 0xff#8) (fun _ => 0#8)
        ([0xca#8, 0xfe#8, 0xba#8, 0xbe#8] ++ (runCache.bytes ++ [0#8])) =
      (0, some runCache.text) :=
  kcLzss_kernelcache _ _ runCache _ _ fun h => absurd (List.IsInfix.length_le h) (by decide)

end MagicTrackpad
