import MagicTrackpad.Frame

/-!
# Decoding a Magic Trackpad 2 report (`src/mt2_decode.c`)

A report is a header and a run of 9-byte finger records; the report id and the header length select
the transport. `mt2Decode` is the decoder, on the bytes of the report and the caller's frame, whose
slots keep what the decoder does not write.

* `recordX`, `recordY` are the two coordinates, assembled and sign-extended by shifts of 32-bit
  words; `recordX_eq`, `recordY_eq` say which 13 bits of which bytes they are.
* `decodeRecord` is the body of the loop, one record written over a slot.
* `Mt2Record` is a finger record as the device means it, and `pack` its nine bytes; a report of the
  format is a header and the packings of some records (`exists_packAll`).

Results:
* `mt2Decode_eq_zero_iff`, `mt2Decode_rejected`: what is accepted, and that a rejection leaves the
  frame alone.
* `decodeRecord_pack`: the loop body inverts the packing, whatever the unused bits are.
* `mt2Decode_packed`, `DecodedFrom.unique`: the frame decoded from any packed report, its unwritten
  slots included, does not depend on the unused bits.
* `mt2_decode_format`: the decoder accepts exactly the format and inverts its packing.
-/

namespace MagicTrackpad

open Lib

/-- A byte of the report. -/
def byteAt (report : List U8) (i : Nat) : U8 := report.getD i 0#8

/-- `(int32_t)xb >> 19`, with `xb` from bytes 0 and 1 of the record `t`. -/
def recordX (t : Nat → U8) : Int :=
  (((t 1).setWidth 32 <<< 27 ||| (t 0).setWidth 32 <<< 19).sshiftRight 19).toInt

/-- `-((int32_t)yb >> 19)`, with `yb` from bytes 1 to 3. -/
def recordY (t : Nat → U8) : Int :=
  -((((t 3).setWidth 32 <<< 30 ||| (t 2).setWidth 32 <<< 22) |||
    (t 1).setWidth 32 <<< 14).sshiftRight 19).toInt

/-- The body of the loop: the record `t` written over the slot `out`. -/
def decodeRecord (t : Nat → U8) (out : TouchContact) : TouchContact :=
  { out with
    id := (t 8 &&& 0x0f#8).setWidth 32
    -- 0x80 == finger down
    state := if t 3 &&& 0xc0#8 = 0x80#8 then .tsTouching else .tsEnd
    currentCoordinates :=
      { out.currentCoordinates with x := recordX t, y := recordY t, pressure := (t 6).toNat }
    touchMajor := (t 4).toNat
    touchMinor := (t 5).toNat
    orientation := ((t 8) >>> 5).toNat - 4 }

/-- `npoints`: `(int)` of a `size_t`, cut at `MAX_TOUCHES`. -/
def npoints (recordBytes : Nat) : Int :=
  let n := Int.bmod ((recordBytes / 9 : Nat) : Int) (2 ^ 32)
  if 16 < n then 16 else n

/-- `mt2_decode`: its return value and the frame it leaves; `none` is a NULL pointer. -/
def mt2Decode (report : Option (List U8)) (reportId : U8) (headerLen : Nat)
    (frame : Option TouchFrame) : Int × Option TouchFrame :=
  match report, frame with
  | some report, some frame =>
    if report.length < headerLen ∨ byteAt report 0 ≠ reportId then (-1, some frame)
    else if (report.length - headerLen) % 9 ≠ 0 then (-1, some frame)
    else
      (0, some
        { transducers := Nat.fold (npoints (report.length - headerLen)).toNat
            (fun i _ b => b.pushWith (decodeRecord fun k => byteAt report (headerLen + i * 9 + k)))
            (frame.transducers.resize 0)
          timestamp := 0#64
          isPhysicalButtonDown := byteAt report 1 &&& 0x01#8 })
  | _, frame => (-1, frame)

/-! ## What is accepted -/

/-- The report format: a whole number of records after a header with the id. -/
def WellFormed (report : List U8) (reportId : U8) (headerLen : Nat) : Prop :=
  headerLen ≤ report.length ∧ report.head? = some reportId ∧ 9 ∣ report.length - headerLen

instance (report : List U8) (reportId : U8) (headerLen : Nat) :
    Decidable (WellFormed report reportId headerLen) := inferInstanceAs (Decidable (_ ∧ _ ∧ _))

theorem byteAt_zero {report : List U8} {id : U8} (h : 0 < report.length) :
    byteAt report 0 = id ↔ report.head? = some id := by
  cases report with
  | nil => exact absurd h (Nat.lt_irrefl 0)
  | cons b bs => simp [byteAt]

theorem npoints_toNat {n : Nat} (h : n < 2 ^ 31) : (npoints n).toNat = min (n / 9) 16 := by
  have hbmod : Int.bmod ((n / 9 : Nat) : Int) (2 ^ 32) = ((n / 9 : Nat) : Int) := by
    apply Int.bmod_eq_of_le
    · omega
    · omega
  unfold npoints
  rw [hbmod]
  generalize n / 9 = m
  by_cases hn : (16 : Int) < (m : Int)
  · simp only [if_pos hn]
    omega
  · simp only [if_neg hn]
    omega

/-- A report that is not in the format is rejected and the frame is left as it was. -/
theorem mt2Decode_rejected {report : List U8} {reportId : U8} {headerLen : Nat} (hh : 0 < headerLen)
    (h : ¬ WellFormed report reportId headerLen) (frame : TouchFrame) :
    mt2Decode (some report) reportId headerLen (some frame) = (-1, some frame) := by
  unfold mt2Decode
  by_cases hguard : report.length < headerLen ∨ byteAt report 0 ≠ reportId
  · simp only [if_pos hguard]
  · have hmod : (report.length - headerLen) % 9 ≠ 0 := by
      rw [not_or, Nat.not_lt, not_not] at hguard
      intro hmod
      refine h ⟨hguard.1, (byteAt_zero ?_).mp hguard.2, Nat.dvd_of_mod_eq_zero hmod⟩
      exact Nat.lt_of_lt_of_le hh hguard.1
    simp only [if_neg hguard, if_pos hmod]

/-- The frame decoded from a report of `n` records at most as long as `int` counts. -/
theorem mt2Decode_accepted {report : List U8} {reportId : U8} {headerLen : Nat}
    (hh : 0 < headerLen) (h : WellFormed report reportId headerLen) (hlen : report.length < 2 ^ 31)
    (frame : TouchFrame) :
    mt2Decode (some report) reportId headerLen (some frame) =
      (0, some
        { transducers := Nat.fold (min ((report.length - headerLen) / 9) 16)
            (fun i _ b => b.pushWith (decodeRecord fun k => byteAt report (headerLen + i * 9 + k)))
            (frame.transducers.resize 0)
          timestamp := 0#64
          isPhysicalButtonDown := byteAt report 1 &&& 0x01#8 }) := by
  obtain ⟨hle, hid, hdvd⟩ := h
  have hguard : ¬ (report.length < headerLen ∨ byteAt report 0 ≠ reportId) := by
    rw [not_or, Nat.not_lt, not_not]
    exact ⟨hle, (byteAt_zero (Nat.lt_of_lt_of_le hh hle)).mpr hid⟩
  have hmod : ¬ (report.length - headerLen) % 9 ≠ 0 := not_not_intro (Nat.mod_eq_zero_of_dvd hdvd)
  have hcount := npoints_toNat (Nat.lt_of_le_of_lt (Nat.sub_le _ headerLen) hlen)
  unfold mt2Decode
  simp only [if_neg hguard, if_neg hmod]
  rw [hcount]

/-- **Exactly the format is accepted.** -/
theorem mt2Decode_eq_zero_iff {report : List U8} {reportId : U8} {headerLen : Nat}
    (hh : 0 < headerLen) (hlen : report.length < 2 ^ 31) (frame : TouchFrame) :
    (mt2Decode (some report) reportId headerLen (some frame)).1 = 0 ↔
      WellFormed report reportId headerLen := by
  by_cases h : WellFormed report reportId headerLen
  · rw [mt2Decode_accepted hh h hlen]
    exact iff_of_true rfl h
  · rw [mt2Decode_rejected hh h]
    exact iff_of_false (show (-1 : Int) ≠ 0 by decide) h

/-! ## The record layout -/

/-- The x coordinate is the low five bits of byte 1 over byte 0. -/
theorem recordX_eq (t : Nat → U8) :
    recordX t = ((t 1).extractLsb' 0 5 ++ t 0 : BitVec 13).toInt := by
  have hext : ((t 1).setWidth 32 <<< 27 ||| (t 0).setWidth 32 <<< 19).sshiftRight 19 =
      ((t 1).extractLsb' 0 5 ++ t 0 : BitVec 13).signExtend 32 := by
    ext i hi
    simp only [BitVec.getElem_sshiftRight, BitVec.getElem_signExtend]
    simp
    grind
  rw [recordX, hext, BitVec.toInt_signExtend_of_le (by decide)]

/-- The y coordinate is, negated, the low two bits of byte 3 over byte 2 over the high three bits
of byte 1. -/
theorem recordY_eq (t : Nat → U8) :
    recordY t =
      -((t 3).extractLsb' 0 2 ++ t 2 ++ (t 1).extractLsb' 5 3 : BitVec 13).toInt := by
  have hext : (((t 3).setWidth 32 <<< 30 ||| (t 2).setWidth 32 <<< 22) |||
        (t 1).setWidth 32 <<< 14).sshiftRight 19 =
      ((t 3).extractLsb' 0 2 ++ t 2 ++ (t 1).extractLsb' 5 3 : BitVec 13).signExtend 32 := by
    ext i hi
    simp only [BitVec.getElem_sshiftRight, BitVec.getElem_signExtend]
    simp
    grind
  rw [recordY, hext, BitVec.toInt_signExtend_of_le (by decide)]

/-- A finger record as the device means it; the 13-bit fields are two's complement. -/
structure Mt2Record where
  x : BitVec 13
  /-- The y coordinate is stored negated. -/
  negY : BitVec 13
  id : BitVec 4
  stateBits : BitVec 2
  major : U8
  minor : U8
  size : U8
  /-- The orientation plus four. -/
  orientation : BitVec 3

/-- The bits of a record that nothing reads. -/
structure UnusedBits where
  byte3 : BitVec 4
  byte7 : U8
  byte8 : BitVec 1

/-- The nine bytes of a record. -/
def Mt2Record.pack (r : Mt2Record) (u : UnusedBits) : List U8 :=
  [r.x.extractLsb' 0 8,
    r.negY.extractLsb' 0 3 ++ r.x.extractLsb' 8 5,
    r.negY.extractLsb' 3 8,
    r.stateBits ++ u.byte3 ++ r.negY.extractLsb' 11 2,
    r.major, r.minor, r.size, u.byte7,
    r.orientation ++ u.byte8 ++ r.id]

/-- What the record says about a contact, written over the slot `out`. -/
def Mt2Record.contact (r : Mt2Record) (out : TouchContact) : TouchContact :=
  { id := r.id.setWidth 32
    currentCoordinates :=
      { x := r.x.toInt, y := -r.negY.toInt, pressure := r.size.toNat,
        width := out.currentCoordinates.width }
    state := if r.stateBits = 0b10#2 then .tsTouching else .tsEnd
    touchMajor := r.major.toNat
    touchMinor := r.minor.toNat
    orientation := r.orientation.toNat - 4 }

/-- The records of a report, each with its unused bits. -/
def packAll (records : List (Mt2Record × UnusedBits)) : List U8 :=
  records.flatMap fun p => p.1.pack p.2

/-! The three masks and shifts of the loop body, as bit fields of a byte. -/

theorem low4_eq (b : U8) : (b &&& 0x0f#8).setWidth 32 = (b.extractLsb' 0 4).setWidth 32 := by
  revert b
  decide +kernel

theorem high2_eq (b : U8) : b &&& 0xc0#8 = 0x80#8 ↔ b.extractLsb' 6 2 = 0b10#2 := by
  revert b
  decide +kernel

theorem high3_eq (b : U8) : (b >>> 5).toNat = (b.extractLsb' 5 3).toNat := by
  revert b
  decide +kernel

/-- **The loop body inverts the packing**, whatever the unused bits are. -/
theorem decodeRecord_pack (r : Mt2Record) (u : UnusedBits) (out : TouchContact) :
    decodeRecord (byteAt (r.pack u)) out = r.contact out := by
  have hx : (byteAt (r.pack u) 1).extractLsb' 0 5 ++ byteAt (r.pack u) 0 = r.x := by
    ext i hi
    simp [byteAt, Mt2Record.pack]
    grind
  have hy : (byteAt (r.pack u) 3).extractLsb' 0 2 ++ byteAt (r.pack u) 2 ++
      (byteAt (r.pack u) 1).extractLsb' 5 3 = r.negY := by
    ext i hi
    simp [byteAt, Mt2Record.pack]
    grind
  have hid : (byteAt (r.pack u) 8).extractLsb' 0 4 = r.id := by
    ext i hi
    simp [byteAt, Mt2Record.pack]
    grind
  have hstate : (byteAt (r.pack u) 3).extractLsb' 6 2 = r.stateBits := by
    ext i hi
    simp [byteAt, Mt2Record.pack]
    grind
  have horient : (byteAt (r.pack u) 8).extractLsb' 5 3 = r.orientation := by
    ext i hi
    simp [byteAt, Mt2Record.pack]
    grind
  simp only [decodeRecord, recordX_eq, hx, recordY_eq, hy, low4_eq, hid, high2_eq, hstate, high3_eq,
    horient]
  rfl

/-! ## Packed reports -/

@[simp] theorem length_pack (r : Mt2Record) (u : UnusedBits) : (r.pack u).length = 9 := rfl

@[simp] theorem length_packAll (records : List (Mt2Record × UnusedBits)) :
    (packAll records).length = 9 * records.length := by
  induction records with
  | nil => rfl
  | cons p records ih =>
    rw [packAll, List.flatMap_cons, List.length_append, length_pack, ← packAll, ih,
      List.length_cons]
    omega

theorem byteAt_append_left {xs ys : List U8} {i : Nat} (h : i < xs.length) :
    byteAt (xs ++ ys) i = byteAt xs i := by
  rw [byteAt, byteAt, List.getD_eq_getElem?_getD, List.getD_eq_getElem?_getD,
    List.getElem?_append_left h]

theorem byteAt_append_right (xs ys : List U8) (i : Nat) :
    byteAt (xs ++ ys) (xs.length + i) = byteAt ys i := by
  rw [byteAt, byteAt, List.getD_eq_getElem?_getD, List.getD_eq_getElem?_getD,
    List.getElem?_append_right (Nat.le_add_right _ _), Nat.add_sub_cancel_left]

/-- Byte `k` of record `i`. -/
theorem byteAt_packAll {records : List (Mt2Record × UnusedBits)} {i : Nat}
    (hi : i < records.length) {k : Nat} (hk : k < 9) :
    byteAt (packAll records) (i * 9 + k) = byteAt (records[i].1.pack records[i].2) k := by
  induction records generalizing i with
  | nil => exact absurd hi (Nat.not_lt_zero i)
  | cons p records ih =>
    rw [packAll, List.flatMap_cons, ← packAll]
    cases i with
    | zero =>
      rw [Nat.zero_mul, Nat.zero_add]
      exact byteAt_append_left (by rw [length_pack]; exact hk)
    | succ i =>
      have hidx : (i + 1) * 9 + k = (p.1.pack p.2).length + (i * 9 + k) := by
        rw [length_pack]
        omega
      rw [hidx, byteAt_append_right]
      exact ih (Nat.lt_of_succ_lt_succ hi)

/-- The loop body reads the nine bytes of its record only. -/
theorem decodeRecord_congr {t t' : Nat → U8} (h : ∀ k, k < 9 → t k = t' k) (out : TouchContact) :
    decodeRecord t out = decodeRecord t' out := by
  simp (disch := omega) only [decodeRecord, recordX, recordY, h]

theorem decodeRecord_packAll (header : List U8) {records : List (Mt2Record × UnusedBits)} {i : Nat}
    (hi : i < records.length) (out : TouchContact) :
    decodeRecord (fun k => byteAt (header ++ packAll records) (header.length + i * 9 + k)) out =
      records[i].1.contact out := by
  rw [← decodeRecord_pack records[i].1 records[i].2]
  refine decodeRecord_congr (fun k hk => ?_) out
  rw [Nat.add_assoc, byteAt_append_right]
  exact byteAt_packAll hi hk

theorem wellFormed_packed {header : List U8} {reportId : U8} (hid : header.head? = some reportId)
    (records : List (Mt2Record × UnusedBits)) :
    WellFormed (header ++ packAll records) reportId header.length := by
  refine ⟨?_, ?_, ?_⟩
  · rw [List.length_append]
    exact Nat.le_add_right _ _
  · rw [List.head?_append, hid]
    rfl
  · rw [List.length_append, Nat.add_sub_cancel_left, length_packAll]
    exact Nat.dvd_mul_right 9 _

/-- Every nine bytes are a record. -/
theorem exists_pack {bs : List U8} (h : bs.length = 9) : ∃ p : Mt2Record × UnusedBits,
    p.1.pack p.2 = bs := by
  match bs, h with
  | [b0, b1, b2, b3, b4, b5, b6, b7, b8], _ =>
    refine ⟨(⟨b1.extractLsb' 0 5 ++ b0, b3.extractLsb' 0 2 ++ b2 ++ b1.extractLsb' 5 3,
      b8.extractLsb' 0 4, b3.extractLsb' 6 2, b4, b5, b6, b8.extractLsb' 5 3⟩,
      ⟨b3.extractLsb' 2 4, b7, b8.extractLsb' 4 1⟩), ?_⟩
    simp only [Mt2Record.pack, List.cons.injEq, and_true, true_and]
    refine ⟨?_, ?_, ?_, ?_, ?_⟩ <;>
      · ext i hi
        simp
        grind

/-- **A report of the format is a header and packed records.** -/
theorem exists_packAll {report : List U8} {reportId : U8} {headerLen : Nat}
    (h : WellFormed report reportId headerLen) :
    ∃ header records, header.length = headerLen ∧ report = header ++ packAll records := by
  obtain ⟨hle, -, n, hn⟩ := h
  have hsplit : ∀ (n : Nat) (bs : List U8), bs.length = 9 * n →
      ∃ records, packAll records = bs := by
    intro n
    induction n with
    | zero => exact fun bs hbs => ⟨[], (List.length_eq_zero_iff.mp hbs).symm⟩
    | succ n ih =>
      intro bs hbs
      have hfirst : (bs.take 9).length = 9 := by
        rw [List.length_take]
        omega
      obtain ⟨p, hp⟩ := exists_pack hfirst
      obtain ⟨records, hrecords⟩ := ih (bs.drop 9) (by rw [List.length_drop]; omega)
      refine ⟨p :: records, ?_⟩
      rw [packAll, List.flatMap_cons, ← packAll, hp, hrecords, List.take_append_drop]
  obtain ⟨records, hrecords⟩ := hsplit n (report.drop headerLen) (by rw [List.length_drop, hn])
  exact ⟨report.take headerLen, records, List.length_take_of_le hle,
    by rw [hrecords, List.take_append_drop]⟩

/-- The decoded frame: its first sixteen records over the slots, the rest of the slots as before. -/
structure DecodedFrom (records : List (Mt2Record × UnusedBits)) (byte1 : U8)
    (before after : TouchFrame) : Prop where
  count : after.contactCount = min records.length 16
  contacts : ∀ i (hi : i < records.length), i < 16 →
    after.contacts[i]? = some (records[i].1.contact (before.transducers.slots i))
  untouched : ∀ i, min records.length 16 ≤ i →
    after.transducers.slots i = before.transducers.slots i
  button : after.isPhysicalButtonDown = byte1 &&& 0x01#8
  timestamp : after.timestamp = 0#64

theorem DecodedFrom.slot {records : List (Mt2Record × UnusedBits)} {byte1 : U8}
    {before after : TouchFrame} (h : DecodedFrom records byte1 before after) {i : Nat}
    (hi : i < records.length) (h16 : i < 16) :
    after.transducers.slots i = records[i].1.contact (before.transducers.slots i) := by
  have hc := h.contacts i hi h16
  have hlt : i < after.transducers.count := by
    have hcount : after.transducers.count = min records.length 16 := h.count
    omega
  rw [TouchFrame.contacts, SlotBuffer.getElem?_toList hlt] at hc
  exact Option.some.inj hc

/-- **The unused bits have no influence**: records that differ in them only decode to one frame. -/
theorem DecodedFrom.unique {records records' : List (Mt2Record × UnusedBits)} {byte1 : U8}
    {before after after' : TouchFrame} (h : DecodedFrom records byte1 before after)
    (h' : DecodedFrom records' byte1 before after')
    (hsame : records'.map Prod.fst = records.map Prod.fst) : after' = after := by
  have hn : records'.length = records.length := by
    rw [← List.length_map Prod.fst, hsame, List.length_map]
  have hslots : after'.transducers.slots = after.transducers.slots := by
    funext i
    by_cases hi : i < min records.length 16
    · obtain ⟨hlen, h16⟩ := Nat.lt_min.mp hi
      have hlen' : i < records'.length := by rw [hn]; exact hlen
      have hfst : records'[i].1 = records[i].1 := by
        have hget : (records'.map Prod.fst)[i]? = (records.map Prod.fst)[i]? := by rw [hsame]
        simpa [hlen, hlen'] using hget
      rw [h.slot hlen h16, h'.slot hlen' h16, hfst]
    · rw [Nat.not_lt] at hi
      rw [h.untouched i hi, h'.untouched i (by rw [hn]; exact hi)]
  have hcount : after'.contactCount = after.contactCount := by rw [h.count, h'.count, hn]
  exact TouchFrame.ext (SlotBuffer.ext hslots hcount) (h'.timestamp.trans h.timestamp.symm)
    (h'.button.trans h.button.symm)

/-- **The frame decoded from a packed report.** -/
theorem mt2Decode_packed {header : List U8} {reportId : U8} (hid : header.head? = some reportId)
    (hlen : 2 ≤ header.length) {records : List (Mt2Record × UnusedBits)}
    (hmax : (header ++ packAll records).length < 2 ^ 31) (frame : TouchFrame) :
    ∃ f, mt2Decode (some (header ++ packAll records)) reportId header.length (some frame) =
        (0, some f) ∧ DecodedFrom records (byteAt header 1) frame f := by
  have hpos : 0 < header.length := Nat.lt_of_lt_of_le Nat.zero_lt_two hlen
  have hcount : ((header ++ packAll records).length - header.length) / 9 = records.length := by
    rw [List.length_append, Nat.add_sub_cancel_left, length_packAll]
    exact Nat.mul_div_cancel_left _ (by decide)
  rw [mt2Decode_accepted hpos (wellFormed_packed hid records) hmax, hcount]
  refine ⟨_, rfl, ?_⟩
  obtain ⟨hlist, hrest⟩ := SlotBuffer.toList_fold_pushWith
    (fun i => decodeRecord fun k => byteAt (header ++ packAll records) (header.length + i * 9 + k))
    frame.transducers (Nat.min_le_right records.length 16)
  refine ⟨?_, fun i hi h16 => ?_, hrest, ?_, rfl⟩
  · rw [TouchFrame.contactCount, ← SlotBuffer.length_toList, hlist]
    simp
  · have hi' : i < min records.length 16 := Nat.lt_min.mpr ⟨hi, h16⟩
    rw [TouchFrame.contacts, hlist, List.getElem?_map, List.getElem?_range hi', Option.map_some,
      decodeRecord_packAll header hi]
  · show byteAt (header ++ packAll records) 1 &&& 0x01#8 = _
    rw [byteAt_append_left hlen]

/-- **The decoder accepts exactly the report format and inverts its packing.** -/
theorem mt2_decode_format (reportId : U8) (headerLen : Nat) (hh : 2 ≤ headerLen) :
    (∀ report frame, report.length < 2 ^ 31 →
      ((mt2Decode (some report) reportId headerLen (some frame)).1 = 0 ↔
        WellFormed report reportId headerLen) ∧
      (¬ WellFormed report reportId headerLen →
        mt2Decode (some report) reportId headerLen (some frame) = (-1, some frame))) ∧
    ∀ header records frame, header.length = headerLen → header.head? = some reportId →
      (header ++ packAll records).length < 2 ^ 31 → ∃ f,
        mt2Decode (some (header ++ packAll records)) reportId headerLen (some frame) =
          (0, some f) ∧
        DecodedFrom records (byteAt header 1) frame f ∧
        ∀ records', records'.map Prod.fst = records.map Prod.fst →
          mt2Decode (some (header ++ packAll records')) reportId headerLen (some frame) =
            (0, some f) := by
  have hpos : 0 < headerLen := Nat.lt_of_lt_of_le Nat.zero_lt_two hh
  refine ⟨fun report frame hlen => ⟨mt2Decode_eq_zero_iff hpos hlen frame, fun h =>
    mt2Decode_rejected hpos h frame⟩, ?_⟩
  rintro header records frame rfl hid hmax
  obtain ⟨f, hf, hfrom⟩ := mt2Decode_packed hid hh hmax frame
  refine ⟨f, hf, hfrom, fun records' hsame => ?_⟩
  have hn : records'.length = records.length := by
    rw [← List.length_map Prod.fst, hsame, List.length_map]
  have hmax' : (header ++ packAll records').length < 2 ^ 31 := by
    rw [List.length_append, length_packAll] at hmax ⊢
    rw [hn]
    exact hmax
  obtain ⟨f', hf', hfrom'⟩ := mt2Decode_packed hid hh hmax' frame
  rw [hf', hfrom.unique hfrom' hsame]

theorem mt2_decode_format_one_finger :
    let header : List U8 := [0x31#8, 0x48#8, 0x83#8, 0x83#8]
    let finger : Mt2Record × UnusedBits :=
      (⟨-752#13, 556#13, 9#4, 0b10#2, 0x66#8, 0x58#8, 0x17#8, 5#3⟩, ⟨2#4, 0x25#8, 1#1⟩)
    mt2Decode (some [0x31#8, 0#8, 0#8]) 0x31#8 4 (some .zero) = (-1, some .zero) ∧
      ∃ f, mt2Decode (some (header ++ packAll [finger])) 0x31#8 4 (some .zero) = (0, some f) ∧
        DecodedFrom [finger] (byteAt header 1) .zero f ∧
        ∀ records', records'.map Prod.fst = [finger].map Prod.fst →
          mt2Decode (some (header ++ packAll records')) 0x31#8 4 (some .zero) = (0, some f) :=
  ⟨((mt2_decode_format 0x31#8 4 (by decide)).1 [0x31#8, 0#8, 0#8] .zero (by decide)).2 (by decide),
    (mt2_decode_format 0x31#8 4 (by decide)).2 [0x31#8, 0x48#8, 0x83#8, 0x83#8]
      [(⟨-752#13, 556#13, 9#4, 0b10#2, 0x66#8, 0x58#8, 0x17#8, 5#3⟩, ⟨2#4, 0x25#8, 1#1⟩)]
      .zero rfl rfl (by decide)⟩

end MagicTrackpad
