import MagicTrackpad.Decode
import MagicTrackpad.Lib.Bitmask
import MagicTrackpad.Lib.ByteStore
import MagicTrackpad.Lib.Rescale

/-!
# Encoding a CompactV4 report (`src/mavericks_amd_terminal_encode.c`)

`constructReport` is `mavericks_amd_construct_report`: the frame as a Magic Trackpad 1 report, a
4-byte header with a 22-bit timestamp and one 9-byte record for each contact, the coordinates
rescaled from the MT2 range to the MT1 range (`scale`). The buffer is memory; `none` is a NULL
pointer.

The reader of the report is given by the way it unpacks the bytes: `readTimestamp`, `readId`,
`readStateCode`, and `recordX`, `recordY` of the decoder, whose record layout this one shares.

Results:
* `scale_eq_stretch`: the truncating C arithmetic is a clamped linear map, as long as the
  subtraction stays within an `int`.
* `constructReport_eq`: one run of `4 + 9n` bytes (`reportBytes`) is written, or nothing.
* `encodeRecord_x`, `encodeRecord_y`, `encodeRecord_id`, `encodeRecord_state`, `header_timestamp`,
  `header_button`: each field is read back.
* `construct_report_lossless`: the encoder loses nothing of what the reader takes.
-/

namespace MagicTrackpad

open Lib
open Lib.Rescale (stretch)
open Lib.ByteStore (storeList)
open Lib.Bitmask (and_mask)

/-! ## Ranges -/

/-- `MT2_MIN_X`. -/
abbrev mt2MinX : Int := -3678

/-- `MT2_MAX_X`. -/
abbrev mt2MaxX : Int := 3934

/-- `MT2_MIN_Y`. -/
abbrev mt2MinY : Int := -2478

/-- `MT2_MAX_Y`. -/
abbrev mt2MaxY : Int := 2587

/-- `MT1_MIN_X`. -/
abbrev mt1MinX : Int := -2909

/-- `MT1_MAX_X`. -/
abbrev mt1MaxX : Int := 3167

/-- `MT1_MIN_Y`. -/
abbrev mt1MinY : Int := -2456

/-- `MT1_MAX_Y`. -/
abbrev mt1MaxY : Int := 2565

/-- `scale`: the subtraction is done in `int`, the rest in `long`. -/
def scale (v inMin inMax outMin outMax : Int) : Int :=
  let span := inMax - inMin
  if span = 0 then outMin
  else
    let s := (Int.bmod (v - inMin) (2 ^ 32) * (outMax - outMin)).tdiv span + outMin
    let s := if s < outMin then outMin else s
    if outMax < s then outMax else s

/-- The x coordinate of a record. -/
def scaleX (v : Int) : Int := scale v mt2MinX mt2MaxX mt1MinX mt1MaxX

/-- The y coordinate of a record. -/
def scaleY (v : Int) : Int := scale v mt2MinY mt2MaxY mt1MinY mt1MaxY

/-! ## The report -/

/-- `MT1_STATE_NONE`, `_START`, `_DRAG` and `_BREAK`. -/
def mt1State : TouchState → U32
  | .tsStart => 0x30#32
  | .tsTouching => 0x40#32
  | .tsEnd => 0x50#32
  | .tsNone => 0x00#32

/-- `MT1_FIRM_RADIUS`. -/
def mt1FirmRadius : U32 := 0x20#32

/-- The body of the loop: the nine bytes of slot `i`. -/
def encodeRecord (i : Nat) (c : TouchContact) : List U8 :=
  let x1 := scaleX c.currentCoordinates.x
  let y1 := scaleY c.currentCoordinates.y
  let X : U32 := BitVec.ofInt 32 x1 &&& 0x1fff#32
  let V : U32 := BitVec.ofInt 32 (-y1) &&& 0x1fff#32
  let id : U32 := c.id &&& 0xf#32
  let orient : U32 := BitVec.ofInt 32 (c.orientation + 32) &&& 0x3f#32
  let state : U32 := mt1State c.state
  let fingerId : U32 := BitVec.ofNat 32 ((i + 1) % 5 + 1)
  -- a present finger reports a firm size and radius, a lifting one its own
  let sz6 : U32 := if c.state = .tsEnd then BitVec.ofInt 32 c.pressure &&& 0x3f#32 else 0x3f#32
  let maj : U32 :=
    if c.state = .tsEnd then BitVec.ofInt 32 c.touchMajor &&& 0xff#32 else mt1FirmRadius
  let min : U32 :=
    if c.state = .tsEnd then BitVec.ofInt 32 c.touchMinor &&& 0xff#32 else mt1FirmRadius
  [(X &&& 0xff#32).setWidth 8,
    ((X >>> 8 &&& 0x1f#32) ||| (V &&& 0x07#32) <<< 5).setWidth 8,
    (V >>> 3 &&& 0xff#32).setWidth 8,
    (V >>> 11 &&& 0x03#32).setWidth 8,
    (maj &&& 0xff#32).setWidth 8,
    (min &&& 0xff#32).setWidth 8,
    (sz6 ||| (id &&& 0x03#32) <<< 6).setWidth 8,
    (orient <<< 2 ||| (id >>> 2 &&& 0x03#32)).setWidth 8,
    ((state &&& 0xf0#32) ||| (fingerId &&& 0x0f#32)).setWidth 8]

/-- The four header bytes. -/
def encodeHeader (button : U8) (timestamp : U32) : List U8 :=
  let ts := timestamp &&& 0x3fffff#32
  [0x28#8,
    ((button.setWidth 32 &&& 0x01#32) ||| (ts &&& 0x3f#32) <<< 2).setWidth 8,
    (ts >>> 6 &&& 0xff#32).setWidth 8,
    (ts >>> 14 &&& 0xff#32).setWidth 8]

/-- `mavericks_amd_construct_report`: its return value and the buffer it leaves. -/
def constructReport (frame : Option TouchFrame) (buf : Option (Nat → U8)) (cap : Nat)
    (timestamp : U32) : Int × Option (Nat → U8) :=
  match frame, buf with
  | some frame, some buf =>
    let nt := min frame.contactCount maxTouches
    let need := 4 + nt * 9
    if cap < need then (-1, some buf)
    else
      let buf := storeList buf 0 (encodeHeader frame.isPhysicalButtonDown timestamp)
      (need, some (Nat.fold nt
        (fun i _ buf =>
          storeList buf (4 + i * 9) (encodeRecord i (frame.transducers.slots i))) buf))
  | _, buf => (-1, buf)

/-! ## What is written -/

/-- All the bytes of a report. -/
def reportBytes (frame : TouchFrame) (timestamp : U32) : List U8 :=
  encodeHeader frame.isPhysicalButtonDown timestamp ++
    (List.range frame.contactCount).flatMap fun i => encodeRecord i (frame.transducers.slots i)

@[simp] theorem length_encodeRecord (i : Nat) (c : TouchContact) : (encodeRecord i c).length = 9 :=
  rfl

@[simp] theorem length_encodeHeader (button : U8) (timestamp : U32) :
    (encodeHeader button timestamp).length = 4 := rfl

@[simp] theorem length_reportBytes (frame : TouchFrame) (timestamp : U32) :
    (reportBytes frame timestamp).length = 4 + 9 * frame.contactCount := by
  simp [reportBytes, List.length_flatMap, Nat.mul_comm]

/-- **What the encoder does** with a frame and a buffer. -/
theorem constructReport_eq (frame : TouchFrame) (buf : Nat → U8) (cap : Nat) (timestamp : U32) :
    constructReport (some frame) (some buf) cap timestamp =
      if cap < 4 + 9 * frame.contactCount then (-1, some buf)
      else (((4 + 9 * frame.contactCount : Nat) : Int),
        some (storeList buf 0 (reportBytes frame timestamp))) := by
  have hnt : min frame.contactCount maxTouches = frame.contactCount :=
    Nat.min_eq_left frame.transducers.count_le
  have hneed : 4 + frame.contactCount * 9 = 4 + 9 * frame.contactCount := by rw [Nat.mul_comm]
  have hstore := ByteStore.fold_storeList
    (fun i => length_encodeRecord i (frame.transducers.slots i))
    (storeList buf 0 (encodeHeader frame.isPhysicalButtonDown timestamp)) 4 frame.contactCount
  simp only [constructReport, hnt, hneed, reportBytes, ByteStore.storeList_append,
    length_encodeHeader, Nat.zero_add]
  rw [hnt, hstore]

theorem reportBytes_at {frame : TouchFrame} {timestamp : U32} (buf : Nat → U8) {j : Nat}
    (hj : j < 4 + 9 * frame.contactCount) :
    storeList buf 0 (reportBytes frame timestamp) j = byteAt (reportBytes frame timestamp) j := by
  have hlen : j < (reportBytes frame timestamp).length := by rw [length_reportBytes]; exact hj
  have hat := ByteStore.storeList_at buf 0 hlen
  rw [Nat.zero_add] at hat
  rw [hat, byteAt, List.getD_eq_getElem?_getD, List.getElem?_eq_getElem hlen, Option.getD_some]

theorem byteAt_header (frame : TouchFrame) (timestamp : U32) {j : Nat} (hj : j < 4) :
    byteAt (reportBytes frame timestamp) j =
      byteAt (encodeHeader frame.isPhysicalButtonDown timestamp) j :=
  byteAt_append_left hj

/-- Byte `k` of record `i`. -/
theorem byteAt_record {frame : TouchFrame} (timestamp : U32) {i : Nat}
    (hi : i < frame.contactCount) {k : Nat} (hk : k < 9) :
    byteAt (reportBytes frame timestamp) (4 + 9 * i + k) =
      byteAt (encodeRecord i (frame.transducers.slots i)) k := by
  have hblock : ∀ n, i < n → byteAt ((List.range n).flatMap fun i =>
      encodeRecord i (frame.transducers.slots i)) (9 * i + k) =
        byteAt (encodeRecord i (frame.transducers.slots i)) k := by
    intro n
    induction n with
    | zero => exact fun h => absurd h (Nat.not_lt_zero i)
    | succ n ih =>
      intro h
      have hlen : ((List.range n).flatMap fun i =>
          encodeRecord i (frame.transducers.slots i)).length = 9 * n := by
        simp [List.length_flatMap, Nat.mul_comm]
      rw [List.range_succ, List.flatMap_append]
      rcases Nat.lt_succ_iff_lt_or_eq.mp h with hlt | rfl
      · rw [byteAt_append_left (by rw [hlen]; omega)]
        exact ih hlt
      · rw [← hlen, byteAt_append_right]
        simp
  rw [reportBytes, Nat.add_assoc, ← length_encodeHeader frame.isPhysicalButtonDown timestamp,
    byteAt_append_right]
  exact hblock frame.contactCount hi

/-! ## The rescaling -/

/-- A coordinate with absolute value below `2^30`. -/
def SmallCoord (v : Int) : Prop := -2 ^ 30 < v ∧ v < 2 ^ 30

/-- The C arithmetic is the clamped linear map, while the subtraction does not wrap. -/
theorem scale_eq_stretch {v inMin inMax outMin outMax : Int} (hin : inMin < inMax)
    (hout : outMin ≤ outMax) (hlo : -2 ^ 31 ≤ v - inMin) (hhi : v - inMin < 2 ^ 31) :
    scale v inMin inMax outMin outMax = stretch v inMin inMax outMin outMax := by
  have hwrap : Int.bmod (v - inMin) (2 ^ 32) = v - inMin := by
    apply Int.bmod_eq_of_le
    · omega
    · omega
  have hspan : ¬ inMax - inMin = 0 := by omega
  unfold scale
  simp only [hwrap, if_neg hspan]
  rw [Rescale.ifs_eq_clamp hout]
  exact Rescale.clamp_tdiv hin hout

/-- Clamping a coordinate first changes nothing. -/
theorem scale_clamp {v inMin inMax outMin outMax : Int} (hin : inMin < inMax)
    (hout : outMin ≤ outMax) (hmin : SmallCoord inMin) (hmax : SmallCoord inMax)
    (hv : SmallCoord v) :
    scale (Rescale.clamp v inMin inMax) inMin inMax outMin outMax =
      scale v inMin inMax outMin outMax := by
  obtain ⟨hmin1, hmin2⟩ := hmin
  obtain ⟨hmax1, hmax2⟩ := hmax
  obtain ⟨hv1, hv2⟩ := hv
  obtain ⟨hlo, hhi⟩ := Rescale.clamp_mem (v := v) (Int.le_of_lt hin)
  rw [scale_eq_stretch hin hout (by omega) (by omega),
    scale_eq_stretch hin hout (by omega) (by omega), Rescale.stretch_clamp hin hout]

/-- The result is in the output range, also where the subtraction wraps. -/
theorem scale_mem {inMin inMax outMin outMax : Int} (hout : outMin ≤ outMax) (v : Int) :
    outMin ≤ scale v inMin inMax outMin outMax ∧ scale v inMin inMax outMin outMax ≤ outMax := by
  unfold scale
  by_cases hspan : inMax - inMin = 0
  · simp only [if_pos hspan]
    exact ⟨Int.le_refl _, hout⟩
  · simp only [if_neg hspan]
    rw [Rescale.ifs_eq_clamp hout]
    exact Rescale.clamp_mem hout

/-- **A monotone map onto a range**, saturating outside its input range. -/
structure RangeMap (s : Int → Int) (inMin inMax outMin outMax : Int) : Prop where
  mono : ∀ v w, SmallCoord v → SmallCoord w → v ≤ w → s v ≤ s w
  min_to_min : s inMin = outMin
  max_to_max : s inMax = outMax
  below : ∀ v, SmallCoord v → v ≤ inMin → s v = outMin
  above : ∀ v, SmallCoord v → inMax ≤ v → s v = outMax
  mem : ∀ v, outMin ≤ s v ∧ s v ≤ outMax

theorem rangeMap_scale {inMin inMax outMin outMax : Int} (hin : inMin < inMax)
    (hout : outMin ≤ outMax) (hmin : SmallCoord inMin) (hmax : SmallCoord inMax) :
    RangeMap (fun v => scale v inMin inMax outMin outMax) inMin inMax outMin outMax := by
  obtain ⟨hmin1, hmin2⟩ := hmin
  have hscale : ∀ v, SmallCoord v →
      scale v inMin inMax outMin outMax = stretch v inMin inMax outMin outMax := by
    rintro v ⟨hv1, hv2⟩
    exact scale_eq_stretch hin hout (by omega) (by omega)
  refine ⟨fun v w hv hw h => ?_, ?_, ?_, fun v hv h => ?_, fun v hv h => ?_, scale_mem hout⟩
  · simp only [hscale v hv, hscale w hw]
    exact Rescale.stretch_mono hin hout h
  · simp only [hscale inMin ⟨hmin1, hmin2⟩]
    exact Rescale.stretch_of_le hin hout (Int.le_refl _)
  · simp only [hscale inMax hmax]
    exact Rescale.stretch_of_ge hin hout (Int.le_refl _)
  · simp only [hscale v hv]
    exact Rescale.stretch_of_le hin hout h
  · simp only [hscale v hv]
    exact Rescale.stretch_of_ge hin hout h

theorem rangeMap_scaleX : RangeMap scaleX mt2MinX mt2MaxX mt1MinX mt1MaxX :=
  rangeMap_scale (by decide) (by decide) ⟨by decide, by decide⟩ ⟨by decide, by decide⟩

theorem rangeMap_scaleY : RangeMap scaleY mt2MinY mt2MaxY mt1MinY mt1MaxY :=
  rangeMap_scale (by decide) (by decide) ⟨by decide, by decide⟩ ⟨by decide, by decide⟩

/-! ## The reader's side -/

/-- `(b1 >> 2) | (b2 << 6) | (b3 << 14)`. -/
def readTimestamp (b : Nat → U8) : U32 :=
  (b 1).setWidth 32 >>> 2 ||| (b 2).setWidth 32 <<< 6 ||| (b 3).setWidth 32 <<< 14

/-- `((t7 << 2) | (t6 >> 6)) & 0xf`. -/
def readId (t : Nat → U8) : U32 :=
  ((t 7).setWidth 32 <<< 2 ||| (t 6).setWidth 32 >>> 6) &&& 0xf#32

/-- The high nibble of byte 8. -/
def readStateCode (t : Nat → U8) : U8 := t 8 >>> 4

/-- The recognizer's code of a state, `MTTouchState`. -/
def stateCode : TouchState → U8
  | .tsNone => 0
  | .tsStart => 3
  | .tsTouching => 4
  | .tsEnd => 5

theorem header_timestamp (button : U8) (t : U32) :
    readTimestamp (byteAt (encodeHeader button t)) = t &&& 0x3fffff#32 := by
  have hb1 : (byteAt (encodeHeader button t) 1).setWidth 32 >>> 2 = (t.setWidth 6).setWidth 32 := by
    simp only [encodeHeader, byteAt, List.getD_cons_succ, List.getD_cons_zero,
      and_mask (m := 0x01#32) 1 rfl, and_mask (m := 0x3f#32) 6 rfl,
      and_mask (m := 0x3fffff#32) 22 rfl]
    ext i hi
    simp
    grind
  have hb2 : byteAt (encodeHeader button t) 2 = t.extractLsb' 6 8 := by
    simp only [encodeHeader, byteAt, List.getD_cons_succ, List.getD_cons_zero,
      and_mask (m := 0xff#32) 8 rfl, and_mask (m := 0x3fffff#32) 22 rfl]
    ext i hi
    simp
    grind
  have hb3 : byteAt (encodeHeader button t) 3 = t.extractLsb' 14 8 := by
    simp only [encodeHeader, byteAt, List.getD_cons_succ, List.getD_cons_zero,
      and_mask (m := 0xff#32) 8 rfl, and_mask (m := 0x3fffff#32) 22 rfl]
    ext i hi
    simp
    grind
  rw [readTimestamp, hb1, hb2, hb3, and_mask (m := 0x3fffff#32) 22 rfl]
  ext i hi
  simp
  grind

theorem header_button (button : U8) (t : U32) :
    byteAt (encodeHeader button t) 1 &&& 0x01#8 = button &&& 0x01#8 := by
  simp only [encodeHeader, byteAt, List.getD_cons_succ, List.getD_cons_zero,
    and_mask (m := 0x01#32) 1 rfl, and_mask (m := 0x3f#32) 6 rfl, and_mask (m := 0x01#8) 1 rfl]
  ext i hi
  simp

/-- The thirteen bits of the x coordinate. -/
theorem pack_x (X V : U32) :
    ((((X >>> 8 &&& 0x1f#32) ||| (V &&& 0x07#32) <<< 5).setWidth 8).extractLsb' 0 5 ++
      (X &&& 0xff#32).setWidth 8 : BitVec 13) = X.setWidth 13 := by
  rw [and_mask (m := 0x1f#32) 5 rfl, and_mask (m := 0x07#32) 3 rfl, and_mask (m := 0xff#32) 8 rfl]
  ext i hi
  simp
  grind

/-- The thirteen bits of the y coordinate. -/
theorem pack_y (X V : U32) :
    (((V >>> 11 &&& 0x03#32).setWidth 8).extractLsb' 0 2 ++ (V >>> 3 &&& 0xff#32).setWidth 8 ++
      (((X >>> 8 &&& 0x1f#32) ||| (V &&& 0x07#32) <<< 5).setWidth 8).extractLsb' 5 3 : BitVec 13) =
    V.setWidth 13 := by
  have hhigh : ((V >>> 11 &&& 0x03#32).setWidth 8).extractLsb' 0 2 = V.extractLsb' 11 2 := by
    rw [and_mask (m := 0x03#32) 2 rfl]
    ext i hi
    simp
    grind
  have hmid : (V >>> 3 &&& 0xff#32).setWidth 8 = V.extractLsb' 3 8 := by
    rw [and_mask (m := 0xff#32) 8 rfl]
    ext i hi
    simp
  have hlow : (((X >>> 8 &&& 0x1f#32) ||| (V &&& 0x07#32) <<< 5).setWidth 8).extractLsb' 5 3 =
      V.extractLsb' 0 3 := by
    rw [and_mask (m := 0x1f#32) 5 rfl, and_mask (m := 0x07#32) 3 rfl]
    ext i hi
    simp
    grind
  rw [hhigh, hmid, hlow]
  ext i hi
  simp
  grind

/-- Thirteen bits of two's complement hold every number of absolute value at most 4095. -/
theorem toInt_low13 {v : Int} (hlo : -4096 < v) (hhi : v < 4096) :
    ((BitVec.ofInt 32 v &&& 0x1fff#32).setWidth 13).toInt = v := by
  have hbits : (BitVec.ofInt 32 v &&& 0x1fff#32).setWidth 13 = BitVec.ofInt 13 v := by
    rw [and_mask (m := 0x1fff#32) 13 rfl]
    refine BitVec.eq_of_toNat_eq ?_
    simp
    omega
  rw [hbits, BitVec.toInt_ofInt]
  apply Int.bmod_eq_of_le
  · omega
  · omega

theorem encodeRecord_x (i : Nat) (c : TouchContact) :
    recordX (byteAt (encodeRecord i c)) = scaleX c.currentCoordinates.x := by
  have hmem : -2909 ≤ scaleX c.currentCoordinates.x ∧ scaleX c.currentCoordinates.x ≤ 3167 :=
    rangeMap_scaleX.mem _
  simp only [recordX_eq, encodeRecord, byteAt, List.getD_cons_succ, List.getD_cons_zero, pack_x]
  exact toInt_low13 (by omega) (by omega)

theorem encodeRecord_y (i : Nat) (c : TouchContact) :
    recordY (byteAt (encodeRecord i c)) = scaleY c.currentCoordinates.y := by
  have hmem : -2456 ≤ scaleY c.currentCoordinates.y ∧ scaleY c.currentCoordinates.y ≤ 2565 :=
    rangeMap_scaleY.mem _
  simp only [recordY_eq, encodeRecord, byteAt, List.getD_cons_succ, List.getD_cons_zero, pack_y]
  rw [toInt_low13 (by omega) (by omega)]
  omega

/-- The id survives next to six-bit size and orientation fields. -/
theorem pack_id {sz6 orient : U32} {s o : BitVec 6} (hs : sz6 = s.setWidth 32)
    (ho : orient = o.setWidth 32) (id : U32) :
    (((orient <<< 2 ||| ((id &&& 0xf#32) >>> 2 &&& 0x03#32)).setWidth 8).setWidth 32 <<< 2 |||
      ((sz6 ||| ((id &&& 0xf#32) &&& 0x03#32) <<< 6).setWidth 8).setWidth 32 >>> 6) &&& 0xf#32 =
    id &&& 0xf#32 := by
  rw [hs, ho]
  simp only [and_mask (m := 0x03#32) 2 rfl, and_mask (m := 0xf#32) 4 rfl]
  congr 1
  ext i hi
  simp
  grind

theorem encodeRecord_id (i : Nat) (c : TouchContact) :
    readId (byteAt (encodeRecord i c)) = c.id &&& 0xf#32 := by
  have hsz : ∃ s : BitVec 6, (if c.state = .tsEnd then BitVec.ofInt 32 c.pressure &&& 0x3f#32
      else 0x3f#32) = s.setWidth 32 := by
    by_cases h : c.state = .tsEnd
    · rw [if_pos h, and_mask (m := 0x3f#32) 6 rfl]
      exact ⟨_, rfl⟩
    · rw [if_neg h]
      exact ⟨0x3f#6, rfl⟩
  obtain ⟨s, hs⟩ := hsz
  simp only [readId, encodeRecord, byteAt, List.getD_cons_succ, List.getD_cons_zero]
  exact pack_id hs (and_mask (m := 0x3f#32) 6 rfl _) c.id

/-- The state survives over a four-bit finger id. -/
theorem pack_state (s : TouchState) (f : BitVec 4) :
    ((mt1State s &&& 0xf0#32) ||| f.setWidth 32).setWidth 8 >>> 4 = stateCode s := by
  cases s <;>
    · revert f
      decide

theorem encodeRecord_state (i : Nat) (c : TouchContact) :
    readStateCode (byteAt (encodeRecord i c)) = stateCode c.state := by
  simp only [readStateCode, encodeRecord, byteAt, List.getD_cons_succ, List.getD_cons_zero,
    and_mask (m := 0x0f#32) 4 rfl]
  exact pack_state c.state _

/-- What the reader takes of a record. -/
structure ReadsRecord (c : TouchContact) (t : Nat → U8) : Prop where
  id : (readId t).toNat = c.id.toNat % 16
  state : readStateCode t = stateCode c.state
  x : recordX t = scaleX c.currentCoordinates.x
  y : recordY t = scaleY c.currentCoordinates.y

/-- What the reader takes of a report. -/
structure ReadsBack (frame : TouchFrame) (timestamp : U32) (out : Nat → U8) : Prop where
  timestamp : (readTimestamp out).toNat = timestamp.toNat % 2 ^ 22
  button : out 1 &&& 0x01#8 = frame.isPhysicalButtonDown &&& 0x01#8
  record : ∀ i c, frame.contacts[i]? = some c → ReadsRecord c fun k => out (4 + 9 * i + k)

theorem readsRecord_encodeRecord (i : Nat) (c : TouchContact) :
    ReadsRecord c (byteAt (encodeRecord i c)) where
  id := by
    rw [encodeRecord_id, and_mask (m := 0xf#32) 4 rfl, BitVec.toNat_setWidth, BitVec.toNat_setWidth]
    omega
  state := encodeRecord_state i c
  x := encodeRecord_x i c
  y := encodeRecord_y i c

/-- The reader looks at the nine bytes of a record only. -/
theorem ReadsRecord.congr {c : TouchContact} {t t' : Nat → U8} (h : ReadsRecord c t)
    (ht : ∀ k, k < 9 → t' k = t k) : ReadsRecord c t' where
  id := by
    simp (disch := omega) only [readId, ht]
    exact h.id
  state := by
    simp (disch := omega) only [readStateCode, ht]
    exact h.state
  x := by
    simp (disch := omega) only [recordX, ht]
    exact h.x
  y := by
    simp (disch := omega) only [recordY, ht]
    exact h.y

/-- **Everything the reader takes is read back**, whatever the buffer held. -/
theorem readsBack_storeList (frame : TouchFrame) (timestamp : U32) (buf : Nat → U8) :
    ReadsBack frame timestamp (storeList buf 0 (reportBytes frame timestamp)) := by
  have hheader : ∀ j, j < 4 → storeList buf 0 (reportBytes frame timestamp) j =
      byteAt (encodeHeader frame.isPhysicalButtonDown timestamp) j := fun j hj =>
    (reportBytes_at buf (by omega)).trans (byteAt_header frame timestamp hj)
  refine ⟨?_, ?_, fun i c hc => ?_⟩
  · have hts := header_timestamp frame.isPhysicalButtonDown timestamp
    simp (disch := omega) only [readTimestamp, hheader]
    rw [← readTimestamp, hts, and_mask (m := 0x3fffff#32) 22 rfl, BitVec.toNat_setWidth,
      BitVec.toNat_setWidth]
    omega
  · rw [hheader 1 (by decide)]
    exact header_button _ _
  · have hi : i < frame.contactCount := by
      rw [← TouchFrame.length_contacts]
      exact (List.getElem?_eq_some_iff.mp hc).1
    rw [TouchFrame.contacts, SlotBuffer.getElem?_toList hi] at hc
    obtain rfl := Option.some.inj hc
    refine (readsRecord_encodeRecord i _).congr fun k hk => ?_
    rw [reportBytes_at buf (by omega), byteAt_record timestamp hi hk]

/-! ## The encoder -/

/-- **Nothing is written exactly when the report does not fit** or a pointer is NULL. -/
theorem constructReport_refused (frame : Option TouchFrame) (buf : Option (Nat → U8)) (cap : Nat)
    (timestamp : U32) :
    ((constructReport frame buf cap timestamp).1 = -1 ↔
      frame = none ∨ buf = none ∨ ∃ f, frame = some f ∧ cap < 4 + 9 * f.contactCount) ∧
    ((constructReport frame buf cap timestamp).1 = -1 →
      (constructReport frame buf cap timestamp).2 = buf) := by
  cases frame with
  | none => exact ⟨iff_of_true rfl (Or.inl rfl), fun _ => rfl⟩
  | some frame =>
    cases buf with
    | none => exact ⟨iff_of_true rfl (Or.inr (Or.inl rfl)), fun _ => rfl⟩
    | some buf =>
      rw [constructReport_eq]
      by_cases hcap : cap < 4 + 9 * frame.contactCount
      · rw [if_pos hcap]
        exact ⟨iff_of_true rfl (Or.inr (Or.inr ⟨frame, rfl, hcap⟩)), fun _ => rfl⟩
      · rw [if_neg hcap]
        have hne : (((4 + 9 * frame.contactCount : Nat) : Int)) ≠ -1 := by omega
        refine ⟨iff_of_false hne ?_, fun h => absurd h hne⟩
        rintro (h | h | ⟨f, hf, hlt⟩)
        · exact absurd h (by simp)
        · exact absurd h (by simp)
        · obtain rfl := Option.some.inj hf
          exact hcap hlt

/-- What the encoder leaves in the buffer when the report fits. -/
structure Encoded (frame : TouchFrame) (timestamp : U32) (before after : Nat → U8) : Prop where
  /-- The first `4 + 9n` bytes are written, the same ones over every buffer. -/
  written : ∀ j, j < 4 + 9 * frame.contactCount →
    after j = byteAt (reportBytes frame timestamp) j
  /-- No other byte is. -/
  kept : ∀ j, 4 + 9 * frame.contactCount ≤ j → after j = before j
  reads : ReadsBack frame timestamp after

theorem constructReport_encoded (frame : TouchFrame) (buf : Nat → U8) {cap : Nat}
    (hcap : 4 + 9 * frame.contactCount ≤ cap) (timestamp : U32) :
    ∃ out, constructReport (some frame) (some buf) cap timestamp =
        (((4 + 9 * frame.contactCount : Nat) : Int), some out) ∧
      Encoded frame timestamp buf out := by
  rw [constructReport_eq, if_neg (Nat.not_lt.mpr hcap)]
  refine ⟨_, rfl, fun j hj => reportBytes_at buf hj, fun j hj => ?_, readsBack_storeList _ _ _⟩
  refine ByteStore.storeList_after buf ?_
  rw [length_reportBytes, Nat.zero_add]
  exact hj

/-- **Time differences survive** both truncations. -/
theorem timestamp_difference {f₁ f₂ : TouchFrame} {out₁ out₂ : Nat → U8} {t₁ t₂ : Nat}
    (h₁ : ReadsBack f₁ (uptimeMs t₁) out₁) (h₂ : ReadsBack f₂ (uptimeMs t₂) out₂) (hle : t₁ ≤ t₂)
    (hlt : t₂ - t₁ < 2 ^ 22) :
    (((readTimestamp out₂).toNat : Int) - (readTimestamp out₁).toNat) % 2 ^ 22 =
      (t₂ : Int) - t₁ := by
  rw [h₁.timestamp, h₂.timestamp, toNat_uptimeMs, toNat_uptimeMs]
  omega

/-- **The encoder loses nothing of what the reader takes.** -/
theorem construct_report_lossless :
    (∀ frame buf cap timestamp,
      ((constructReport frame buf cap timestamp).1 = -1 ↔
        frame = none ∨ buf = none ∨ ∃ f, frame = some f ∧ cap < 4 + 9 * f.contactCount) ∧
      ((constructReport frame buf cap timestamp).1 = -1 →
        (constructReport frame buf cap timestamp).2 = buf)) ∧
    (∀ frame buf cap timestamp, 4 + 9 * frame.contactCount ≤ cap →
      ∃ out, constructReport (some frame) (some buf) cap timestamp =
          (((4 + 9 * frame.contactCount : Nat) : Int), some out) ∧
        Encoded frame timestamp buf out) ∧
    RangeMap scaleX mt2MinX mt2MaxX mt1MinX mt1MaxX ∧
    RangeMap scaleY mt2MinY mt2MaxY mt1MinY mt1MaxY ∧
    ∀ f₁ f₂ buf₁ buf₂ cap₁ cap₂ n₁ n₂ out₁ out₂ t₁ t₂,
      constructReport (some f₁) (some buf₁) cap₁ (uptimeMs t₁) = (n₁, some out₁) → n₁ ≠ -1 →
      constructReport (some f₂) (some buf₂) cap₂ (uptimeMs t₂) = (n₂, some out₂) → n₂ ≠ -1 →
      t₁ ≤ t₂ → t₂ - t₁ < 2 ^ 22 →
      (((readTimestamp out₂).toNat : Int) - (readTimestamp out₁).toNat) % 2 ^ 22 =
        (t₂ : Int) - t₁ := by
  have hreads : ∀ f buf cap t n out, constructReport (some f) (some buf) cap t = (n, some out) →
      n ≠ -1 → ReadsBack f t out := by
    intro f buf cap t n out h hn
    by_cases hcap : 4 + 9 * f.contactCount ≤ cap
    · obtain ⟨out', hout, henc⟩ := constructReport_encoded f buf hcap t
      obtain ⟨-, hsome⟩ := Prod.mk.inj (h.symm.trans hout)
      obtain rfl := Option.some.inj hsome
      exact henc.reads
    · rw [constructReport_eq, if_pos (Nat.not_le.mp hcap)] at h
      exact absurd (Prod.mk.inj h).1.symm hn
  refine ⟨constructReport_refused, fun frame buf cap timestamp hcap =>
    constructReport_encoded frame buf hcap timestamp, rangeMap_scaleX, rangeMap_scaleY, ?_⟩
  intro f₁ f₂ buf₁ buf₂ cap₁ cap₂ n₁ n₂ out₁ out₂ t₁ t₂ h₁ hn₁ h₂ hn₂ hle hlt
  exact timestamp_difference (hreads _ _ _ _ _ _ h₁ hn₁) (hreads _ _ _ _ _ _ h₂ hn₂) hle hlt

theorem construct_report_lossless_at_wrap :
    let frame := TouchFrame.ofContacts [.ofId 9 23] 1
    let out := fun t => storeList (fun _ => 0#8) 0 (reportBytes frame (uptimeMs t))
    (∃ out, constructReport (some frame) (some fun _ => 0#8) 256 0x25abc#32 = (13, some out) ∧
      Encoded frame 0x25abc#32 (fun _ => 0#8) out) ∧
    scaleX (-100) ≤ scaleX 200 ∧
    (((readTimestamp (out 4294967301)).toNat : Int) - (readTimestamp (out 4294967295)).toNat) %
      2 ^ 22 = (4294967301 : Nat) - (4294967295 : Nat) :=
  ⟨construct_report_lossless.2.1 (.ofContacts [.ofId 9 23] 1) (fun _ => 0#8) 256 0x25abc#32
      (by decide),
    construct_report_lossless.2.2.1.mono (-100) 200 ⟨by decide, by decide⟩ ⟨by decide, by decide⟩
      (by decide),
    construct_report_lossless.2.2.2.2 (.ofContacts [.ofId 9 23] 1) (.ofContacts [.ofId 9 23] 1)
      (fun _ => 0#8) (fun _ => 0#8) 13 13 13 13 _ _ 4294967295 4294967301
      (by rw [constructReport_eq]; rfl) (by decide) (by rw [constructReport_eq]; rfl) (by decide)
      (by decide) (by decide)⟩

end MagicTrackpad
