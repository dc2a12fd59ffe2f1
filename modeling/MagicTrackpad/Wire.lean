import MagicTrackpad.Decode
import MagicTrackpad.Encode

/-!
# The VoodooInput wire (`src/mavericks_voodoo_translate.cpp`)

A satellite packs its decoded frame into a `VoodooInputEvent` (`voodooFromFrame`), and the terminal
backend translates the event back (`frameFromVoodoo`). The event has ten transducers, unsigned
coordinates from 0 to an advertised maximum, byte-sized pressure and width, and the physical button
once per transducer.

* `rescale`, `invRescale` are the two fixed-point maps; `toNat_invRescale`, `rescale_eq` say what
  they compute. With the axis span as the maximum they are inverse to each other up to clamping
  (`rescale_invRescale`).
* `roundTrip` is the round trip of a frame, and `carryThrough` what it does to a contact;
  `crossWire` and `carry` are the same with the axis spans as logical maxima.

Results:
* `contacts_roundTrip`, `button_roundTrip`: the round trip, contact by contact.
* `DecodedFrame.wireFit`: what holds of every frame the decoder produces.
-/

namespace MagicTrackpad

open Lib
open Lib.Rescale (clamp thereAndBack)

/-- `VOODOO_INPUT_MAX_TRANSDUCERS`. -/
abbrev voodooInputMaxTransducers : Nat := 10

/-- `MT2_SPAN_X`. -/
def mt2SpanX : U32 := 7612#32

/-- `MT2_SPAN_Y`. -/
def mt2SpanY : U32 := 5065#32

/-- `MT2FingerType`. -/
inductive MT2FingerType
  | undefined
  | thumb
  | indexFinger
  | middleFinger
  | ringFinger
  | littleFinger
  | palm
  deriving DecidableEq, Repr

/-- `VoodooInputTransducerType`. -/
inductive VoodooInputTransducerType
  | stylus
  | finger
  deriving DecidableEq, Repr

/-- `TouchCoordinates`. -/
structure TouchCoordinates where
  x : U32
  y : U32
  pressure : U8
  width : U8
  deriving DecidableEq, Repr

/-- `VoodooInputTransducer`. -/
structure VoodooInputTransducer where
  timestamp : BitVec 64
  fingerType : MT2FingerType
  secondaryId : U32
  type : VoodooInputTransducerType
  isValid : Bool
  isPhysicalButtonDown : Bool
  isTransducerActive : Bool
  supportsPressure : Bool
  currentCoordinates : TouchCoordinates
  previousCoordinates : TouchCoordinates
  maxPressure : U32
  deriving DecidableEq, Repr

/-- A transducer after `memset`. -/
def VoodooInputTransducer.zero : VoodooInputTransducer :=
  ⟨0, .undefined, 0, .stylus, false, false, false, false, ⟨0, 0, 0, 0⟩, ⟨0, 0, 0, 0⟩, 0⟩

/-- `VoodooInputEvent`; only its first ten transducers exist. -/
structure VoodooInputEvent where
  contactCount : U8
  timestamp : BitVec 64
  transducers : Nat → VoodooInputTransducer

/-- `rescale`. -/
def rescale (v lmax : U32) (omin omax : Int) : Int :=
  -- identity fallback: no advertised dimension
  if lmax = 0#32 then v.toInt
  else
    let v := if lmax < v then lmax else v
    omin + Int.bmod (((v.toNat : Int) * (omax - omin)).tdiv lmax.toNat) (2 ^ 32)

/-- `inv_rescale`. -/
def invRescale (v : Int) (lmax : U32) (omin omax : Int) : U32 :=
  if lmax = 0#32 then BitVec.ofInt 32 v
  else
    let v := if v < omin then omin else v
    let v := if omax < v then omax else v
    BitVec.ofInt 32 (((v - omin) * (lmax.toNat : Int)).tdiv (omax - omin))

/-- The contact of one transducer: the lifecycle and ellipse tail is left 0. -/
def contactFromTransducer (t : VoodooInputTransducer) (logicalMaxX logicalMaxY : U32) :
    TouchContact :=
  { TouchContact.zero with
    id := t.secondaryId
    currentCoordinates :=
      { x := rescale t.currentCoordinates.x logicalMaxX mt2MinX mt2MaxX
        y := rescale t.currentCoordinates.y logicalMaxY mt2MinY mt2MaxY
        pressure := t.currentCoordinates.pressure.toNat
        width := t.currentCoordinates.width.toNat } }

/-- `mavericks_frame_from_voodoo`. -/
def frameFromVoodoo (wire : VoodooInputEvent) (logicalMaxX logicalMaxY : U32) : TouchFrame :=
  -- the wire bound (10), then the internal bound (16)
  let n := min (min wire.contactCount.toNat voodooInputMaxTransducers) maxTouches
  { transducers :=
      { slots := fun i =>
          if i < n then contactFromTransducer (wire.transducers i) logicalMaxX logicalMaxY
          else .zero
        count := n
        count_le := Nat.min_le_right _ _ }
    timestamp := 0#64
    isPhysicalButtonDown := Nat.fold n
      (fun i _ button => if (wire.transducers i).isPhysicalButtonDown then 1#8 else button) 0#8 }

/-- The transducer of one contact. -/
def transducerFromContact (c : TouchContact) (button : U8) (logicalMaxX logicalMaxY : U32) :
    VoodooInputTransducer :=
  let coordinates : TouchCoordinates :=
    { x := invRescale c.currentCoordinates.x logicalMaxX mt2MinX mt2MaxX
      y := invRescale c.currentCoordinates.y logicalMaxY mt2MinY mt2MaxY
      pressure := BitVec.ofInt 8 c.currentCoordinates.pressure
      width := BitVec.ofInt 8 c.currentCoordinates.width }
  { VoodooInputTransducer.zero with
    secondaryId := c.id
    isTransducerActive := true
    isPhysicalButtonDown := button ≠ 0#8
    currentCoordinates := coordinates
    isValid := true
    type := .finger
    fingerType := .indexFinger
    supportsPressure := true
    timestamp := 0#64
    previousCoordinates := coordinates }

/-- `mavericks_voodoo_from_frame`. -/
def voodooFromFrame (f : TouchFrame) (logicalMaxX logicalMaxY : U32) : VoodooInputEvent :=
  let n := min f.contactCount voodooInputMaxTransducers
  { contactCount := BitVec.ofNat 8 n
    timestamp := 0#64
    transducers := fun i =>
      if i < n then
        transducerFromContact (f.transducers.slots i) f.isPhysicalButtonDown logicalMaxX logicalMaxY
      else .zero }

/-- The round trip of a frame. -/
def roundTrip (f : TouchFrame) (logicalMaxX logicalMaxY : U32) : TouchFrame :=
  frameFromVoodoo (voodooFromFrame f logicalMaxX logicalMaxY) logicalMaxX logicalMaxY

/-- The round trip of a frame, with the axis spans as logical maxima. -/
def crossWire (f : TouchFrame) : TouchFrame :=
  frameFromVoodoo (voodooFromFrame f mt2SpanX mt2SpanY) mt2SpanX mt2SpanY

/-! ## The two maps -/

theorem toNat_pos_of_ne_zero {lmax : U32} (hne : lmax ≠ 0#32) : 0 < lmax.toNat :=
  Nat.pos_of_ne_zero fun h => hne (BitVec.eq_of_toNat_eq h)

/-- The scaled value is at most the maximum. -/
theorem scaled_mem {a s l : Int} (ha : 0 ≤ a) (has : a ≤ s) (hs : 0 < s) (hl : 0 ≤ l) :
    0 ≤ a * l / s ∧ a * l / s ≤ l := by
  refine ⟨Int.ediv_nonneg (Int.mul_nonneg ha hl) (Int.le_of_lt hs), ?_⟩
  refine Int.ediv_le_of_le_mul hs ?_
  rw [Int.mul_comm l s]
  exact Int.mul_le_mul_of_nonneg_right has hl

/-- **What `inv_rescale` computes**, under a non-zero maximum. -/
theorem toNat_invRescale {lmax : U32} (hne : lmax ≠ 0#32) {omin omax : Int} (hpos : omin < omax)
    (v : Int) :
    ((invRescale v lmax omin omax).toNat : Int) =
      (clamp v omin omax - omin) * lmax.toNat / (omax - omin) := by
  obtain ⟨hlo, hhi⟩ := Rescale.clamp_mem (v := v) (Int.le_of_lt hpos)
  obtain ⟨hlo', hhi'⟩ := scaled_mem (a := clamp v omin omax - omin) (s := omax - omin)
    (l := lmax.toNat) (by omega) (by omega) (by omega) (Int.natCast_nonneg _)
  have hlt := lmax.isLt
  unfold invRescale
  rw [if_neg hne]
  simp only [Rescale.ifs_eq_clamp (Int.le_of_lt hpos)]
  rw [Int.tdiv_eq_ediv_of_nonneg (Int.mul_nonneg (by omega) (Int.natCast_nonneg _)),
    BitVec.toNat_ofInt]
  omega

/-- **What `rescale` computes**, under a non-zero maximum. -/
theorem rescale_eq {lmax : U32} (hne : lmax ≠ 0#32) {omin omax : Int} (hpos : omin < omax)
    (hsmall : omax - omin < 2 ^ 31) (v : U32) :
    rescale v lmax omin omax =
      omin + (min v.toNat lmax.toNat : Nat) * (omax - omin) / lmax.toNat := by
  have hl : (0 : Int) < lmax.toNat := by
    have := toNat_pos_of_ne_zero hne
    omega
  have hcap : (if lmax < v then lmax else v).toNat = min v.toNat lmax.toNat := by
    by_cases hlt : lmax < v
    · rw [if_pos hlt]
      rw [BitVec.lt_def] at hlt
      omega
    · rw [if_neg hlt]
      rw [BitVec.lt_def] at hlt
      omega
  obtain ⟨hlo, hhi⟩ := scaled_mem (a := (min v.toNat lmax.toNat : Nat)) (s := lmax.toNat)
    (l := omax - omin) (Int.natCast_nonneg _) (by omega) hl (by omega)
  unfold rescale
  rw [if_neg hne]
  simp only [hcap]
  rw [Int.tdiv_eq_ediv_of_nonneg (Int.mul_nonneg (Int.natCast_nonneg _) (by omega)),
    Int.bmod_eq_of_le (by omega) (by omega)]

/-- **There and back**, under a non-zero maximum. -/
theorem rescale_invRescale_eq {lmax : U32} (hne : lmax ≠ 0#32) {omin omax : Int}
    (hpos : omin < omax) (hsmall : omax - omin < 2 ^ 31) (v : Int) :
    rescale (invRescale v lmax omin omax) lmax omin omax =
      omin + thereAndBack (clamp v omin omax - omin) (omax - omin) lmax.toNat := by
  obtain ⟨hlo, hhi⟩ := Rescale.clamp_mem (v := v) (Int.le_of_lt hpos)
  obtain ⟨-, hhi'⟩ := scaled_mem (a := clamp v omin omax - omin) (s := omax - omin)
    (l := lmax.toNat) (by omega) (by omega) (by omega) (Int.natCast_nonneg _)
  have hinv := toNat_invRescale hne hpos v
  have hmin : min (invRescale v lmax omin omax).toNat lmax.toNat =
      (invRescale v lmax omin omax).toNat := Nat.min_eq_left (by omega)
  rw [rescale_eq hne hpos hsmall, hmin, hinv]
  rfl

/-- **With the span as the maximum the two maps are inverse**, up to the clamp. -/
theorem rescale_invRescale {lmax : U32} {omin omax : Int} (hspan : (lmax.toNat : Int) = omax - omin)
    (hpos : omin < omax) (hsmall : omax - omin < 2 ^ 31) (v : Int) :
    rescale (invRescale v lmax omin omax) lmax omin omax = clamp v omin omax := by
  have hne : lmax ≠ 0#32 := by
    rintro rfl
    simp at hspan
    omega
  rw [rescale_invRescale_eq hne hpos hsmall, hspan, Rescale.thereAndBack_self (by omega)]
  omega

/-! ## The round trip -/

/-- What a round trip makes of a contact. -/
def carryThrough (c : TouchContact) (logicalMaxX logicalMaxY : U32) : TouchContact :=
  { TouchContact.zero with
    id := c.id
    currentCoordinates :=
      { x := rescale (invRescale c.currentCoordinates.x logicalMaxX mt2MinX mt2MaxX) logicalMaxX
          mt2MinX mt2MaxX
        y := rescale (invRescale c.currentCoordinates.y logicalMaxY mt2MinY mt2MaxY) logicalMaxY
          mt2MinY mt2MaxY
        pressure := (BitVec.ofInt 8 c.currentCoordinates.pressure).toNat
        width := (BitVec.ofInt 8 c.currentCoordinates.width).toNat } }

/-- What the wire carries of a contact. -/
def carry (c : TouchContact) : TouchContact :=
  { TouchContact.zero with
    id := c.id
    currentCoordinates :=
      { x := clamp c.currentCoordinates.x mt2MinX mt2MaxX
        y := clamp c.currentCoordinates.y mt2MinY mt2MaxY
        pressure := (BitVec.ofInt 8 c.currentCoordinates.pressure).toNat
        width := (BitVec.ofInt 8 c.currentCoordinates.width).toNat } }

theorem contactFromTransducer_fromContact (c : TouchContact) (button : U8)
    (logicalMaxX logicalMaxY : U32) :
    contactFromTransducer (transducerFromContact c button logicalMaxX logicalMaxY) logicalMaxX
      logicalMaxY = carryThrough c logicalMaxX logicalMaxY := rfl

/-- With the spans as maxima only the clamp is left. -/
theorem carryThrough_span (c : TouchContact) : carryThrough c mt2SpanX mt2SpanY = carry c := by
  have hx : rescale (invRescale c.currentCoordinates.x mt2SpanX mt2MinX mt2MaxX) mt2SpanX mt2MinX
      mt2MaxX = clamp c.currentCoordinates.x mt2MinX mt2MaxX :=
    rescale_invRescale (by decide) (by decide) (by decide) _
  have hy : rescale (invRescale c.currentCoordinates.y mt2SpanY mt2MinY mt2MaxY) mt2SpanY mt2MinY
      mt2MaxY = clamp c.currentCoordinates.y mt2MinY mt2MaxY :=
    rescale_invRescale (by decide) (by decide) (by decide) _
  rw [carryThrough, hx, hy]
  rfl

/-- The number of contacts that fit the wire. -/
theorem count_roundTrip (f : TouchFrame) (logicalMaxX logicalMaxY : U32) :
    (roundTrip f logicalMaxX logicalMaxY).contactCount = min f.contactCount 10 := by
  have hle : min f.contactCount 10 ≤ 10 := Nat.min_le_right _ _
  have hbyte : (BitVec.ofNat 8 (min f.contactCount 10)).toNat = min f.contactCount 10 := by
    rw [BitVec.toNat_ofNat]
    exact Nat.mod_eq_of_lt (by omega)
  show min (min (BitVec.ofNat 8 (min f.contactCount 10)).toNat 10) 16 = _
  rw [hbyte]
  omega

/-- **The wire carries the first ten contacts**, in order. -/
theorem contacts_roundTrip (f : TouchFrame) (logicalMaxX logicalMaxY : U32) :
    (roundTrip f logicalMaxX logicalMaxY).contacts =
      (f.contacts.take 10).map fun c => carryThrough c logicalMaxX logicalMaxY := by
  have hcount := count_roundTrip f logicalMaxX logicalMaxY
  generalize hg : roundTrip f logicalMaxX logicalMaxY = g at hcount ⊢
  have hslot : ∀ i, i < min f.contactCount 10 →
      g.transducers.slots i = carryThrough (f.transducers.slots i) logicalMaxX logicalMaxY := by
    intro i hi
    have hi' : i < (roundTrip f logicalMaxX logicalMaxY).contactCount := by
      rw [hg, hcount]
      exact hi
    rw [← contactFromTransducer_fromContact (f.transducers.slots i) f.isPhysicalButtonDown, ← hg]
    show (if i < (roundTrip f logicalMaxX logicalMaxY).contactCount then
      contactFromTransducer _ _ _ else .zero) = _
    rw [if_pos hi']
    simp only [voodooFromFrame, if_pos hi]
  rw [TouchFrame.contacts, SlotBuffer.toList, show g.transducers.count = _ from hcount,
    TouchFrame.contacts, SlotBuffer.toList, ← List.map_take, List.take_range, List.map_map,
    Nat.min_comm]
  exact List.map_congr_left fun i hi => hslot i (by rw [Nat.min_comm]; exact List.mem_range.mp hi)

/-- Any button among the transducers sets the frame's. -/
theorem fold_button (b : Bool) (n : Nat) {t : Nat → VoodooInputTransducer}
    (ht : ∀ i, i < n → (t i).isPhysicalButtonDown = b) :
    Nat.fold n (fun i _ button => if (t i).isPhysicalButtonDown then 1#8 else button) 0#8 =
      if 0 < n ∧ b = true then 1#8 else 0#8 := by
  induction n with
  | zero => rfl
  | succ n ih =>
    rw [Nat.fold_succ, ih fun i hi => ht i (Nat.lt_succ_of_lt hi), ht n (Nat.lt_succ_self n)]
    cases b with
    | true => simp
    | false => simp

/-- The button crosses the wire with the contacts, and is lost on a frame with none. -/
theorem button_roundTrip (f : TouchFrame) (logicalMaxX logicalMaxY : U32) :
    (roundTrip f logicalMaxX logicalMaxY).isPhysicalButtonDown =
      if 0 < f.contactCount ∧ f.isPhysicalButtonDown ≠ 0#8 then 1#8 else 0#8 := by
  have hcount := count_roundTrip f logicalMaxX logicalMaxY
  have hfold := fold_button (f.isPhysicalButtonDown ≠ 0#8)
    (roundTrip f logicalMaxX logicalMaxY).contactCount
    (t := (voodooFromFrame f logicalMaxX logicalMaxY).transducers) fun i hi => by
      rw [hcount] at hi
      simp only [voodooFromFrame, if_pos hi]
      rfl
  have hpos : 0 < (roundTrip f logicalMaxX logicalMaxY).contactCount ↔ 0 < f.contactCount := by
    omega
  refine Eq.trans hfold ?_
  simp only [hpos, decide_eq_true_eq]

theorem contacts_crossWire (f : TouchFrame) :
    (crossWire f).contacts = (f.contacts.take 10).map carry := by
  have htrip := contacts_roundTrip f mt2SpanX mt2SpanY
  simp only [carryThrough_span] at htrip
  exact htrip

theorem button_crossWire (f : TouchFrame) :
    (crossWire f).isPhysicalButtonDown =
      if 0 < f.contactCount ∧ f.isPhysicalButtonDown ≠ 0#8 then 1#8 else 0#8 :=
  button_roundTrip f mt2SpanX mt2SpanY

/-! ## What the decoder produces -/

/-- The output of the decoder on a report with at most ten contact records. -/
def DecodedFrame (f : TouchFrame) : Prop :=
  ∃ report reportId headerLen mem, (report.length - headerLen) / 9 ≤ 10 ∧
    mt2Decode (some report) reportId headerLen (some mem) = (0, some f)

/-- What the rest of the pipeline needs to know of a decoded frame. -/
structure WireFit (f : TouchFrame) : Prop where
  count : f.contactCount ≤ 10
  pressure : ∀ c ∈ f.contacts, 0 ≤ c.pressure ∧ c.pressure < 256
  coords : ∀ c ∈ f.contacts,
    SmallCoord c.currentCoordinates.x ∧ SmallCoord c.currentCoordinates.y
  button : f.isPhysicalButtonDown = 0#8 ∨ f.isPhysicalButtonDown = 1#8

theorem smallCoord_recordX (t : Nat → U8) : SmallCoord (recordX t) := by
  rw [recordX_eq]
  generalize ((t 1).extractLsb' 0 5 ++ t 0 : BitVec 13) = b
  have hlo := BitVec.le_toInt b
  have hhi := BitVec.toInt_lt (x := b)
  exact ⟨by omega, by omega⟩

theorem smallCoord_recordY (t : Nat → U8) : SmallCoord (recordY t) := by
  rw [recordY_eq]
  generalize ((t 3).extractLsb' 0 2 ++ t 2 ++ (t 1).extractLsb' 5 3 : BitVec 13) = b
  have hlo := BitVec.le_toInt b
  have hhi := BitVec.toInt_lt (x := b)
  exact ⟨by omega, by omega⟩

theorem DecodedFrame.wireFit {f : TouchFrame} (h : DecodedFrame f) : WireFit f := by
  obtain ⟨report, reportId, headerLen, mem, hten, hdec⟩ := h
  have hsmall : report.length - headerLen < 2 ^ 31 := by omega
  have hcount := npoints_toNat hsmall
  have hle : min ((report.length - headerLen) / 9) 16 ≤ 16 := Nat.min_le_right _ _
  obtain ⟨hlist, -⟩ := SlotBuffer.toList_fold_pushWith
    (fun i => decodeRecord fun k => byteAt report (headerLen + i * 9 + k)) mem.transducers hle
  unfold mt2Decode at hdec
  by_cases hguard : report.length < headerLen ∨ byteAt report 0 ≠ reportId
  · simp [hguard] at hdec
  · by_cases hmod : (report.length - headerLen) % 9 ≠ 0
    · simp only [if_neg hguard, if_pos hmod] at hdec
      exact absurd (Prod.mk.inj hdec).1 (by decide)
    · simp only [if_neg hguard, if_neg hmod] at hdec
      rw [hcount] at hdec
      obtain rfl := Option.some.inj (Prod.mk.inj hdec).2
      have hmem : ∀ c, c ∈ (Nat.fold (min ((report.length - headerLen) / 9) 16)
          (fun i _ b => b.pushWith
            (decodeRecord fun k => byteAt report (headerLen + i * 9 + k)))
          (mem.transducers.resize 0)).toList → ∃ t out, c = decodeRecord t out := by
        intro c hc
        rw [hlist] at hc
        obtain ⟨i, -, rfl⟩ := List.mem_map.mp hc
        exact ⟨_, _, rfl⟩
      refine ⟨?_, fun c hc => ?_, fun c hc => ?_, ?_⟩
      · rw [TouchFrame.contactCount, ← SlotBuffer.length_toList, hlist]
        simp
        omega
      · obtain ⟨t, out, rfl⟩ := hmem c hc
        have hlt := (t 6).isLt
        show 0 ≤ ((t 6).toNat : Int) ∧ ((t 6).toNat : Int) < 256
        omega
      · obtain ⟨t, out, rfl⟩ := hmem c hc
        exact ⟨smallCoord_recordX t, smallCoord_recordY t⟩
      · have hbit : ∀ b : U8, b &&& 0x01#8 = 0#8 ∨ b &&& 0x01#8 = 1#8 := by decide
        exact hbit _

end MagicTrackpad
