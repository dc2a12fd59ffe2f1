import MagicTrackpad.Wire.RoundTrip

/-!
# Coordinates from the wire to the report, up to INT32_MAX

The terminal backend decodes a coordinate of the wire with `rescale` and encodes it with `scale`.
Under a non-zero logical maximum `rescale` clamps into the device range first. Without one it passes
the coordinate on unscaled ("identity fallback"), and `scale` widens to `long` only after the
subtraction of the range minimum: `(long)(v - inMin)`. The minimum is negative, so the subtraction
leaves an `int` for the coordinates just below INT32_MAX.

* `scaleChecked` is `scale` with every operation checked against its type; the other operations of
  the encoder work on its result, on bytes and on an orientation of 0.
* `Saturates` is what the two stages are to do with a coordinate: no overflow, no smaller wire value
  with a larger result, and the largest result beyond the device range.
* `saturates_iff`: they do it exactly where the subtraction stays an `int`.
* `coordinates_saturate_iff`: the same for the coordinates of a report.
* `not_saturates_max`: the largest coordinate, from a satellite without dimensions.
-/

namespace MagicTrackpad

open Lib
open Lib.Checked (signed)
open Lib.Rescale (stretch)

/-- `scale`, with every operation checked: `int` for the differences, `long` for the rest. -/
def scaleChecked (v inMin inMax outMin outMax : Int) : Option Int := do
  let span ← signed 32 (inMax - inMin)
  if span = 0 then return outMin
  let offset ← signed 32 (v - inMin)
  let outSpan ← signed 32 (outMax - outMin)
  let product ← signed 64 (offset * outSpan)
  let s ← signed 64 (product.tdiv span)
  let s ← signed 64 (s + outMin)
  let s := if s < outMin then outMin else s
  let s := if outMax < s then outMax else s
  signed 32 s

/-- The encoded coordinate of a wire coordinate `v` of one axis. -/
def encodeAxis (v lmax : U32) (inMin inMax outMin outMax : Int) : Int :=
  scale (rescale v lmax inMin inMax) inMin inMax outMin outMax

/-- The same, with every operation checked. -/
def encodeAxisChecked (v lmax : U32) (inMin inMax outMin outMax : Int) : Option Int := do
  let u ← rescaleChecked v lmax inMin inMax
  scaleChecked u inMin inMax outMin outMax

/-- What the two stages are to do with the coordinate `v`. -/
structure Saturates (v lmax : U32) (inMin inMax outMin outMax : Int) : Prop where
  checked : encodeAxisChecked v lmax inMin inMax outMin outMax =
    some (encodeAxis v lmax inMin inMax outMin outMax)
  mono : ∀ u, u ≤ v → encodeAxis u lmax inMin inMax outMin outMax ≤
    encodeAxis v lmax inMin inMax outMin outMax
  beyond : inMax ≤ rescale v lmax inMin inMax →
    encodeAxis v lmax inMin inMax outMin outMax = outMax

/-- Two ranges of device units that hold 0, or end there. -/
structure DeviceRanges (inMin inMax outMin outMax : Int) : Prop where
  inMin_mem : -2 ^ 30 ≤ inMin ∧ inMin ≤ 0
  inMax_mem : inMin < inMax ∧ inMax < 2 ^ 30
  outMin_mem : -2 ^ 30 ≤ outMin ∧ outMin ≤ 0
  outMax_mem : outMin ≤ outMax ∧ outMax < 2 ^ 30

section Axis

variable {inMin inMax outMin outMax : Int}

/-- The identity fallback, below 2³¹. -/
theorem rescale_zero {v : U32} (hv : v.toNat < 2 ^ 31) : rescale v 0#32 inMin inMax = v.toNat := by
  show v.toInt = v.toNat
  exact BitVec.toInt_eq_toNat_of_lt (by omega)

variable (hr : DeviceRanges inMin inMax outMin outMax)

include hr

/-! ## One stage -/

/-- **The encoder does not overflow** on a coordinate that the subtraction leaves in an `int`. -/
theorem scale_checked {v : Int} (hlo : inMin ≤ v) (hhi : v - inMin < 2 ^ 31) :
    scaleChecked v inMin inMax outMin outMax = some (scale v inMin inMax outMin outMax) := by
  obtain ⟨⟨hin1, hin2⟩, ⟨hin3, hin4⟩, ⟨hout0, hout1⟩, hout2, hout3⟩ := hr
  obtain ⟨hprod, hprod'⟩ := mul_lt_of_lt (a := v - inMin) (l := outMax - outMin) (by omega) hhi
    (by omega) (by omega)
  have hspan : ¬ inMax - inMin = 0 := by omega
  have hquot : 0 ≤ (v - inMin) * (outMax - outMin) / (inMax - inMin) :=
    Int.ediv_nonneg hprod (by omega)
  have hquot' : (v - inMin) * (outMax - outMin) / (inMax - inMin) ≤
      (v - inMin) * (outMax - outMin) := Int.ediv_le_self _ hprod
  have hmem : outMin ≤ scale v inMin inMax outMin outMax ∧
      scale v inMin inMax outMin outMax ≤ outMax := scale_mem hout2 v
  unfold scaleChecked
  unfold scale at hmem ⊢
  rw [Int.bmod_eq_of_le (by omega) (by omega)] at hmem ⊢
  simp only [if_neg hspan, Int.tdiv_eq_ediv_of_nonneg hprod] at hmem ⊢
  rw [Checked.bind_signed (by omega) (by omega), if_neg hspan,
    Checked.bind_signed (by omega) (by omega), Checked.bind_signed (by omega) (by omega),
    Checked.bind_signed (by omega) (by omega), Int.tdiv_eq_ediv_of_nonneg hprod,
    Checked.bind_signed (by omega) (by omega), Checked.bind_signed (by omega) (by omega)]
  exact Checked.signed_of_mem (by omega) (by omega)

/-- And it does where the subtraction leaves the `int`. -/
theorem scale_overflow {v : Int} (h : 2 ^ 31 ≤ v - inMin) :
    scaleChecked v inMin inMax outMin outMax = none := by
  obtain ⟨⟨hin1, hin2⟩, ⟨hin3, hin4⟩, -⟩ := hr
  have hspan : ¬ inMax - inMin = 0 := by omega
  unfold scaleChecked
  rw [Checked.bind_signed (by omega) (by omega), if_neg hspan,
    Checked.signed_of_not_mem (v := v - inMin) h]
  rfl

/-! ## Both stages -/

/-- A decoded coordinate is never below the range, and within it under a non-zero maximum. -/
theorem rescale_mem {v : U32} (hv : v.toNat < 2 ^ 31) (lmax : U32) :
    inMin ≤ rescale v lmax inMin inMax ∧
      (lmax ≠ 0#32 → rescale v lmax inMin inMax ≤ inMax) := by
  obtain ⟨⟨hin1, hin2⟩, ⟨hin3, hin4⟩, -⟩ := hr
  by_cases hne : lmax = 0#32
  · rw [hne, rescale_zero hv]
    exact ⟨by omega, fun h => absurd rfl h⟩
  · have hl : (0 : Int) < lmax.toNat := Int.natCast_pos.mpr (toNat_pos_of_ne_zero hne)
    have hscaled := scaled_mem (a := (min v.toNat lmax.toNat : Nat)) (s := lmax.toNat)
      (l := inMax - inMin) (Int.natCast_nonneg _) (by omega) hl (by omega)
    rw [rescale_eq hne hin3 (by omega)]
    omega

/-- Decoding is monotone, below 2³¹. -/
theorem rescale_mono {u v : U32} (huv : u ≤ v) (hv : v.toNat < 2 ^ 31) (lmax : U32) :
    rescale u lmax inMin inMax ≤ rescale v lmax inMin inMax := by
  obtain ⟨⟨hin1, hin2⟩, ⟨hin3, hin4⟩, -⟩ := hr
  have hle : u.toNat ≤ v.toNat := huv
  by_cases hne : lmax = 0#32
  · rw [hne, rescale_zero (by omega), rescale_zero hv]
    exact Int.ofNat_le.mpr hle
  · have hl : (0 : Int) < lmax.toNat := Int.natCast_pos.mpr (toNat_pos_of_ne_zero hne)
    have hdiv : (min u.toNat lmax.toNat : Nat) * (inMax - inMin) / (lmax.toNat : Int) ≤
        (min v.toNat lmax.toNat : Nat) * (inMax - inMin) / (lmax.toNat : Int) :=
      Int.ediv_le_ediv hl (Int.mul_le_mul_of_nonneg_right (by omega) (by omega))
    rw [rescale_eq hne hin3 (by omega), rescale_eq hne hin3 (by omega)]
    omega

/-- **Exactly when a coordinate saturates**: it was scaled, or the subtraction stays an `int`. -/
theorem saturates_iff {v lmax : U32} (hv : v.toNat < 2 ^ 31) :
    Saturates v lmax inMin inMax outMin outMax ↔
      lmax ≠ 0#32 ∨ (v.toNat : Int) - inMin < 2 ^ 31 := by
  obtain ⟨hin1, hin2⟩ := hr.inMin_mem
  obtain ⟨hin3, hin4⟩ := hr.inMax_mem
  have hout2 := hr.outMax_mem.1
  have hback : rescaleChecked v lmax inMin inMax = some (rescale v lmax inMin inMax) :=
    rescale_checked hin3 hin1 hin4 v lmax
  constructor
  · intro h
    by_contra hnot
    rw [not_or, not_not, Int.not_lt] at hnot
    obtain ⟨rfl, hbig⟩ := hnot
    have hchecked := h.checked
    rw [encodeAxisChecked, hback, Option.bind_eq_bind, Option.bind_some, rescale_zero hv,
      scale_overflow hr hbig] at hchecked
    exact absurd hchecked (Option.some_ne_none _).symm
  · intro hcond
    obtain ⟨hlo, hhi⟩ := rescale_mem hr hv lmax
    have hint : rescale v lmax inMin inMax - inMin < 2 ^ 31 := by
      by_cases hne : lmax = 0#32
      · have hsmall := hcond.resolve_left (not_not_intro hne)
        rw [hne, rescale_zero hv]
        exact hsmall
      · have := hhi hne
        omega
    have hstretch : ∀ u, inMin ≤ u → u ≤ rescale v lmax inMin inMax →
        scale u inMin inMax outMin outMax = stretch u inMin inMax outMin outMax :=
      fun u hu hu' => scale_eq_stretch hin3 hout2 (by omega) (by omega)
    refine ⟨?_, fun u huv => ?_, fun hge => ?_⟩
    · rw [encodeAxisChecked, hback, Option.bind_eq_bind, Option.bind_some,
        scale_checked hr hlo hint]
      rfl
    · have hmono := rescale_mono hr huv hv lmax
      have hu : u.toNat < 2 ^ 31 := Nat.lt_of_le_of_lt huv hv
      have hulo := (rescale_mem hr hu lmax).1
      rw [encodeAxis, encodeAxis, hstretch _ hulo hmono, hstretch _ hlo (Int.le_refl _)]
      exact Rescale.stretch_mono hin3 hout2 hmono
    · rw [encodeAxis, hstretch _ hlo (Int.le_refl _)]
      exact Rescale.stretch_of_ge hin3 hout2 hge

end Axis

/-! ## A report -/

theorem deviceRanges_x : DeviceRanges mt2MinX mt2MaxX mt1MinX mt1MaxX :=
  ⟨by decide, by decide, by decide, by decide⟩

theorem deviceRanges_y : DeviceRanges mt2MinY mt2MaxY mt1MinY mt1MaxY :=
  ⟨by decide, by decide, by decide, by decide⟩

/-- The coordinates that the reader of the report finds for the contacts of a wire event. -/
theorem constructReport_wire (wire : VoodooInputEvent) (logicalMaxX logicalMaxY : U32)
    (buf : Nat → U8) {cap : Nat} (timestamp : U32)
    (hcap : 4 + 9 * (frameFromVoodoo wire logicalMaxX logicalMaxY).contactCount ≤ cap) :
    ∃ n out, constructReport (some (frameFromVoodoo wire logicalMaxX logicalMaxY)) (some buf) cap
        timestamp = (n, some out) ∧
      ∀ i, i < (frameFromVoodoo wire logicalMaxX logicalMaxY).contactCount →
        recordX (fun k => out (4 + 9 * i + k)) =
          encodeAxis (wire.transducers i).currentCoordinates.x logicalMaxX mt2MinX mt2MaxX mt1MinX
            mt1MaxX ∧
        recordY (fun k => out (4 + 9 * i + k)) =
          encodeAxis (wire.transducers i).currentCoordinates.y logicalMaxY mt2MinY mt2MaxY mt1MinY
            mt1MaxY := by
  obtain ⟨out, hout, henc⟩ := constructReport_encoded _ buf hcap timestamp
  refine ⟨_, out, hout, fun i hi => ?_⟩
  have hslot : (frameFromVoodoo wire logicalMaxX logicalMaxY).transducers.slots i =
      contactFromTransducer (wire.transducers i) logicalMaxX logicalMaxY := if_pos hi
  have hget := SlotBuffer.getElem?_toList hi
  rw [hslot] at hget
  have hrecord := henc.reads.record i _ hget
  exact ⟨hrecord.x, hrecord.y⟩

/-- **Exactly when the coordinates of a report saturate**: for every contact of a wire event, the
coordinates in the report are `encodeAxis` of the wire's, and each saturates iff the satellite
advertises a maximum for its axis or the coordinate is at most INT32_MAX plus the axis minimum. -/
theorem coordinates_saturate_iff (wire : VoodooInputEvent) (logicalMaxX logicalMaxY : U32)
    (buf : Nat → U8) (cap : Nat) (timestamp : U32)
    (hcap : 4 + 9 * (frameFromVoodoo wire logicalMaxX logicalMaxY).contactCount ≤ cap) :
    ∃ n out, constructReport (some (frameFromVoodoo wire logicalMaxX logicalMaxY)) (some buf) cap
        timestamp = (n, some out) ∧
      ∀ i, i < (frameFromVoodoo wire logicalMaxX logicalMaxY).contactCount →
        let c := (wire.transducers i).currentCoordinates
        (recordX (fun k => out (4 + 9 * i + k)) =
            encodeAxis c.x logicalMaxX mt2MinX mt2MaxX mt1MinX mt1MaxX ∧
          recordY (fun k => out (4 + 9 * i + k)) =
            encodeAxis c.y logicalMaxY mt2MinY mt2MaxY mt1MinY mt1MaxY) ∧
        (c.x.toNat < 2 ^ 31 →
          (Saturates c.x logicalMaxX mt2MinX mt2MaxX mt1MinX mt1MaxX ↔
            logicalMaxX ≠ 0#32 ∨ (c.x.toNat : Int) - mt2MinX < 2 ^ 31)) ∧
        (c.y.toNat < 2 ^ 31 →
          (Saturates c.y logicalMaxY mt2MinY mt2MaxY mt1MinY mt1MaxY ↔
            logicalMaxY ≠ 0#32 ∨ (c.y.toNat : Int) - mt2MinY < 2 ^ 31)) := by
  obtain ⟨n, out, hout, hrecords⟩ :=
    constructReport_wire wire logicalMaxX logicalMaxY buf timestamp hcap
  refine ⟨n, out, hout, fun i hi => ⟨hrecords i hi, fun hx => ?_, fun hy => ?_⟩⟩
  · exact saturates_iff deviceRanges_x hx
  · exact saturates_iff deviceRanges_y hy

/-- A contact at the last coordinates whose difference to the axis minimum is an `int`, and one
next to it. -/
def edgeEvent : VoodooInputEvent :=
  ⟨2, 0, fun i => { VoodooInputTransducer.zero with
    currentCoordinates := if i = 0 then ⟨0x7ffff1a1, 0x7ffff651, 40, 0⟩
      else ⟨0x7ffff1a2, 0x7ffff652, 40, 0⟩ }⟩

theorem coordinates_saturate_iff_edge :
    ∃ n out, constructReport (some (frameFromVoodoo edgeEvent 0 0)) (some fun _ => 0) 256 0 =
        (n, some out) ∧
      Saturates 0x7ffff1a1 0 mt2MinX mt2MaxX mt1MinX mt1MaxX ∧
      Saturates 0x7ffff651 0 mt2MinY mt2MaxY mt1MinY mt1MaxY ∧
      ¬ Saturates 0x7ffff1a2 0 mt2MinX mt2MaxX mt1MinX mt1MaxX ∧
      ¬ Saturates 0x7ffff652 0 mt2MinY mt2MaxY mt1MinY mt1MaxY := by
  obtain ⟨n, out, hout, hrecords⟩ :=
    coordinates_saturate_iff edgeEvent 0 0 (fun _ => 0) 256 0 (by decide)
  obtain ⟨-, hx, hy⟩ := hrecords 0 (by decide)
  obtain ⟨-, hx', hy'⟩ := hrecords 1 (by decide)
  exact ⟨n, out, hout, (hx (by decide)).mpr (by decide), (hy (by decide)).mpr (by decide),
    fun h => absurd ((hx' (by decide)).mp h) (by decide),
    fun h => absurd ((hy' (by decide)).mp h) (by decide)⟩

/-- The largest coordinate, unscaled: the subtraction overflows. -/
theorem not_saturates_max :
    ¬ Saturates 0x7fffffff#32 0#32 mt2MinX mt2MaxX mt1MinX mt1MaxX := by
  intro h
  have hbig : ¬ ((0x7fffffff#32 : U32).toNat : Int) - mt2MinX < 2 ^ 31 := by decide
  have hcond := (saturates_iff deviceRanges_x (by decide)).mp h
  exact hcond.elim (fun hne => hne rfl) hbig

end MagicTrackpad
