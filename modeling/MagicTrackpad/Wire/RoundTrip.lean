import MagicTrackpad.Lib.Checked
import MagicTrackpad.Wire
import Mathlib.Data.List.Forall2

/-!
# The translator round trip, for every pair of logical maxima

`mavericks_voodoo_from_frame` and `mavericks_frame_from_voodoo` divide in opposite directions, each
time rounding down. `axisTrip` is what becomes of one coordinate, `AxisTrip` what it is to satisfy:
nothing is lost where the maximum is 0 (the identity fallback) or the span, one unit at most where
it is larger than the span, and the order and the axis minimum are kept under every maximum but 0.

`rescaleChecked` and `invRescaleChecked` are the two maps with every operation checked against its
type (`Lib.Checked`): `int` for the spans and the sums, `int64_t` for the products, and the 32-bit
field for the result.

* `axisTrip_spec`: one axis, for every maximum.
* `rescale_checked`, `invRescale_checked`: no operation leaves its type.
* `round_trip_faithful`: the round trip of a frame.
-/

namespace MagicTrackpad

open Lib
open Lib.Checked (signed unsigned)
open Lib.Rescale (clamp)

/-- The round trip of a coordinate. -/
def axisTrip (v : Int) (lmax : U32) (omin omax : Int) : Int :=
  rescale (invRescale v lmax omin omax) lmax omin omax

/-- What a round trip does to the coordinates of one axis. -/
structure AxisTrip (lmax : U32) (omin omax : Int) : Prop where
  exact : lmax = 0#32 ∨ (lmax.toNat : Int) = omax - omin → ∀ v, omin ≤ v → v ≤ omax →
    axisTrip v lmax omin omax = v
  near : omax - omin ≤ lmax.toNat → ∀ v, omin ≤ v → v ≤ omax →
    axisTrip v lmax omin omax = v ∨ axisTrip v lmax omin omax = v - 1
  le : lmax ≠ 0#32 → ∀ v, omin ≤ v → v ≤ omax →
    omin ≤ axisTrip v lmax omin omax ∧ axisTrip v lmax omin omax ≤ v
  mono : lmax ≠ 0#32 → ∀ v u, v ≤ u → axisTrip v lmax omin omax ≤ axisTrip u lmax omin omax
  clamped : lmax ≠ 0#32 → ∀ v,
    axisTrip v lmax omin omax = axisTrip (clamp v omin omax) lmax omin omax

/-- `rescale`, with every operation checked. -/
def rescaleChecked (v lmax : U32) (omin omax : Int) : Option Int :=
  -- the cast of the fallback keeps the 32 bits
  if lmax = 0#32 then some v.toInt
  else do
    let v := if lmax < v then lmax else v
    let span ← signed 32 (omax - omin)
    let product ← signed 64 (v.toNat * span)
    let quotient ← signed 64 (product.tdiv lmax.toNat)
    let quotient ← signed 32 quotient
    signed 32 (omin + quotient)

/-- `inv_rescale`, with every operation checked. -/
def invRescaleChecked (v : Int) (lmax : U32) (omin omax : Int) : Option U32 :=
  if lmax = 0#32 then some (BitVec.ofInt 32 v)
  else do
    let v := if v < omin then omin else v
    let v := if omax < v then omax else v
    let offset ← signed 32 (v - omin)
    let product ← signed 64 (offset * lmax.toNat)
    let span ← signed 32 (omax - omin)
    let quotient ← signed 64 (product.tdiv span)
    let quotient ← unsigned 32 quotient
    return BitVec.ofInt 32 quotient

/-! ## One axis -/

section Axis

variable {lmax : U32} {omin omax : Int}

/-- The identity fallback returns every `int32_t`. -/
theorem axisTrip_zero {v : Int} (hlo : -2 ^ 31 ≤ v) (hhi : v < 2 ^ 31) :
    axisTrip v 0#32 omin omax = v := by
  show (BitVec.ofInt 32 v).toInt = v
  rw [BitVec.toInt_ofInt]
  exact Int.bmod_eq_of_le (by omega) (by omega)

/-- **One axis, under every logical maximum.** -/
theorem axisTrip_spec (hpos : omin < omax) (hmin : -2 ^ 30 ≤ omin) (hmax : omax < 2 ^ 30)
    (lmax : U32) : AxisTrip lmax omin omax := by
  have hs : 0 < omax - omin := by omega
  have htrip : lmax ≠ 0#32 → ∀ v, axisTrip v lmax omin omax =
      omin + Rescale.thereAndBack (clamp v omin omax - omin) (omax - omin) lmax.toNat :=
    fun hne v => rescale_invRescale_eq hne hpos (by omega) v
  have hl : lmax ≠ 0#32 → (0 : Int) < lmax.toNat := fun hne =>
    Int.natCast_pos.mpr (toNat_pos_of_ne_zero hne)
  refine ⟨?_, ?_, ?_, ?_, ?_⟩
  · rintro (rfl | hspan) v hlo hhi
    · exact axisTrip_zero (by omega) (by omega)
    · rw [axisTrip, rescale_invRescale hspan hpos (by omega), Rescale.clamp_of_mem hlo hhi]
  · intro hspan v hlo hhi
    have hne : lmax ≠ 0#32 := by
      rintro rfl
      simp at hspan
      omega
    have hle := Rescale.thereAndBack_le (a := v - omin) hs (hl hne)
    have hge := Rescale.le_thereAndBack (a := v - omin) hs hspan
    rw [htrip hne, Rescale.clamp_of_mem hlo hhi]
    omega
  · intro hne v hlo hhi
    have hle := Rescale.thereAndBack_le (a := v - omin) hs (hl hne)
    have hnonneg := Rescale.thereAndBack_nonneg (a := v - omin) hs (hl hne) (by omega)
    rw [htrip hne, Rescale.clamp_of_mem hlo hhi]
    omega
  · intro hne v u hvu
    have hclamp : clamp v omin omax - omin ≤ clamp u omin omax - omin := by
      unfold clamp
      omega
    have hmono := Rescale.thereAndBack_mono hs (hl hne) hclamp
    rw [htrip hne, htrip hne]
    omega
  · intro hne v
    obtain ⟨hlo, hhi⟩ := Rescale.clamp_mem (v := v) (Int.le_of_lt hpos)
    rw [htrip hne, htrip hne, Rescale.clamp_of_mem hlo hhi]

/-! ## No operation leaves its type -/

/-- A product of a span and a 32-bit value is far inside an `int64_t`. -/
theorem mul_lt_of_lt {a l : Int} (ha : 0 ≤ a) (ha' : a < 2 ^ 31) (hl : 0 ≤ l) (hl' : l < 2 ^ 32) :
    0 ≤ a * l ∧ a * l < 2 ^ 63 := by
  refine ⟨Int.mul_nonneg ha hl, ?_⟩
  have hle : a * l ≤ (2 ^ 31 - 1) * l := Int.mul_le_mul_of_nonneg_right (by omega) hl
  omega

/-- **`rescale` never overflows**, and its value fits an `int32_t`. -/
theorem rescale_checked (hpos : omin < omax) (hmin : -2 ^ 30 ≤ omin) (hmax : omax < 2 ^ 30)
    (v lmax : U32) : rescaleChecked v lmax omin omax = some (rescale v lmax omin omax) := by
  unfold rescaleChecked rescale
  by_cases hne : lmax = 0#32
  · rw [if_pos hne, if_pos hne]
  · rw [if_neg hne, if_neg hne]
    have hl : (0 : Int) < lmax.toNat := Int.natCast_pos.mpr (toNat_pos_of_ne_zero hne)
    have hcap : ((if lmax < v then lmax else v).toNat : Int) ≤ lmax.toNat := by
      split
      · exact Int.le_refl _
      · next hlt =>
        rw [BitVec.lt_def] at hlt
        omega
    have hlmax := lmax.isLt
    simp only
    generalize (if lmax < v then lmax else v).toNat = u at hcap
    have hu : (0 : Int) ≤ u := Int.natCast_nonneg _
    obtain ⟨hprod, hprod'⟩ := mul_lt_of_lt (a := omax - omin) (l := u) (by omega) (by omega) hu
      (by omega)
    rw [Int.mul_comm] at hprod hprod'
    obtain ⟨hquot, hquot'⟩ := scaled_mem hu hcap hl (l := omax - omin) (by omega)
    have hdiv : ((u : Int) * (omax - omin)).tdiv lmax.toNat = u * (omax - omin) / lmax.toNat :=
      Int.tdiv_eq_ediv_of_nonneg hprod
    rw [Checked.bind_signed (by omega) (by omega), Checked.bind_signed (by omega) (by omega), hdiv,
      Checked.bind_signed (by omega) (by omega), Checked.bind_signed (by omega) (by omega),
      Checked.signed_of_mem (by omega) (by omega), Int.bmod_eq_of_le (by omega) (by omega)]

/-- **`inv_rescale` never overflows**, and its value fits a `uint32_t`. -/
theorem invRescale_checked (hpos : omin < omax) (hmin : -2 ^ 30 ≤ omin) (hmax : omax < 2 ^ 30)
    (v : Int) (lmax : U32) :
    invRescaleChecked v lmax omin omax = some (invRescale v lmax omin omax) := by
  unfold invRescaleChecked invRescale
  by_cases hne : lmax = 0#32
  · rw [if_pos hne, if_pos hne]
  · rw [if_neg hne, if_neg hne]
    simp only [Rescale.ifs_eq_clamp (Int.le_of_lt hpos)]
    obtain ⟨hlo, hhi⟩ := Rescale.clamp_mem (v := v) (Int.le_of_lt hpos)
    have hlmax := lmax.isLt
    have hl : (0 : Int) ≤ lmax.toNat := Int.natCast_nonneg _
    generalize clamp v omin omax = u at hlo hhi
    obtain ⟨hprod, hprod'⟩ := mul_lt_of_lt (a := u - omin) (l := lmax.toNat) (by omega) (by omega)
      hl (by omega)
    obtain ⟨hquot, hquot'⟩ := scaled_mem (a := u - omin) (s := omax - omin) (by omega) (by omega)
      (by omega) hl
    have hdiv : ((u - omin) * (lmax.toNat : Int)).tdiv (omax - omin) =
        (u - omin) * lmax.toNat / (omax - omin) := Int.tdiv_eq_ediv_of_nonneg hprod
    rw [Checked.bind_signed (by omega) (by omega), Checked.bind_signed (by omega) (by omega),
      Checked.bind_signed (by omega) (by omega), hdiv, Checked.bind_signed (by omega) (by omega),
      Checked.bind_unsigned hquot (by omega)]
    rfl

end Axis

/-! ## A frame -/

/-- Both maps of an axis compute what they say, in their types. -/
structure AxisChecked (lmax : U32) (omin omax : Int) : Prop where
  inv : ∀ v, invRescaleChecked v lmax omin omax = some (invRescale v lmax omin omax)
  back : ∀ v, rescaleChecked v lmax omin omax = some (rescale v lmax omin omax)

/-- A contact and what comes back of it. -/
structure ContactTrip (logicalMaxX logicalMaxY : U32) (c d : TouchContact) : Prop where
  id : d.id = c.id
  pressure : d.pressure = c.pressure
  width : d.currentCoordinates.width = c.currentCoordinates.width
  x : d.currentCoordinates.x = axisTrip c.currentCoordinates.x logicalMaxX mt2MinX mt2MaxX
  y : d.currentCoordinates.y = axisTrip c.currentCoordinates.y logicalMaxY mt2MinY mt2MaxY

/-- The value of a `UInt8` field. -/
def IsByte (v : Int) : Prop := 0 ≤ v ∧ v ≤ 255

instance (v : Int) : Decidable (IsByte v) := inferInstanceAs (Decidable (_ ∧ _))

theorem IsByte.toNat_ofInt {v : Int} (h : IsByte v) : ((BitVec.ofInt 8 v).toNat : Int) = v := by
  obtain ⟨hlo, hhi⟩ := h
  rw [BitVec.toNat_ofInt]
  omega

theorem contactTrip_carryThrough {c : TouchContact} (hpressure : IsByte c.pressure)
    (hwidth : IsByte c.currentCoordinates.width) (logicalMaxX logicalMaxY : U32) :
    ContactTrip logicalMaxX logicalMaxY c (carryThrough c logicalMaxX logicalMaxY) :=
  ⟨rfl, hpressure.toNat_ofInt, hwidth.toNat_ofInt, rfl, rfl⟩

/-- **The translator round trip**: a frame of one to ten contacts comes back with the same contacts
in the same order, the button as 0 or 1 and each coordinate as `AxisTrip` says, whatever the logical
maxima; and no operation of either map overflows. -/
theorem round_trip_faithful (f : TouchFrame) (logicalMaxX logicalMaxY : U32)
    (hcount : 1 ≤ f.contactCount ∧ f.contactCount ≤ 10)
    (hbytes : ∀ c ∈ f.contacts, IsByte c.pressure ∧ IsByte c.currentCoordinates.width) :
    let g := roundTrip f logicalMaxX logicalMaxY
    g.contactCount = f.contactCount ∧
      List.Forall₂ (ContactTrip logicalMaxX logicalMaxY) f.contacts g.contacts ∧
      g.isPhysicalButtonDown = (if f.isPhysicalButtonDown ≠ 0#8 then 1#8 else 0#8) ∧
      (AxisTrip logicalMaxX mt2MinX mt2MaxX ∧ AxisTrip logicalMaxY mt2MinY mt2MaxY) ∧
      AxisChecked logicalMaxX mt2MinX mt2MaxX ∧ AxisChecked logicalMaxY mt2MinY mt2MaxY := by
  intro g
  have hten : f.contacts.take 10 = f.contacts :=
    List.take_of_length_le (by rw [TouchFrame.length_contacts]; exact hcount.2)
  refine ⟨?_, ?_, ?_, ⟨?_, ?_⟩, ?_, ?_⟩
  · rw [count_roundTrip]
    exact Nat.min_eq_left hcount.2
  · rw [contacts_roundTrip, hten]
    refine List.forall₂_map_right_iff.mpr (List.forall₂_same.mpr fun c hc => ?_)
    exact contactTrip_carryThrough (hbytes c hc).1 (hbytes c hc).2 logicalMaxX logicalMaxY
  · have hpos : 0 < f.contactCount := hcount.1
    rw [button_roundTrip]
    simp only [hpos, true_and]
  · exact axisTrip_spec (by decide) (by decide) (by decide) _
  · exact axisTrip_spec (by decide) (by decide) (by decide) _
  · exact ⟨fun v => invRescale_checked (by decide) (by decide) (by decide) v _,
      fun v => rescale_checked (by decide) (by decide) (by decide) v _⟩
  · exact ⟨fun v => invRescale_checked (by decide) (by decide) (by decide) v _,
      fun v => rescale_checked (by decide) (by decide) (by decide) v _⟩

/-- Two contacts off the origin, one of them on the edge of the pad. -/
def tripFrame : TouchFrame :=
  .ofContacts
    [⟨5, ⟨1234, -987, 41, 30⟩, .tsNone, 0, 0, 0⟩, ⟨9, ⟨mt2MaxX, 2345, 200, 255⟩, .tsNone, 0, 0, 0⟩]
    1

theorem round_trip_faithful_two :
    let g := roundTrip tripFrame 10000 3000
    g.contactCount = 2 ∧ List.Forall₂ (ContactTrip 10000 3000) tripFrame.contacts g.contacts ∧
      (g.contacts.map fun c => (c.currentCoordinates.x, c.currentCoordinates.y)) =
        [(1233, -988), (mt2MaxX, 2343)] :=
  have h := round_trip_faithful tripFrame 10000 3000 (by decide) (by decide)
  ⟨h.1, h.2.1, by decide⟩

end MagicTrackpad
