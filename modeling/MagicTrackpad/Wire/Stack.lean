import MagicTrackpad.Wire

/-!
# What the readers publish (`kext-gesture/MT2BTReader.cpp`, `kext-gesture/MT2USBReader.cpp`)

Both readers decode a report into a `MavericksTouchFrame` on their stack, which nothing initializes,
and publish its translation. `incomingData` and `readComplete` take that frame's content as an
argument: it is whatever the kernel left there.

The decoder rewrites every field that the translation reads, except one: the width of a contact.
* `transducer_decodeRecord`: the transducer of a decoded contact depends on the slot it was decoded
  over through the low byte of its width, and through nothing else.
* `incomingData_eq_iff`, `readComplete_eq_iff`: so does the event of either reader.
* `stale_width_published`: two prior contents give the same event exactly when those bytes agree in
  every published slot, so only a report without a finger record is safe.
-/

namespace MagicTrackpad

open Lib

/-! ## The readers -/

/-- `mt2_bt_decode`. -/
def mt2BtDecode (report : Option (List U8)) (frame : Option TouchFrame) :
    Int × Option TouchFrame :=
  mt2Decode report 0x31#8 4 frame

/-- `mt2_usb_decode`. -/
def mt2UsbDecode (report : Option (List U8)) (frame : Option TouchFrame) :
    Int × Option TouchFrame :=
  mt2Decode report 0x02#8 12 frame

/-- The event of an accepted report; any other is dropped. -/
def publish (decoded : Int × Option TouchFrame) : Option VoodooInputEvent :=
  match decoded with
  | (0, some tf) => some (voodooFromFrame tf mt2SpanX mt2SpanY)
  | _ => none

/-- `MT2BTReader::incomingData`, with `tf` the content of its frame before the decode. -/
def incomingData (b : List U8) (tf : TouchFrame) : Option VoodooInputEvent :=
  if b.length < 2 then none
  else
    -- strip the HID transport byte
    let report := if byteAt b 0 = 0xA1#8 then b.drop 1 else b
    publish (mt2BtDecode (some report) (some tf))

/-- `MT2USBReader::readComplete`: `packet` is what the pipe returned, `buf` holds 256 bytes. -/
def readComplete (packet : List U8) (tf : TouchFrame) : Option VoodooInputEvent :=
  let buf := packet.take 256
  if 0 < buf.length then publish (mt2UsbDecode (some buf) (some tf)) else none

/-! ## One contact -/

/-- The byte of a contact that the decoder leaves as it was. -/
def staleWidth (c : TouchContact) : U8 := BitVec.ofInt 8 c.currentCoordinates.width

/-- **The decoded contact carries its slot's old width to the wire**, and nothing else of it. -/
theorem transducer_decodeRecord (t : Nat → U8) (out out' : TouchContact) (button : U8)
    (logicalMaxX logicalMaxY : U32) :
    transducerFromContact (decodeRecord t out) button logicalMaxX logicalMaxY =
        transducerFromContact (decodeRecord t out') button logicalMaxX logicalMaxY ↔
      staleWidth out = staleWidth out' := by
  constructor
  · intro h
    exact congrArg (fun d => d.currentCoordinates.width) h
  · intro h
    have hwidth : BitVec.ofInt 8 out.currentCoordinates.width =
        BitVec.ofInt 8 out'.currentCoordinates.width := h
    simp only [transducerFromContact, decodeRecord, hwidth]

/-! ## A report -/

/-- The contacts of a report that reach the wire. -/
def publishedCount (report : List U8) (headerLen : Nat) : Nat :=
  min (npoints (report.length - headerLen)).toNat voodooInputMaxTransducers

theorem npoints_toNat_le (n : Nat) : (npoints n).toNat ≤ maxTouches := by
  unfold npoints
  dsimp only
  split
  · exact Nat.le_refl 16
  · rename_i h
    show _ ≤ 16
    omega

/-- The frame an accepted report of `n` records leaves in `g`. -/
def decodedOver (report : List U8) (headerLen n : Nat) (g : TouchFrame) : TouchFrame :=
  { transducers := Nat.fold n
      (fun i _ b => b.pushWith (decodeRecord fun k => byteAt report (headerLen + i * 9 + k)))
      (g.transducers.resize 0)
    timestamp := 0#64
    isPhysicalButtonDown := byteAt report 1 &&& 0x01#8 }

theorem decodedOver_slots (report : List U8) (headerLen : Nat) {n : Nat} (hn : n ≤ maxTouches)
    (g : TouchFrame) :
    (decodedOver report headerLen n g).contactCount = n ∧
      ∀ i, i < n → (decodedOver report headerLen n g).transducers.slots i =
        decodeRecord (fun k => byteAt report (headerLen + i * 9 + k)) (g.transducers.slots i) :=
  SlotBuffer.slots_fold_pushWith
    (fun i => decodeRecord fun k => byteAt report (headerLen + i * 9 + k)) g.transducers hn

/-- What is accepted does not depend on the frame. -/
theorem mt2Decode_over {report : List U8} {reportId : U8} {headerLen : Nat} {f : TouchFrame}
    (h : (mt2Decode (some report) reportId headerLen (some f)).1 = 0) (g : TouchFrame) :
    mt2Decode (some report) reportId headerLen (some g) =
      (0, some (decodedOver report headerLen (npoints (report.length - headerLen)).toNat g)) := by
  unfold mt2Decode at h ⊢
  by_cases hguard : report.length < headerLen ∨ byteAt report 0 ≠ reportId
  · simp only [if_pos hguard] at h
    exact absurd h (by decide)
  · by_cases hmod : (report.length - headerLen) % 9 ≠ 0
    · simp only [if_neg hguard, if_pos hmod] at h
      exact absurd h (by decide)
    · simp only [if_neg hguard, if_neg hmod, decodedOver]

/-- Two events are the same when their transducers are. -/
theorem voodooFromFrame_eq_iff {f g : TouchFrame} (hcount : f.contactCount = g.contactCount)
    (logicalMaxX logicalMaxY : U32) :
    voodooFromFrame f logicalMaxX logicalMaxY = voodooFromFrame g logicalMaxX logicalMaxY ↔
      ∀ i, i < min f.contactCount voodooInputMaxTransducers →
        transducerFromContact (f.transducers.slots i) f.isPhysicalButtonDown logicalMaxX
            logicalMaxY =
          transducerFromContact (g.transducers.slots i) g.isPhysicalButtonDown logicalMaxX
            logicalMaxY := by
  constructor
  · intro h i hi
    have hslot := congrFun (congrArg VoodooInputEvent.transducers h) i
    simp only [voodooFromFrame, ← hcount, if_pos hi] at hslot
    exact hslot
  · intro h
    simp only [voodooFromFrame, ← hcount, VoodooInputEvent.mk.injEq, true_and]
    funext i
    by_cases hi : i < min f.contactCount voodooInputMaxTransducers
    · rw [if_pos hi, if_pos hi]
      exact h i hi
    · rw [if_neg hi, if_neg hi]

/-- **What a reader publishes of an accepted report, from two prior contents of its frame.** -/
theorem publish_eq_iff {report : List U8} {reportId : U8} {headerLen : Nat} {f : TouchFrame}
    (h : (mt2Decode (some report) reportId headerLen (some f)).1 = 0) (g g' : TouchFrame) :
    publish (mt2Decode (some report) reportId headerLen (some g)) =
        publish (mt2Decode (some report) reportId headerLen (some g')) ↔
      ∀ i, i < publishedCount report headerLen →
        staleWidth (g.transducers.slots i) = staleWidth (g'.transducers.slots i) := by
  have hle := npoints_toNat_le (report.length - headerLen)
  rw [mt2Decode_over h g, mt2Decode_over h g', publishedCount]
  generalize (npoints (report.length - headerLen)).toNat = n at hle ⊢
  obtain ⟨hcount, hslots⟩ := decodedOver_slots report headerLen hle g
  obtain ⟨hcount', hslots'⟩ := decodedOver_slots report headerLen hle g'
  simp only [publish, Option.some.injEq]
  rw [voodooFromFrame_eq_iff (hcount.trans hcount'.symm), hcount]
  constructor
  · intro heq i hi
    have hin := Nat.lt_of_lt_of_le hi (Nat.min_le_left _ _)
    have hone := heq i hi
    rw [hslots i hin, hslots' i hin] at hone
    exact (transducer_decodeRecord _ _ _ _ _ _).mp hone
  · intro heq i hi
    have hin := Nat.lt_of_lt_of_le hi (Nat.min_le_left _ _)
    rw [hslots i hin, hslots' i hin]
    exact (transducer_decodeRecord _ _ _ _ _ _).mpr (heq i hi)

/-! ## The two readers -/

/-- The Bluetooth reader, on a packet of at least two bytes whose report is accepted. -/
theorem incomingData_eq_iff {b report : List U8} (hlen : 2 ≤ b.length)
    (hreport : report = if byteAt b 0 = 0xA1#8 then b.drop 1 else b) {f : TouchFrame}
    (h : (mt2BtDecode (some report) (some f)).1 = 0) (g g' : TouchFrame) :
    incomingData b g = incomingData b g' ↔ ∀ i, i < publishedCount report 4 →
      staleWidth (g.transducers.slots i) = staleWidth (g'.transducers.slots i) := by
  unfold incomingData
  simp only [if_neg (Nat.not_lt.mpr hlen), ← hreport]
  exact publish_eq_iff h g g'

/-- The USB reader, on a packet that is not empty and whose first 256 bytes are accepted. -/
theorem readComplete_eq_iff {packet report : List U8} (hreport : report = packet.take 256)
    (hlen : 0 < report.length) {f : TouchFrame}
    (h : (mt2UsbDecode (some report) (some f)).1 = 0) (g g' : TouchFrame) :
    readComplete packet g = readComplete packet g' ↔ ∀ i, i < publishedCount report 12 →
      staleWidth (g.transducers.slots i) = staleWidth (g'.transducers.slots i) := by
  unfold readComplete
  simp only [← hreport, if_pos hlen]
  exact publish_eq_iff h g g'

/-! ## Any report -/

/-- A frame whose slots hold the width `w`. -/
def TouchFrame.ofWidth (w : Int) : TouchFrame :=
  ⟨⟨fun _ => { TouchContact.zero with currentCoordinates := ⟨0, 0, 0, w⟩ }, 0, Nat.zero_le _⟩, 0, 0⟩

/-- **The published event depends on the stack through the stale widths**: two prior contents of the
frame give the same event iff the low bytes of their widths agree in every published slot, and all
prior contents give the same event iff the report has no finger record. -/
theorem stale_width_published {report : List U8} {reportId : U8} {headerLen : Nat} {f : TouchFrame}
    (h : (mt2Decode (some report) reportId headerLen (some f)).1 = 0) :
    (∀ g g' : TouchFrame,
      publish (mt2Decode (some report) reportId headerLen (some g)) =
          publish (mt2Decode (some report) reportId headerLen (some g')) ↔
        ∀ i, i < publishedCount report headerLen →
          staleWidth (g.transducers.slots i) = staleWidth (g'.transducers.slots i)) ∧
    ((∀ g g' : TouchFrame,
      publish (mt2Decode (some report) reportId headerLen (some g)) =
        publish (mt2Decode (some report) reportId headerLen (some g'))) ↔
      publishedCount report headerLen = 0) := by
  refine ⟨publish_eq_iff h, fun hall => ?_, fun hzero g g' => ?_⟩
  · by_contra hne
    have hslot := (publish_eq_iff h _ _).mp (hall (.ofWidth 0) (.ofWidth 1)) 0
      (Nat.pos_of_ne_zero hne)
    exact absurd hslot (by decide)
  · refine (publish_eq_iff h g g').mpr fun i hi => ?_
    rw [hzero] at hi
    exact absurd hi (Nat.not_lt_zero i)

/-- A Bluetooth report with one finger record. -/
def oneFingerReport : List U8 := 0x31#8 :: List.replicate 12 0#8

theorem stale_width_published_one :
    (mt2Decode (some oneFingerReport) 0x31#8 4 (some .zero)).1 = 0 ∧
      ¬ ∀ g g' : TouchFrame, publish (mt2Decode (some oneFingerReport) 0x31#8 4 (some g)) =
        publish (mt2Decode (some oneFingerReport) 0x31#8 4 (some g')) := by
  have haccept : (mt2Decode (some oneFingerReport) 0x31#8 4 (some .zero)).1 = 0 := rfl
  refine ⟨haccept, fun hall => ?_⟩
  have hnone := (stale_width_published haccept).2.mp hall
  exact absurd hnone (by decide)

/-- The contact of a Bluetooth report shows the width that the stack held. -/
theorem incomingData_shows_stack :
    (mt2BtDecode (some oneFingerReport) (some (.ofWidth 0))).1 = 0 ∧
      incomingData (0xA1#8 :: oneFingerReport) (.ofWidth 0) ≠
        incomingData (0xA1#8 :: oneFingerReport) (.ofWidth 1) := by
  refine ⟨rfl, fun h => ?_⟩
  have hwidth := congrArg (fun ev : Option VoodooInputEvent =>
    ev.map fun w => (w.transducers 0).currentCoordinates.width) h
  exact absurd hwidth (by decide)

end MagicTrackpad
