import MagicTrackpad.Backend
import MagicTrackpad.Lib.Surface
import MagicTrackpad.Terminal
import MagicTrackpad.Wire.Stack
import MagicTrackpad.Wire.Transparent

/-!
# From the device's packets to what the recognizer reads

The whole way of a touch through the kext: a reader decodes a packet over whatever its stack held
and publishes an event, the backend translates it back and conditions it, and the terminal hands
the fabricated device the report. `driverStep` is that composition, with the watchdog in it; the
terminal is up.

`Trackpad` is what all of it is for: fingers on a surface, a button, and a timer that takes silence
for a lift. It has no bytes, no masks, no events and no frames, and nothing of what an earlier use
of some memory left.

* `Reader.surface` is what a packet says, by the layout of its records; `Reader.touches` what of it
  is heard: the first ten records.
* `readOp` is what the recognizer takes of a call of the device, by the layout of a report.

Results:
* `readReport_reportBytes`: the recognizer reads what was encoded.
* `event_touches`: a reader and the wire bring exactly what is heard of the packet.

`Driver.Refines` puts them together with the session.
-/

namespace MagicTrackpad

open Lib
open Lib.Bitmask (hasBit)
open Lib.Rescale (stretch)
open Lib.Surface

/-! ## The driver -/

/-- The two readers. -/
inductive Reader
  | bluetooth
  | usb
  deriving DecidableEq, Repr

/-- The id of a reader's reports. -/
def Reader.reportId : Reader → U8
  | .bluetooth => 0x31#8
  | .usb => 0x02#8

/-- The length of their header. -/
def Reader.headerLen : Reader → Nat
  | .bluetooth => 4
  | .usb => 12

/-- `incomingData`, `readComplete`. -/
def Reader.event : Reader → List U8 → TouchFrame → Option VoodooInputEvent
  | .bluetooth => incomingData
  | .usb => readComplete

/-- What can happen to a driver that is up. -/
inductive DriverEvent
  /-- A packet, with what the reader's frame and the terminal's buffer held. -/
  | packet (bytes : List U8) (tf : TouchFrame) (memory : Nat → U8)
  /-- Time passes; a deadline inside the interval fires. -/
  | delay (ns : Nat)
  /-- The timer fires at its deadline. -/
  | expire
  | idleTick (memory : Nat → U8)

/-- `be_post_button_edge`, `be_feed_frame`; `be_arm_timer` is the backend's own. -/
def deliver (b : Backend) (memory : Nat → U8) : SinkCall → List TermOp
  | .postButtonEdge mask => [.pointer mask]
  | .feedFrame frame => terminalFeed frame b.uptimeMs memory
  | .armTimer _ => []

/-- A step of the backend whose callbacks reach the terminal. -/
def Backend.through (b : Backend) (memory : Nat → U8) (e : BackendEvent) :
    Backend × List TermOp :=
  ((backendStep b e).1, (backendStep b e).2.flatMap (deliver b memory))

/-- One event of the driver. -/
def driverStep (reader : Reader) : Transducer Backend DriverEvent TermOp
  | b, .packet bytes tf memory =>
    match reader.event bytes tf with
    | some ev => b.through memory (.handleEvent ev)
    | none => (b, [])
  | b, .delay ns => ((backendStep b (.delay ns)).1, [])
  | b, .expire => ((backendStep b .expire).1, [])
  | b, .idleTick memory => b.through memory .idleTick

/-! ## What a packet says -/

/-- Where a finger is, in the recognizer's units. -/
abbrev Place := Int × Int

/-- The record in nine bytes. -/
def Mt2Record.unpack (t : Nat → U8) : Mt2Record where
  x := (t 1).extractLsb' 0 5 ++ t 0
  negY := (t 3).extractLsb' 0 2 ++ t 2 ++ (t 1).extractLsb' 5 3
  id := (t 8).extractLsb' 0 4
  stateBits := (t 3).extractLsb' 6 2
  major := t 4
  minor := t 5
  size := t 6
  orientation := (t 8).extractLsb' 5 3

/-- The finger of a record, on the recognizer's surface; without a size it is off the pad. -/
def Mt2Record.finger (r : Mt2Record) : Option (Finger Nat Place) :=
  if r.size = 0#8 then none
  else some ⟨r.id.toNat, stretch r.x.toInt mt2MinX mt2MaxX mt1MinX mt1MaxX,
    stretch (-r.negY.toInt) mt2MinY mt2MaxY mt1MinY mt1MaxY⟩

/-- The records of a report. -/
def records (report : List U8) (headerLen : Nat) : List Mt2Record :=
  (List.range ((report.length - headerLen) / 9)).map fun i =>
    .unpack fun k => byteAt report (headerLen + i * 9 + k)

/-- Those that are heard: the wire has room for ten. -/
def heard (report : List U8) (headerLen : Nat) : List Mt2Record :=
  (records report headerLen).take 10

/-- The report in a packet. -/
def Reader.report : Reader → List U8 → List U8
  -- the HID transport byte
  | .bluetooth, bytes => if byteAt bytes 0 = 0xA1#8 then bytes.drop 1 else bytes
  | .usb, bytes => bytes.take 256

/-- **What is heard of it.** -/
def Reader.touches (reader : Reader) (bytes : List U8) : Option (Bool × List (Finger Nat Place)) :=
  let report := reader.report bytes
  if WellFormed report reader.reportId reader.headerLen then
    some (byteAt report 1 &&& 0x01#8 ≠ 0#8,
      (heard report reader.headerLen).filterMap Mt2Record.finger)
  else none

/-! ## What the driver is for -/

/-- A trackpad, as the recognizer is to know it. -/
structure Trackpad where
  down : Down Nat Place
  button : Bool
  /-- The time, in nanoseconds. -/
  now : Nat
  /-- When silence is taken for a lift. -/
  deadline : Option Nat
  /-- Deadlines that passed and were not attended to. -/
  waiting : Nat

/-- What the recognizer is told. -/
inductive PadOp
  | report (timestamp : Nat) (button : Bool) (told : List (Sighting Nat Place))
  | pointer (mask : U32)
  deriving DecidableEq

/-- A device knows its fingers by four bits. -/
def fingerIds : List Nat := List.range 16

/-- A trackpad that nobody touched. -/
def Trackpad.start (now : Nat) : Trackpad := ⟨nobody, false, now, none, 0⟩

/-- The time of a report: milliseconds, in 22 bits. -/
def Trackpad.stamp (p : Trackpad) : Nat := p.now / 1000000 % 2 ^ 22

/-- Fingers are seen. A change of the button is told first: a press is a secondary click where the
report tells of two fingers. -/
def Trackpad.touch (p : Trackpad) (button : Bool) (fs : List (Finger Nat Place)) :
    Trackpad × List PadOp :=
  let told := sightings fingerIds p.down fs
  ({ p with down := downAfter fs, button := button, deadline := some (p.now + idleNs) },
    (if button = p.button then []
      else [.pointer (if button then (if told.length = 2 then 0x2 else 0x1) else 0x0)]) ++
    [.report p.stamp button told])

/-- Nobody is there any more: two reports with nothing in them, if anybody was. -/
def Trackpad.lift (p : Trackpad) : Trackpad × List PadOp :=
  if fingerIds.all fun id => (p.down id).isNone then (p, [])
  else
    ({ p with down := nobody, button := false },
      (if p.button then [.pointer 0x0] else []) ++
        [.report p.stamp false [], .report p.stamp false []])

/-- The deadline passed. -/
def Trackpad.takeFired (p : Trackpad) : Trackpad :=
  { p with deadline := none, waiting := p.waiting + 1 }

/-- One event of a trackpad. -/
def trackpadStep (reader : Reader) : Transducer Trackpad DriverEvent PadOp
  | p, .packet bytes _ _ =>
    match reader.touches bytes with
    | some (button, fs) => if fs = [] then p.lift else p.touch button fs
    | none => (p, [])
  | p, .delay ns =>
    match p.deadline with
    | some t => (if t < p.now + ns then { p.takeFired with now := p.now + ns }
        else { p with now := p.now + ns }, [])
    | none => ({ p with now := p.now + ns }, [])
  | p, .expire =>
    match p.deadline with
    | some t => (if t ≤ p.now then p.takeFired else p, [])
    | none => (p, [])
  | p, .idleTick _ =>
    if 0 < p.waiting then ({ p.lift.1 with waiting := p.waiting - 1 }, p.lift.2) else (p, [])

/-! ## What the recognizer reads -/

/-- The phase of a state code. -/
def readPhase (code : U8) : Phase :=
  if code = 3#8 then .starts else if code = 4#8 then .moves else .ends

/-- A record of a report. -/
def readSighting (t : Nat → U8) : Sighting Nat Place :=
  ⟨(readId t).toNat, readPhase (readStateCode t), recordX t, recordY t⟩

/-- A report. -/
def readReport (bytes : List U8) : PadOp :=
  .report (readTimestamp (byteAt bytes)).toNat (byteAt bytes 1 &&& 0x01#8 ≠ 0#8)
    ((List.range ((bytes.length - 4) / 9)).map fun i =>
      readSighting fun k => byteAt bytes (4 + 9 * i + k))

/-- A call of the device. -/
def readOp : TermOp → Option PadOp
  | .touchFrame bytes => some (readReport bytes)
  | .pointer mask => some (.pointer mask)
  | _ => none

/-- What the recognizer takes of a contact. -/
def fingerOfContact (c : TouchContact) : Finger Nat Place :=
  ⟨c.nib, scaleX c.currentCoordinates.x, scaleY c.currentCoordinates.y⟩

/-- What it takes of a contact that is fed. -/
def sightingOf (c : TouchContact) : Sighting Nat Place :=
  ⟨c.nib, readPhase (stateCode c.state), (fingerOfContact c).place⟩

theorem readSighting_encodeRecord (i : Nat) (c : TouchContact) :
    readSighting (byteAt (encodeRecord i c)) = sightingOf c := by
  have hreads := readsRecord_encodeRecord i c
  have hnib : c.nib = c.id.toNat % 16 := by
    rw [TouchContact.nib, Bitmask.and_mask (m := 0x0f#32) 4 rfl, BitVec.toNat_setWidth,
      BitVec.toNat_setWidth]
    omega
  rw [readSighting, hreads.id, hreads.state, hreads.x, hreads.y, ← hnib]
  rfl

/-- **The recognizer reads what was encoded.** -/
theorem readReport_reportBytes (frame : TouchFrame) (timestamp : U32) :
    readReport (reportBytes frame timestamp) =
      .report (timestamp.toNat % 2 ^ 22) (frame.isPhysicalButtonDown &&& 0x01#8 ≠ 0#8)
        (frame.contacts.map sightingOf) := by
  have hcount : ((reportBytes frame timestamp).length - 4) / 9 = frame.contactCount := by
    rw [length_reportBytes]
    omega
  have hstamp : (readTimestamp (byteAt (reportBytes frame timestamp))).toNat =
      timestamp.toNat % 2 ^ 22 := by
    have hts := header_timestamp frame.isPhysicalButtonDown timestamp
    simp (disch := omega) only [readTimestamp, byteAt_header]
    rw [← readTimestamp, hts, Bitmask.and_mask (m := 0x3fffff#32) 22 rfl, BitVec.toNat_setWidth,
      BitVec.toNat_setWidth]
    omega
  rw [readReport, hcount, hstamp, byteAt_header frame timestamp (by decide), header_button,
    TouchFrame.contacts, SlotBuffer.toList, List.map_map]
  congr 1
  refine List.map_congr_left fun i hi => ?_
  have hrecord : ∀ k, k < 9 → byteAt (reportBytes frame timestamp) (4 + 9 * i + k) =
      byteAt (encodeRecord i (frame.transducers.slots i)) k := fun k hk =>
    byteAt_record timestamp (List.mem_range.mp hi) hk
  rw [Function.comp_apply, ← readSighting_encodeRecord i]
  simp (disch := omega) only [readSighting, readId, readStateCode, recordX, recordY, hrecord]

/-! ## A packet -/

theorem Reader.length_report_le (reader : Reader) (bytes : List U8) :
    (reader.report bytes).length ≤ bytes.length := by
  cases reader with
  | bluetooth =>
    show (if byteAt bytes 0 = 0xA1#8 then bytes.drop 1 else bytes).length ≤ bytes.length
    split
    · exact (List.drop_sublist 1 bytes).length_le
    · exact Nat.le_refl _
  | usb => exact (List.take_sublist 256 bytes).length_le

/-- A reader publishes the decoded report of its packet. -/
theorem Reader.event_eq (reader : Reader) (bytes : List U8) (tf : TouchFrame) :
    reader.event bytes tf =
      publish (mt2Decode (some (reader.report bytes)) reader.reportId reader.headerLen
        (some tf)) := by
  have hshort : ∀ report : List U8, report.length < reader.headerLen →
      publish (mt2Decode (some report) reader.reportId reader.headerLen (some tf)) = none := by
    intro report hlt
    have hbad : ¬WellFormed report reader.reportId reader.headerLen := fun h =>
      absurd h.1 (Nat.not_le.mpr hlt)
    rw [mt2Decode_rejected (by cases reader <;> decide) hbad]
    rfl
  cases reader with
  | bluetooth =>
    show incomingData bytes tf = _
    unfold incomingData
    by_cases hlen : bytes.length < 2
    · have hle := Reader.bluetooth.length_report_le bytes
      rw [if_pos hlen, hshort _ (Nat.lt_trans (Nat.lt_of_le_of_lt hle hlen) (by decide))]
    · rw [if_neg hlen]
      rfl
  | usb =>
    show readComplete bytes tf = _
    unfold readComplete
    by_cases hlen : 0 < (bytes.take 256).length
    · rw [if_pos hlen]
      rfl
    · have hshort := hshort _ (Nat.lt_of_le_of_lt (Nat.not_lt.mp hlen) (by decide))
      rw [if_neg hlen]
      exact hshort.symm

theorem decodeRecord_unpack (t : Nat → U8) (out : TouchContact) :
    decodeRecord t out = (Mt2Record.unpack t).contact out := by
  simp only [decodeRecord, recordX_eq, recordY_eq, low4_eq, high2_eq, high3_eq]
  rfl

theorem scaleX_eq {v : Int} (h : SmallCoord v) :
    scaleX v = stretch v mt2MinX mt2MaxX mt1MinX mt1MaxX := by
  obtain ⟨hlo, hhi⟩ := h
  refine scale_eq_stretch (by decide) (by decide) ?_ ?_
  · show -2 ^ 31 ≤ v - -3678
    omega
  · show v - -3678 < 2 ^ 31
    omega

theorem scaleY_eq {v : Int} (h : SmallCoord v) :
    scaleY v = stretch v mt2MinY mt2MaxY mt1MinY mt1MaxY := by
  obtain ⟨hlo, hhi⟩ := h
  refine scale_eq_stretch (by decide) (by decide) ?_ ?_
  · show -2 ^ 31 ≤ v - -2478
    omega
  · show v - -2478 < 2 ^ 31
    omega

/-- **What the wire brings of a record**, wherever it was decoded. -/
theorem finger_carry (r : Mt2Record) (out : TouchContact) :
    (if 0 < (carry (r.contact out)).pressure then some (fingerOfContact (carry (r.contact out)))
      else none) = r.finger := by
  have hx : SmallCoord r.x.toInt := by
    have hlo := BitVec.le_toInt r.x
    have hhi := BitVec.toInt_lt (x := r.x)
    exact ⟨by omega, by omega⟩
  have hy : SmallCoord (-r.negY.toInt) := by
    have hlo := BitVec.le_toInt r.negY
    have hhi := BitVec.toInt_lt (x := r.negY)
    exact ⟨by omega, by omega⟩
  have hsize : (r.size.toNat : Int) < 256 := by
    have hlt := r.size.isLt
    omega
  have hsame : SameTouch (r.contact out) (carry (r.contact out)) :=
    sameTouch_carry ⟨Int.natCast_nonneg _, hsize⟩ ⟨hx, hy⟩
  have hpressure : 0 < (carry (r.contact out)).pressure ↔ r.size ≠ 0#8 := by
    rw [← hsame.pressure]
    show 0 < (r.size.toNat : Int) ↔ _
    rw [Ne, ← BitVec.toNat_inj]
    show _ ↔ ¬r.size.toNat = 0
    omega
  have hnib : (carry (r.contact out)).nib = r.id.toNat := by
    have hlt := r.id.isLt
    show (r.id.setWidth 32 &&& 0x0f#32).toNat = _
    rw [Bitmask.and_mask (m := 0x0f#32) 4 rfl, BitVec.toNat_setWidth, BitVec.toNat_setWidth,
      BitVec.toNat_setWidth]
    omega
  have hplaceX : scaleX (carry (r.contact out)).currentCoordinates.x =
      stretch r.x.toInt mt2MinX mt2MaxX mt1MinX mt1MaxX := hsame.x.symm.trans (scaleX_eq hx)
  have hplaceY : scaleY (carry (r.contact out)).currentCoordinates.y =
      stretch (-r.negY.toInt) mt2MinY mt2MaxY mt1MinY mt1MaxY :=
    hsame.y.symm.trans (scaleY_eq hy)
  unfold Mt2Record.finger fingerOfContact
  rw [hnib, hplaceX, hplaceY]
  by_cases hzero : r.size = 0#8
  · rw [if_pos hzero, if_neg fun h => hpressure.mp h hzero]
  · rw [if_neg hzero, if_pos (hpressure.mpr hzero)]

/-- What a frame says of the surface. -/
structure Says (f : TouchFrame) (button : Bool) (fs : List (Finger Nat Place)) : Prop where
  fingers : f.present.map fingerOfContact = fs
  button : fs ≠ [] → f.isPhysicalButtonDown = if button then 1#8 else 0#8

/-- **A decoded report across the wire**, whatever it was decoded over. -/
theorem says_decodedOver {report : List U8} {headerLen : Nat} (hlen : report.length < 2 ^ 31)
    (g : TouchFrame) :
    Says (crossWire (decodedOver report headerLen (npoints (report.length - headerLen)).toNat g))
      (byteAt report 1 &&& 0x01#8 ≠ 0#8)
      ((heard report headerLen).filterMap Mt2Record.finger) := by
  have hn := npoints_toNat (Nat.lt_of_le_of_lt (Nat.sub_le report.length headerLen) hlen)
  have hle := npoints_toNat_le (report.length - headerLen)
  rw [hn] at hle ⊢
  obtain ⟨hcount, hslots⟩ := decodedOver_slots report headerLen hle g
  generalize hf : decodedOver report headerLen (min ((report.length - headerLen) / 9) 16) g = f
    at hcount hslots ⊢
  have hbutton : f.isPhysicalButtonDown = byteAt report 1 &&& 0x01#8 := by
    rw [← hf]
    rfl
  have hten : min 10 f.contactCount = min ((report.length - headerLen) / 9) 10 := by omega
  have hcontacts : (crossWire f).contacts =
      (List.range (min ((report.length - headerLen) / 9) 10)).map fun i =>
        carry ((Mt2Record.unpack fun k => byteAt report (headerLen + i * 9 + k)).contact
          (g.transducers.slots i)) := by
    rw [contacts_crossWire, TouchFrame.contacts, SlotBuffer.toList, ← List.map_take,
      List.take_range, hten, List.map_map]
    refine List.map_congr_left fun i hi => ?_
    have hlt := List.mem_range.mp hi
    rw [Function.comp_apply, hslots i (by omega), decodeRecord_unpack]
  have hheard : heard report headerLen =
      (List.range (min ((report.length - headerLen) / 9) 10)).map fun i =>
        Mt2Record.unpack fun k => byteAt report (headerLen + i * 9 + k) := by
    rw [heard, records, ← List.map_take, List.take_range, Nat.min_comm]
  have hfingers : (crossWire f).present.map fingerOfContact =
      (heard report headerLen).filterMap Mt2Record.finger := by
    rw [TouchFrame.present, ← List.filterMap_eq_map, List.filterMap_filter, hcontacts, hheard,
      List.filterMap_map, List.filterMap_map]
    refine List.filterMap_congr fun i _ => ?_
    simp only [Function.comp_apply, decide_eq_true_eq]
    exact finger_carry _ _
  refine ⟨hfingers, fun hne => ?_⟩
  have hpos : 0 < f.contactCount := by
    rw [Nat.pos_iff_ne_zero]
    intro hzero
    refine hne ?_
    rw [← hfingers, TouchFrame.present, contacts_crossWire, TouchFrame.contacts,
      SlotBuffer.toList, show f.transducers.count = 0 from hzero]
    rfl
  rw [button_crossWire, hbutton]
  by_cases hdown : byteAt report 1 &&& 0x01#8 = 0#8
  · simp [hdown]
  · simp [hdown, hpos]

/-- **A reader and the wire bring exactly what is heard of the packet**, whatever the stack held. -/
theorem event_touches (reader : Reader) {bytes : List U8} (hlen : bytes.length < 2 ^ 16)
    (tf : TouchFrame) :
    match reader.touches bytes with
    | some (button, fs) => ∃ ev, reader.event bytes tf = some ev ∧
        Says (frameFromVoodoo ev mt2SpanX mt2SpanY) button fs
    | none => reader.event bytes tf = none := by
  have hpos : 0 < reader.headerLen := by cases reader <;> decide
  have hle := reader.length_report_le bytes
  have hsmall : (reader.report bytes).length < 2 ^ 31 := by omega
  rw [Reader.event_eq, Reader.touches]
  by_cases hform : WellFormed (reader.report bytes) reader.reportId reader.headerLen
  · rw [if_pos hform]
    refine ⟨_, ?_, says_decodedOver hsmall tf⟩
    rw [mt2Decode_over ((mt2Decode_eq_zero_iff hpos hsmall tf).mpr hform) tf]
    rfl
  · rw [if_neg hform, mt2Decode_rejected hpos hform]
    rfl

end MagicTrackpad
