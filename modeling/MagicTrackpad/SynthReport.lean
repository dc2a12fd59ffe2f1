import MagicTrackpad.Frame
import MagicTrackpad.Lib.Bitmask
import MagicTrackpad.Lib.ByteStore
import MagicTrackpad.Lib.History
import Mathlib.Logic.Function.Basic

/-!
# The device's reports (`src/mavericks_synth_report.c`, `src/mt2_geometry.c`)

hidd asks the fabricated device for reports: the geometry of the sensor, and the mode registers it
has set before. Geometry is answered from a table; any other report id echoes the last value set.
The handlers (`getReportStub`, `setReportStub` of `kext-gesture/MavericksAMDTerminal.cpp`) work on a
report in memory: the id at offset 0, the data from offset 1 on, and the length at offset 0x204.

* Each build has registers of its own, zeroed; any number of devices is served side by side.
* `lastSet` is the history's account of a register.

Results:
* `fillGeometryReport_length`: no geometry answer reaches the length word.
* `get_report_answers`: what a GET answers after any history of all the devices, and what it leaves
  of the report.
-/

namespace MagicTrackpad

open Lib
open Lib.ByteStore (storeList)

/-! ## The geometry -/

/-- `mt2_surface_desc_tail`. -/
def surfaceDescTail : List U8 :=
  [0x44#8, 0xe3#8, 0x52#8, 0xff#8, 0xbd#8, 0x1e#8, 0xe4#8, 0x26#8]

/-- `mt2_region_descriptor`. -/
def regionDescriptor : List U8 :=
  [0x02#8, 0x01#8, 0x00#8, 0x14#8, 0x01#8, 0x00#8, 0x1e#8, 0x00#8, 0x02#8, 0x14#8, 0x02#8, 0x01#8,
    0x0e#8, 0x02#8, 0x00#8]

/-- `mt2_region_param`. -/
def regionParam : List U8 := [0x00#8, 0x00#8, 0x05#8, 0x00#8, 0xfe#8, 0x01#8]

/-- `MT2_SURFACE_WIDTH`. -/
abbrev surfaceWidth : U32 := 15600#32

/-- `MT2_SURFACE_HEIGHT`. -/
abbrev surfaceHeight : U32 := 11040#32

/-- `put_u32_le`. -/
def putU32Le (v : U32) : List U8 :=
  [(v &&& 0xff#32).setWidth 8, (v >>> 8 &&& 0xff#32).setWidth 8,
    (v >>> 16 &&& 0xff#32).setWidth 8, (v >>> 24 &&& 0xff#32).setWidth 8]

/-- The answers of `mt2_fill_geometry_report`. -/
inductive GeoAnswer
  | ok (bytes : List U8)
  | unsupported
  | notGeometry
  deriving DecidableEq, Repr

/-- `mt2_fill_geometry_report`. -/
def fillGeometryReport (reportId : U8) : GeoAnswer :=
  if reportId = 0x7f#8 then .ok [0#8, 0#8, 0#8, 0#8]
  else if reportId = 0xd1#8 then .ok [0x81#8]
  else if reportId = 0xd3#8 then .ok [0x01#8, 0x16#8, 0x1e#8, 0x01#8, 0x00#8]
  else if reportId = 0xd9#8 then
    .ok (putU32Le surfaceWidth ++ putU32Le surfaceHeight ++ surfaceDescTail)
  else if reportId = 0xd0#8 then .ok regionDescriptor
  else if reportId = 0xa1#8 then .ok regionParam
  -- Multitouch ID: let the driver skip
  else if reportId = 0xdb#8 then .unsupported
  else .notGeometry

/-! ## The registers -/

/-- `mavericks_synth_regs_t`. -/
abbrev SynthRegs := U8 → U8

/-- `mavericks_synth_regs_init`. -/
def synthRegsInit : SynthRegs := fun _ => 0

/-- `mavericks_synth_note_set`. -/
def synthNoteSet (r : SynthRegs) (reportId value : U8) : SynthRegs :=
  Function.update r reportId value

/-- `mavericks_synth_answer_report`: the bytes, `none` for MAVERICKS_SYNTH_SKIP. -/
def synthAnswerReport (r : SynthRegs) (reportId : U8) : Option (List U8) :=
  match fillGeometryReport reportId with
  | .ok bytes => some bytes
  | .unsupported => none
  | .notGeometry => some [r reportId]

/-- `AMDDeviceReportStruct`, by offset. -/
abbrev DeviceReport := Nat → U8

/-- Where the length word of a report is. -/
abbrev lengthOffset : Nat := 0x204

/-- `kIOReturnUnsupported`. -/
abbrev kIOReturnUnsupported : U32 := 0xe00002c7#32

/-- `getReportStub`: the code, and the report. -/
def getReportStub (regs : SynthRegs) (r : DeviceReport) : U32 × DeviceReport :=
  match synthAnswerReport regs (r 0) with
  | none => (kIOReturnUnsupported, r)
  | some bytes =>
    (0, storeList (storeList r 1 bytes) lengthOffset (putU32Le (BitVec.ofNat 32 bytes.length)))

/-- `setReportStub`: the registers. -/
def setReportStub (regs : SynthRegs) (r : DeviceReport) : SynthRegs :=
  synthNoteSet regs (r 0) (r 1)

/-! ## Any number of devices -/

/-- A device is built, or hidd sets or gets a report of one. -/
inductive SynthEvent
  | build (device : Nat)
  | set (device : Nat) (r : DeviceReport)
  | get (device : Nat) (r : DeviceReport)

/-- The registers of every context. -/
abbrev SynthDevices := Nat → SynthRegs

/-- One event; the output is what a GET answers. -/
def synthStep : Transducer SynthDevices SynthEvent (U32 × DeviceReport)
  | s, .build device => (Function.update s device synthRegsInit, [])
  | s, .set device r => (Function.update s device (setReportStub (s device) r), [])
  | s, .get device r => (s, [getReportStub (s device) r])

/-- What an event makes of a register of a device, if anything. -/
def SynthEvent.writes (device : Nat) (reportId : U8) : SynthEvent → Option U8
  | .build d => if d = device then some 0 else none
  | .set d r => if d = device ∧ r 0 = reportId then some (r 1) else none
  | .get _ _ => none

/-- The last value of a register; 0 where nothing wrote it. -/
def lastSet (es : List SynthEvent) (device : Nat) (reportId : U8) : U8 :=
  (es.reverse.findSome? (SynthEvent.writes device reportId)).getD 0

theorem lastSet_concat (es : List SynthEvent) (e : SynthEvent) (device : Nat) (reportId : U8) :
    lastSet (es ++ [e]) device reportId =
      (e.writes device reportId).getD (lastSet es device reportId) := by
  unfold lastSet
  rw [List.reverse_append, List.reverse_singleton, List.singleton_append, List.findSome?_cons]
  cases e.writes device reportId <;> rfl

/-- **A register holds what the history says.** -/
theorem run_registers (es : List SynthEvent) (device : Nat) (reportId : U8) :
    (Transducer.run synthStep (fun _ => synthRegsInit) es).1 device reportId =
      lastSet es device reportId := by
  refine Transducer.run_history_induction synthStep
    (I := fun es s => ∀ device reportId, s device reportId = lastSet es device reportId)
    (fun _ _ => rfl) ?_ es device reportId
  intro es s e hs device reportId
  rw [lastSet_concat]
  cases e with
  | build d =>
    simp only [synthStep, SynthEvent.writes]
    by_cases hd : d = device
    · subst hd
      rw [Function.update_self, if_pos rfl]
      rfl
    · rw [Function.update_of_ne (Ne.symm hd), if_neg hd]
      exact hs device reportId
  | set d r =>
    simp only [synthStep, SynthEvent.writes, setReportStub, synthNoteSet]
    by_cases hd : d = device
    · subst hd
      rw [Function.update_self]
      by_cases hid : r 0 = reportId
      · subst hid
        rw [Function.update_self, if_pos ⟨rfl, rfl⟩]
        rfl
      · rw [Function.update_of_ne (Ne.symm hid), if_neg fun h => hid h.2]
        exact hs d reportId
    · rw [Function.update_of_ne (Ne.symm hd), if_neg fun h => hd h.1]
      exact hs device reportId
  | get d r => exact hs device reportId

/-! ## The report -/

/-- **No geometry answer reaches the length word**: none is longer than 16 bytes. -/
theorem fillGeometryReport_length {reportId : U8} {bytes : List U8}
    (h : fillGeometryReport reportId = .ok bytes) : bytes.length ≤ 16 := by
  unfold fillGeometryReport at h
  split_ifs at h
  all_goals
    rw [GeoAnswer.ok.injEq] at h
    subst h
    decide

/-- The length of a report, as hidd reads it. -/
def reportLength (r : DeviceReport) : U32 :=
  (r lengthOffset).setWidth 32 ||| (r (lengthOffset + 1)).setWidth 32 <<< 8 |||
    (r (lengthOffset + 2)).setWidth 32 <<< 16 ||| (r (lengthOffset + 3)).setWidth 32 <<< 24

/-- The report carries `bytes` as its data, and is as it was but for these and the length. -/
structure Filled (bytes : List U8) (r r' : DeviceReport) : Prop where
  data : ∀ j, (hj : j < bytes.length) → r' (1 + j) = bytes[j]
  length : reportLength r' = BitVec.ofNat 32 bytes.length
  id : r' 0 = r 0
  rest : ∀ j, 1 + bytes.length ≤ j → j < lengthOffset ∨ lengthOffset + 4 ≤ j → r' j = r j

/-- The four bytes of a word make it up. -/
theorem putU32Le_word (v : U32) :
    ((v &&& 0xff#32).setWidth 8).setWidth 32 |||
      ((v >>> 8 &&& 0xff#32).setWidth 8).setWidth 32 <<< 8 |||
      ((v >>> 16 &&& 0xff#32).setWidth 8).setWidth 32 <<< 16 |||
      ((v >>> 24 &&& 0xff#32).setWidth 8).setWidth 32 <<< 24 = v := by
  simp only [Bitmask.setWidth_and_255]
  exact Bitmask.or_bytes v

/-- A report that was filled in. -/
theorem filled_store {bytes : List U8} (hlen : bytes.length ≤ 16) (r : DeviceReport) :
    Filled bytes r
      (storeList (storeList r 1 bytes) lengthOffset
        (putU32Le (BitVec.ofNat 32 bytes.length))) := by
  have hword : (putU32Le (BitVec.ofNat 32 bytes.length)).length = 4 := rfl
  have hoff : lengthOffset = 516 := rfl
  refine ⟨fun j hj => ?_, ?_, ?_, fun j hj hout => ?_⟩
  · rw [ByteStore.storeList_before _ _ (by omega), ByteStore.storeList_at _ _ hj]
  · have hat : ∀ j, (hj : j < 4) →
        storeList (storeList r 1 bytes) lengthOffset (putU32Le (BitVec.ofNat 32 bytes.length))
          (lengthOffset + j) = (putU32Le (BitVec.ofNat 32 bytes.length))[j] :=
      fun j hj => ByteStore.storeList_at _ _ hj
    unfold reportLength
    rw [hat 1 (by decide), hat 2 (by decide), hat 3 (by decide), ← Nat.add_zero lengthOffset,
      hat 0 (by decide)]
    exact putU32Le_word _
  · rw [ByteStore.storeList_before _ _ (by decide), ByteStore.storeList_before _ _ (by decide)]
  · rcases hout with hout | hout
    · rw [ByteStore.storeList_before _ _ hout, ByteStore.storeList_after _ (by omega)]
    · rw [ByteStore.storeList_after _ (by omega), ByteStore.storeList_after _ (by omega)]

/-! ## The answers -/

/-- **A GET answers what the history says.** After any builds, SETs and GETs of all the devices, a
GET of a report: the Multitouch ID is refused and the report left alone; a geometry report carries
its bytes; every other one carries the last value set of that id since the device was built, 0
where there is none. Nothing else of the report changes but its length. -/
theorem get_report_answers (es : List SynthEvent) (device : Nat) (r : DeviceReport) :
    let regs := (Transducer.run synthStep (fun _ => synthRegsInit) es).1 device
    match fillGeometryReport (r 0) with
    | .unsupported => getReportStub regs r = (kIOReturnUnsupported, r)
    | .ok bytes => (getReportStub regs r).1 = 0 ∧ Filled bytes r (getReportStub regs r).2
    | .notGeometry =>
      (getReportStub regs r).1 = 0 ∧
        Filled [lastSet es device (r 0)] r (getReportStub regs r).2 := by
  intro regs
  have hreg : regs (r 0) = lastSet es device (r 0) := run_registers es device (r 0)
  unfold getReportStub synthAnswerReport
  cases hgeo : fillGeometryReport (r 0) with
  | unsupported => rfl
  | ok bytes => exact ⟨rfl, filled_store (fillGeometryReport_length hgeo) r⟩
  | notGeometry =>
    have hone : [regs (r 0)].length ≤ 16 := Nat.le_add_left 1 15
    rw [← hreg]
    exact ⟨rfl, filled_store hone r⟩

end MagicTrackpad
