import MagicTrackpad.NameMirror

/-!
# The name report (`MavericksHIDShell.cpp`, `MT2BTReader.cpp`, `src/mt2_name_report.c`)

Feature report 0x55 holds the name on the device, 64 bytes behind the id. A client that reads it
ends in `readDeviceName`, which sends a GET over the control channel and waits for the reply that
`bt_control_shim` captures; one that writes it ends in `sendNameInGate`, which pads the name to 64
bytes and sends a SET.

* `padTo` is a buffer that is cleared and then filled from the front.
* `NameResp` are `gNameResp`, its length and its flag; `btControlShim` is what `bt_control_shim`
  does to them.
* `readDeviceName` takes what reaches the shim before each look at the flag. Capturing a reply and
  copying it out are one step each here. `out`, `outLen` and `name` are never NULL: their callers
  pass the addresses of locals.
* `getReport` and `setReport` are the methods of the shell, with what the inherited ones would
  return as an input.
* `deviceRequest` is the device: it stores the payload of report 0x55 verbatim and returns it, as a
  whole or without zeros at its end (`WireForm`).

Results:
* `readDeviceName_reply`: a read that gets the reply of the device returns the name in it.
* `rename_reaches_device`: a name that the mirror writes is on the device, its tail cleared.
* `name_report_iff`: what was read is written back successfully, and changes nothing, iff the
  buffer is not the full report.
-/

namespace MagicTrackpad

/-- `x` at the front of `n` bytes, zeros behind it. -/
def padTo (n : Nat) (x : List U8) : List U8 := x ++ List.replicate (n - x.length) 0#8

theorem length_padTo {n : Nat} {x : List U8} (h : x.length ≤ n) : (padTo n x).length = n := by
  rw [padTo, List.length_append, List.length_replicate]
  omega

theorem padTo_of_length {n : Nat} {x : List U8} (h : x.length = n) : padTo n x = x := by
  rw [padTo, h, Nat.sub_self, List.replicate_zero, List.append_nil]

/-- Cutting off zeros is undone by the padding. -/
theorem padTo_take {n k : Nat} {x : List U8} (hx : x.length ≤ k) (hk : k ≤ n) :
    padTo n ((padTo n x).take k) = padTo n x := by
  have hcut : (padTo n x).take k = x ++ List.replicate (k - x.length) 0#8 := by
    rw [padTo, List.take_append, List.take_of_length_le hx, List.take_replicate]
    congr 2
    omega
  rw [hcut, padTo, padTo, List.append_assoc, List.replicate_append_replicate, List.length_append,
    List.length_replicate]
  congr 2
  omega

/-! ## The report -/

/-- `MAVERICKS_NAME_REPORT_ID`. -/
def nameReportId : U8 := 0x55#8

/-- `mt2_build_name_report`: the size it returns and the buffer after it. A buffer that is NULL
counts as one of no bytes, and a name that is NULL as the empty one. -/
def buildNameReport (reportId : U8) (name out : List U8) : Nat × List U8 :=
  if out.length = 0 then (0, out)
  else (out.length, reportId :: padTo (out.length - 1) (name.take (out.length - 1)))

/-- **The report is defined up to its end**, whatever the buffer held. -/
theorem buildNameReport_eq (reportId : U8) (name : List U8) {out : List U8} {n : Nat}
    (hout : out.length = n + 1) :
    buildNameReport reportId name out = (n + 1, reportId :: padTo n (name.take n)) := by
  rw [buildNameReport, if_neg (by omega), hout, Nat.add_sub_cancel]

/-- The payload of report 0x55. -/
abbrev NamePayload := { p : List U8 // p.length = 64 }

/-! ## The reply -/

/-- `gNameRespPending`, `gNameResp`, `gNameRespLen`. -/
structure NameResp where
  gNameRespPending : Bool
  gNameResp : NamePayload
  gNameRespLen : Nat
  len_le : gNameRespLen ≤ 64

namespace NameResp

/-- The bytes that were captured. -/
def captured (r : NameResp) : List U8 := r.gNameResp.val.take r.gNameRespLen

/-- `gNameRespPending = 0;`. -/
def clear (r : NameResp) : NameResp := { r with gNameRespPending := false }

/-- The capture of `nd`, which is what lies behind the report id. -/
def capture (r : NameResp) (nd : List U8) : NameResp where
  gNameRespPending := true
  gNameResp := ⟨nd.take 64 ++ r.gNameResp.val.drop (min nd.length 64), by
    rw [List.length_append, List.length_take, List.length_drop, r.gNameResp.property]
    omega⟩
  gNameRespLen := min nd.length 64
  len_le := Nat.min_le_right _ _

theorem captured_capture (r : NameResp) (nd : List U8) :
    (r.capture nd).captured = nd.take 64 := by
  have hlen : min nd.length 64 = (nd.take 64).length := by
    rw [List.length_take, Nat.min_comm]
  show (nd.take 64 ++ _).take (min nd.length 64) = _
  rw [hlen, List.take_left]

end NameResp

/-- Nothing captured yet: the variables are zeroed. -/
def noResp : NameResp := ⟨false, ⟨List.replicate 64 0#8, List.length_replicate⟩, 0, Nat.zero_le _⟩

/-- `nd`: the PDU behind a transport byte 0xA1 or 0xA3. -/
def stripTransport : List U8 → List U8
  | [] => []
  | b :: rest => if b = 0xA1#8 ∨ b = 0xA3#8 then rest else b :: rest

/-- The shim takes the PDU for a name reply. -/
def IsNameReply (pdu : List U8) : Prop := (stripTransport pdu).head? = some nameReportId

instance (pdu : List U8) : Decidable (IsNameReply pdu) := inferInstanceAs (Decidable (_ = _))

/-- `bt_control_shim`, as far as the name goes. -/
def btControlShim (r : NameResp) (pdu : List U8) : NameResp :=
  if IsNameReply pdu then r.capture (stripTransport pdu).tail else r

/-- What the device sends back for a GET of report 0x55. -/
def nameReply (name : List U8) : List U8 := 0xA3#8 :: nameReportId :: name

theorem isNameReply_nameReply (name : List U8) : IsNameReply (nameReply name) := rfl

theorem btControlShim_of_not {pdu : List U8} (h : ¬ IsNameReply pdu) (r : NameResp) :
    btControlShim r pdu = r := if_neg h

theorem btControlShim_nameReply (r : NameResp) (name : List U8) :
    btControlShim r (nameReply name) = r.capture name := if_pos (isNameReply_nameReply name)

theorem captured_nameReply (r : NameResp) {name : List U8} (h : name.length ≤ 64) :
    (btControlShim r (nameReply name)).captured = name := by
  rw [btControlShim_nameReply, NameResp.captured_capture, List.take_of_length_le h]

/-! ## The control channel -/

/-- `kIOReturnSuccess`. -/
def kIOReturnSuccess : U32 := 0#32

/-- `kIOReturnNoDevice`. -/
def kIOReturnNoDevice : U32 := 0xe00002c0#32

/-- `kIOReturnBadArgument`. -/
def kIOReturnBadArgument : U32 := 0xe00002c2#32

/-- `kIOReturnTimeout`. -/
def kIOReturnTimeout : U32 := 0xe00002d6#32

/-- `gCtrlInterposedChannel`, as the functions look at it. -/
structure ControlChannel where
  /-- It is not 0. -/
  interposed : Bool
  /-- `getCommandGate()` is not 0. -/
  gate : Bool
  /-- `isInactive()`, inside the gate. -/
  inactive : Bool
  deriving DecidableEq

/-- The control channel is up. -/
structure ControlChannel.Up (ch : ControlChannel) : Prop where
  interposed : ch.interposed = true
  gate : ch.gate = true
  active : ch.inactive = false

/-- `sendNameInGate`: its return value and the PDUs it sends. -/
def sendNameInGate (ch : ControlChannel) (name : List U8) : U32 × List (List U8) :=
  if ch.inactive then (kIOReturnNoDevice, [])
  else if name.length = 0 ∨ 63 < name.length then (kIOReturnBadArgument, [])
  else (kIOReturnSuccess, [0x53#8 :: nameReportId :: padTo 64 name])

/-- `writeDeviceName`. -/
def writeDeviceName (ch : ControlChannel) (name : List U8) : U32 × List (List U8) :=
  if name.length = 0 ∨ 63 < name.length then (kIOReturnBadArgument, [])
  else if ch.interposed = false ∨ ch.gate = false then (kIOReturnNoDevice, [])
  else sendNameInGate ch name

/-- `kGetName`. -/
def kGetName : List U8 := [0x43#8, nameReportId]

/-- `sendNameGetInGate`. -/
def sendNameGetInGate (ch : ControlChannel) : U32 × List (List U8) :=
  if ch.inactive then (kIOReturnNoDevice, []) else (kIOReturnSuccess, [kGetName])

/-- `readDeviceName` up to its wait: what it returns if it does not get that far, the globals and
the PDUs it sends. -/
def startRead (ch : ControlChannel) (r : NameResp) : U32 × NameResp × List (List U8) :=
  if ch.interposed = false ∨ ch.gate = false then (kIOReturnNoDevice, r, [])
  else ((sendNameGetInGate ch).1, r.clear, (sendNameGetInGate ch).2)

/-- `readDeviceName` behind its wait: what it returns, and the name. -/
def finishRead (maxLen : Nat) (r : NameResp) : U32 × List U8 :=
  if r.gNameRespPending = false then (kIOReturnTimeout, [])
  else (kIOReturnSuccess, r.gNameResp.val.take (min r.gNameRespLen maxLen))

/-- `for (int i = 0; i < 50 && !gNameRespPending; i++) IOSleep(10);` and the check behind it, one
look after the other, with what reaches the shim before each. -/
def waitName : List (List (List U8)) → NameResp → NameResp
  | [], r => r
  | pdus :: looks, r =>
    if (pdus.foldl btControlShim r).gNameRespPending then pdus.foldl btControlShim r
    else waitName looks (pdus.foldl btControlShim r)

/-- What a read comes to. -/
structure NameRead where
  ret : U32
  name : List U8
  resp : NameResp
  sent : List (List U8)

/-- `readDeviceName`, which looks at the flag 51 times at most. -/
def readDeviceName (ch : ControlChannel) (maxLen : Nat) (looks : List (List (List U8)))
    (r : NameResp) : NameRead :=
  let started := startRead ch r
  if started.1 ≠ kIOReturnSuccess then ⟨started.1, [], started.2.1, started.2.2⟩
  else
    let waited := waitName (looks.take 51) started.2.1
    ⟨(finishRead maxLen waited).1, (finishRead maxLen waited).2, waited, started.2.2⟩

/-! ## The shell -/

/-- `IOHIDReportType`. -/
inductive ReportType
  | input
  | output
  | feature
  deriving DecidableEq

/-- `MavericksHIDShell::setReport`: its return value and the PDUs it sends. `inherited` is what
`IOHIDDevice::setReport` would return; a report that is NULL is `none`. -/
def setReport (ch : ControlChannel) (inherited : U32) (report : Option (List U8))
    (reportType : ReportType) : U32 × List (List U8) :=
  match report with
  | none => (inherited, [])
  | some buf =>
    if reportType = .feature ∧ (2 ≤ buf.length ∧ buf.length ≤ 65) ∧
        buf.head? = some nameReportId then
      writeDeviceName ch buf.tail
    else (inherited, [])

/-- What a GET of a report comes to. -/
structure ReportRead where
  ret : U32
  report : Option (List U8)
  resp : NameResp
  sent : List (List U8)

/-- `MavericksHIDShell::getReport`. `inherited` is what `IOHIDDevice::getReport` would return and
make of the report. -/
def getReport (ch : ControlChannel) (inherited : U32 × Option (List U8))
    (report : Option (List U8)) (reportType : ReportType) (options : U32)
    (looks : List (List (List U8))) (r : NameResp) : ReportRead :=
  match report with
  | none => ⟨inherited.1, inherited.2, r, []⟩
  | some mem =>
    if reportType = .feature ∧ (options &&& 0xff#32).setWidth 8 = nameReportId then
      let read := readDeviceName ch 64 looks r
      if read.ret = kIOReturnSuccess then
        -- `buf` is not initialized; what it held makes no difference (`buildNameReport_eq`).
        let full := buildNameReport nameReportId read.name (List.replicate 65 0#8)
        let w := min mem.length full.1
        ⟨kIOReturnSuccess, some (full.2.take w ++ mem.drop w), read.resp, read.sent⟩
      else ⟨read.ret, some mem, read.resp, read.sent⟩
    else ⟨inherited.1, inherited.2, r, []⟩

/-! ## The device -/

/-- How the device sends a payload back: verbatim, or without some of the zeros at its end. -/
structure WireForm where
  bytes : NamePayload → List U8
  padded : ∀ p, padTo 64 (bytes p) = p.val

theorem WireForm.length_le (wire : WireForm) (p : NamePayload) : (wire.bytes p).length ≤ 64 := by
  have hlen := congrArg List.length (wire.padded p)
  rw [padTo, List.length_append, p.property] at hlen
  omega

/-- All 64 bytes. -/
def verbatim : WireForm := ⟨Subtype.val, fun p => padTo_of_length p.property⟩

/-- The device takes a request: it answers the GET of report 0x55 with the payload it holds, and
stores the one of a SET and acknowledges it. -/
def deviceRequest (wire : WireForm) (payload : NamePayload) :
    List U8 → NamePayload × List (List U8)
  | 0x43#8 :: 0x55#8 :: _ => (payload, [nameReply (wire.bytes payload)])
  | 0x53#8 :: 0x55#8 :: stored =>
    if h : stored.length = 64 then (⟨stored, h⟩, [[0x00#8]]) else (payload, [[0x02#8]])
  | _ => (payload, [])

/-- The payload after the requests. -/
def deviceAfter (wire : WireForm) (payload : NamePayload) (sent : List (List U8)) : NamePayload :=
  sent.foldl (fun p pdu => (deviceRequest wire p pdu).1) payload

/-- A name the device holds: 1 to 63 bytes that are not zero. -/
structure DeviceName where
  bytes : List U8
  nonzero : ∀ b ∈ bytes, b ≠ 0#8
  length_pos : 0 < bytes.length
  length_le : bytes.length ≤ 63

/-- The payload a name is kept as. -/
def DeviceName.payload (name : DeviceName) : NamePayload :=
  ⟨padTo 64 name.bytes, length_padTo (Nat.le_succ_of_le name.length_le)⟩

/-- A SET that `sendNameInGate` sends leaves nothing of the payload before it. -/
theorem deviceRequest_set (wire : WireForm) (p : NamePayload) {name : List U8}
    (h : name.length ≤ 63) :
    (deviceRequest wire p (0x53#8 :: nameReportId :: padTo 64 name)).1.val = padTo 64 name := by
  have hlen : (padTo 64 name).length = 64 := length_padTo (Nat.le_succ_of_le h)
  show (dite _ _ _ : NamePayload × List (List U8)).1.val = _
  rw [dif_pos hlen]

/-! ## Writing -/

theorem writeDeviceName_of_le {ch : ControlChannel} (hch : ch.Up) {name : List U8}
    (hpos : 0 < name.length) (hle : name.length ≤ 63) :
    writeDeviceName ch name =
      (kIOReturnSuccess, [0x53#8 :: nameReportId :: padTo 64 name]) := by
  have hlen : ¬ (name.length = 0 ∨ 63 < name.length) := by omega
  have hup : ¬ (ch.interposed = false ∨ ch.gate = false) := by
    simp [hch.interposed, hch.gate]
  rw [writeDeviceName, if_neg hlen, if_neg hup, sendNameInGate, if_neg hlen, hch.active]
  rfl

/-- `setReport` hands the bytes behind the id to `writeDeviceName`. -/
theorem setReport_name {ch : ControlChannel} {inherited : U32} {name : List U8}
    (hpos : 0 < name.length) (hle : name.length ≤ 64) :
    setReport ch inherited (some (nameReportId :: name)) .feature = writeDeviceName ch name := by
  refine if_pos ⟨rfl, ⟨?_, ?_⟩, rfl⟩
  · exact Nat.succ_le_succ hpos
  · exact Nat.succ_le_succ hle

/-- **A rename that reaches the device** is on it, padded with zeros, whatever it held. -/
theorem rename_reaches_device {ch : ControlChannel} (hch : ch.Up) (wire : WireForm)
    (inherited : U32) {name report : List U8} (p : NamePayload)
    (hreport : nameWriteOnboard name true = (true, some report)) :
    (setReport ch inherited (some report) .feature).1 = kIOReturnSuccess ∧
      (deviceAfter wire p (setReport ch inherited (some report) .feature).2).val =
        padTo 64 name := by
  unfold nameWriteOnboard at hreport
  split at hreport
  · cases hreport
  · rename_i hlen
    obtain rfl : 0x55#8 :: name = report := by simpa using hreport
    have hwrite : writeDeviceName ch name = _ := writeDeviceName_of_le hch (by omega) (by omega)
    have hset : setReport ch inherited (some (0x55#8 :: name)) .feature = writeDeviceName ch name :=
      setReport_name (by omega) (by omega)
    rw [hset, hwrite]
    exact ⟨rfl, deviceRequest_set wire p (by omega)⟩

/-! ## Reading -/

/-- While a read waits, the shim captures nothing but the reply of a device that sends `name`, and
that reply comes in time. -/
structure Answered (name : List U8) (looks : List (List (List U8))) : Prop where
  only : ∀ pdus ∈ looks.take 51, ∀ pdu ∈ pdus, IsNameReply pdu → pdu = nameReply name
  inTime : ∃ pdus ∈ looks.take 51, nameReply name ∈ pdus

/-- What was captured, if anything, is `name`. -/
def Holds (name : List U8) (r : NameResp) : Prop :=
  r.gNameRespPending = true → r.captured = name

/-- The shim never takes the flag back. -/
theorem pending_btControlShim {r : NameResp} (hr : r.gNameRespPending = true) (pdu : List U8) :
    (btControlShim r pdu).gNameRespPending = true := by
  unfold btControlShim
  split
  · rfl
  · exact hr

theorem pending_foldl {r : NameResp} (hr : r.gNameRespPending = true) (pdus : List (List U8)) :
    (pdus.foldl btControlShim r).gNameRespPending = true := by
  induction pdus generalizing r with
  | nil => exact hr
  | cons pdu pdus ih => exact ih (pending_btControlShim hr pdu)

section Wait

variable {name : List U8} (hname : name.length ≤ 64)
include hname

theorem holds_btControlShim {r : NameResp} (hr : Holds name r) {pdu : List U8}
    (hpdu : IsNameReply pdu → pdu = nameReply name) : Holds name (btControlShim r pdu) := by
  by_cases h : IsNameReply pdu
  · obtain rfl := hpdu h
    exact fun _ => captured_nameReply r hname
  · rw [btControlShim_of_not h]
    exact hr

/-- What reaches the shim before one look. -/
theorem foldl_btControlShim {r : NameResp} (hr : Holds name r) {pdus : List (List U8)}
    (hpdus : ∀ pdu ∈ pdus, IsNameReply pdu → pdu = nameReply name) :
    Holds name (pdus.foldl btControlShim r) ∧
      (nameReply name ∈ pdus → (pdus.foldl btControlShim r).gNameRespPending = true) := by
  induction pdus generalizing r with
  | nil => exact ⟨hr, fun h => absurd h List.not_mem_nil⟩
  | cons pdu pdus ih =>
    obtain ⟨hholds, hrest⟩ := ih (holds_btControlShim hname hr (hpdus pdu List.mem_cons_self))
      fun q hq => hpdus q (List.mem_cons_of_mem pdu hq)
    refine ⟨hholds, fun hmem => ?_⟩
    rcases List.mem_cons.mp hmem with rfl | hmem
    · exact pending_foldl (by rw [btControlShim_nameReply]; rfl) pdus
    · exact hrest hmem

/-- **The wait** ends with the reply captured, if it comes before the last look. -/
theorem waitName_spec {looks : List (List (List U8))}
    (hlooks : ∀ pdus ∈ looks, ∀ pdu ∈ pdus, IsNameReply pdu → pdu = nameReply name)
    {r : NameResp} (hr : Holds name r) (htime : ∃ pdus ∈ looks, nameReply name ∈ pdus) :
    (waitName looks r).gNameRespPending = true ∧ (waitName looks r).captured = name := by
  induction looks generalizing r with
  | nil =>
    obtain ⟨pdus, hmem, -⟩ := htime
    exact absurd hmem List.not_mem_nil
  | cons pdus looks ih =>
    obtain ⟨hholds, hnow⟩ := foldl_btControlShim hname hr (hlooks pdus List.mem_cons_self)
    unfold waitName
    by_cases hpending : (pdus.foldl btControlShim r).gNameRespPending = true
    · rw [if_pos hpending]
      exact ⟨hpending, hholds hpending⟩
    · rw [if_neg hpending]
      refine ih (fun qs hqs => hlooks qs (List.mem_cons_of_mem pdus hqs)) hholds ?_
      obtain ⟨qs, hqs, hreply⟩ := htime
      rcases List.mem_cons.mp hqs with rfl | hqs
      · exact absurd (hnow hreply) hpending
      · exact ⟨qs, hqs, hreply⟩

end Wait

theorem startRead_of_up {ch : ControlChannel} (hch : ch.Up) (r : NameResp) :
    startRead ch r = (kIOReturnSuccess, r.clear, [kGetName]) := by
  have hup : ¬ (ch.interposed = false ∨ ch.gate = false) := by
    simp [hch.interposed, hch.gate]
  rw [startRead, if_neg hup, sendNameGetInGate, hch.active]
  rfl

/-- A read that gets past its send has found the channel up. -/
theorem up_of_startRead {ch : ControlChannel} {r : NameResp}
    (h : (startRead ch r).1 = kIOReturnSuccess) : ch.Up := by
  unfold startRead sendNameGetInGate at h
  split_ifs at h with hdown hinactive
  · cases h
  · cases h
  · rw [not_or] at hdown
    exact ⟨Bool.not_eq_false _ ▸ hdown.1, Bool.not_eq_false _ ▸ hdown.2,
      Bool.eq_false_iff.mpr hinactive⟩

/-- A read that finds the flag set copies what was captured. -/
theorem finishRead_of_pending {r : NameResp} (h : r.gNameRespPending = true) :
    finishRead 64 r = (kIOReturnSuccess, r.captured) := by
  have hset : ¬ r.gNameRespPending = false := Bool.not_eq_false _ ▸ h
  rw [finishRead, if_neg hset, Nat.min_eq_left r.len_le]
  rfl

/-- **A read that gets the reply of the device** returns the name in it. -/
theorem readDeviceName_reply {ch : ControlChannel} (hch : ch.Up) {name : List U8}
    (hname : name.length ≤ 64) {looks : List (List (List U8))} (h : Answered name looks)
    (r : NameResp) :
    (readDeviceName ch 64 looks r).ret = kIOReturnSuccess ∧
      (readDeviceName ch 64 looks r).name = name := by
  have hclear : Holds name r.clear := fun hpending => absurd hpending Bool.false_ne_true
  obtain ⟨hpending, hcaptured⟩ := waitName_spec hname h.only hclear h.inTime
  simp only [readDeviceName, startRead_of_up hch, ne_eq, not_true_eq_false, if_false,
    finishRead_of_pending hpending]
  exact ⟨trivial, hcaptured⟩

/-- The report a client gets: as much of the full one as fits. -/
theorem getReport_reply {ch : ControlChannel} (hch : ch.Up) {name : List U8}
    (hname : name.length ≤ 64) {looks : List (List (List U8))} (h : Answered name looks)
    (r : NameResp) (inherited : U32 × Option (List U8)) (mem : List U8) (hmem : mem.length ≤ 65)
    {options : U32} (hoptions : (options &&& 0xff#32).setWidth 8 = nameReportId) :
    (getReport ch inherited (some mem) .feature options looks r).ret = kIOReturnSuccess ∧
      (getReport ch inherited (some mem) .feature options looks r).report =
        some ((nameReportId :: padTo 64 name).take mem.length) := by
  obtain ⟨hret, hread⟩ := readDeviceName_reply hch hname h r
  have hfull := buildNameReport_eq nameReportId name (List.length_replicate (n := 65) (a := 0#8))
  rw [List.take_of_length_le hname] at hfull
  simp only [getReport, hoptions, hret, hread, hfull, and_self, if_true, Nat.min_eq_left hmem,
    List.drop_length, List.append_nil]

/-! ## The round trip -/

/-- What is read into `mem` is written back successfully, and the device holds what it held. -/
def RoundTrips (wire : WireForm) (ch : ControlChannel) (name : DeviceName)
    (inherited : U32 × Option (List U8)) (inherited' : U32) (mem : List U8) (options : U32)
    (looks : List (List (List U8))) (r : NameResp) : Prop :=
  let got := getReport ch inherited (some mem) .feature options looks r
  let set := setReport ch inherited' got.report .feature
  got.ret = kIOReturnSuccess ∧ set.1 = kIOReturnSuccess ∧
    deviceAfter wire name.payload set.2 = name.payload

/-- What `setReport` makes of the first `n` bytes of a report that `getReport` filled. -/
theorem setReport_take {ch : ControlChannel} (inherited : U32) {p : NamePayload} {n : Nat}
    (hlo : 2 ≤ n) (hhi : n ≤ 65) :
    setReport ch inherited (some ((nameReportId :: p.val).take n)) .feature =
      writeDeviceName ch (p.val.take (n - 1)) := by
  obtain ⟨k, rfl⟩ : ∃ k, n = k + 1 := ⟨n - 1, by omega⟩
  have hlen : (p.val.take k).length = k := by
    rw [List.length_take, p.property]
    omega
  rw [List.take_succ_cons, Nat.add_sub_cancel]
  exact setReport_name (by omega) (by omega)

/-- **The round trip of a name through a buffer that holds it** succeeds and changes nothing iff the
buffer is shorter than the full report, whose 64 bytes `writeDeviceName` refuses. -/
theorem name_report_iff (wire : WireForm) {ch : ControlChannel} (hch : ch.Up) (name : DeviceName)
    (inherited : U32 × Option (List U8)) (inherited' : U32) (mem : List U8) (hlo : 2 ≤ mem.length)
    (hhi : mem.length ≤ 65) (hfits : name.bytes.length + 1 ≤ mem.length) (options : U32)
    (hoptions : (options &&& 0xff#32).setWidth 8 = nameReportId)
    {looks : List (List (List U8))} (hlooks : Answered (wire.bytes name.payload) looks)
    (r : NameResp) :
    RoundTrips wire ch name inherited inherited' mem options looks r ↔ mem.length ≤ 64 := by
  obtain ⟨hret, hreport⟩ :=
    getReport_reply hch (wire.length_le name.payload) hlooks r inherited mem hhi hoptions
  rw [wire.padded] at hreport
  have hpos := name.length_pos
  have hlen : (name.payload.val.take (mem.length - 1)).length = mem.length - 1 := by
    rw [List.length_take, name.payload.property]
    omega
  rw [RoundTrips]
  simp only [hret, hreport, setReport_take inherited' hlo hhi, true_and]
  constructor
  · rintro ⟨hok, -⟩
    by_contra hlong
    have hbad : (name.payload.val.take (mem.length - 1)).length = 0 ∨
        63 < (name.payload.val.take (mem.length - 1)).length := by omega
    rw [writeDeviceName, if_pos hbad] at hok
    exact absurd hok (by decide)
  · intro hshort
    rw [writeDeviceName_of_le hch (by omega) (by omega)]
    refine ⟨rfl, Subtype.ext ?_⟩
    refine (deviceRequest_set wire name.payload (by omega)).trans ?_
    exact padTo_take (by omega) (by omega)

/-- Two letters. -/
def shortDeviceName : DeviceName := ⟨[0x42, 0x6F], by decide, by decide, by decide⟩

/-- A channel that is up. -/
def channelUp : ControlChannel := ⟨true, true, false⟩

theorem up_channelUp : channelUp.Up := ⟨rfl, rfl, rfl⟩

/-- The reply comes before the first look. -/
theorem answered_at_once (name : List U8) : Answered name [[nameReply name]] where
  only := by simp
  inTime := ⟨_, List.mem_singleton_self _, List.mem_singleton_self _⟩

theorem name_report_iff_short :
    RoundTrips verbatim channelUp shortDeviceName (kIOReturnNoDevice, none) kIOReturnNoDevice
      (List.replicate 64 0#8) 0x55#32 [[nameReply shortDeviceName.payload.val]] noResp :=
  (name_report_iff verbatim up_channelUp shortDeviceName (kIOReturnNoDevice, none)
    kIOReturnNoDevice (List.replicate 64 0#8) (by decide) (by decide) (by decide) 0x55#32
    (by decide) (answered_at_once shortDeviceName.payload.val) noResp).mpr (by decide)

/-- The full report is refused when it comes back. -/
theorem not_roundTrips_full :
    ¬ RoundTrips verbatim channelUp shortDeviceName (kIOReturnNoDevice, none) kIOReturnNoDevice
      (List.replicate 65 0#8) 0x55#32 [[nameReply shortDeviceName.payload.val]] noResp := by
  have hreport := (getReport_reply up_channelUp (verbatim.length_le shortDeviceName.payload)
    (answered_at_once shortDeviceName.payload.val) noResp (kIOReturnNoDevice, none)
    (List.replicate 65 0#8) (by decide) (show (0x55#32 &&& 0xff#32).setWidth 8 = _ by decide)).2
  rintro ⟨-, hok, -⟩
  rw [hreport] at hok
  exact absurd hok (by decide)

end MagicTrackpad
