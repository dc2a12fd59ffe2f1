import MagicTrackpad.Lib.History
import MagicTrackpad.Lib.Protocol
import MagicTrackpad.Wire.Stack

/-!
# The USB reader (`kext-gesture/MT2USBReader.cpp`)

`start` opens the interface of the trackpad, enables multitouch, and arms a read of the interrupt
pipe; the completion of a read hands its frame to the mux and arms the next. Unplugging the device
is `willTerminate` and then `stop`, either of which lets go of the interface, and `stop` of the
buffer. The IOKit calls are entries of a log, with what they answered.

* A read that was aborted is completed later, at any time (`owed`).
* The clients are those with the identifier of the mux, in the order of the iterator; they attach
  and detach by themselves. The reader keeps the first it finds (`fMux`), unretained, and nothing
  tells it when that one detaches.
* `usbRules` is what IOKit asks for: a read only of an open interface, into the buffer, with no
  other read under way; no call of the interface that is not open; the buffer let go of once, when
  no read fills it. `muxRules`: a message only to a client that is attached.
* `UsbMay` is what IOKit promises: one `start`, one completion for each read, a `stop` only of a
  reader that started.

Results:
* `usb_messages_iff`: the messages go to attached clients exactly if no frame is published while the
  mux that was found has left.
* `usb_obeys`: every run obeys the rules of the interface, and a reader whose start failed, or that
  was stopped, holds nothing.
* `usb_reads_iff`: a read is under way iff `start` armed one and since then every completion was a
  success and armed the next; one that was not ends the stream for good.
-/

namespace MagicTrackpad

open Lib

/-! ## The reader -/

/-- `MT2USBReader`; the pointers that are only tested are flags. -/
structure UsbReader where
  fIntf : Bool
  fPipe : Bool
  fBuf : Bool
  fMaxPacket : U32
  fStopping : Bool
  fMux : Option Addr

/-- A fresh object is zeroed. -/
def UsbReader.fresh : UsbReader := ⟨false, false, false, 0, false, none⟩

/-- `IOReturn` of a completion. -/
inductive UsbStatus
  | success
  | aborted
  | failed
  deriving DecidableEq

/-- A call of IOKit, or an event of it. -/
inductive UsbOp
  | openIntf (ok : Bool)
  | close
  | deviceRequest (payload : List U8)
  | allocBuf (capacity : U32) (ok : Bool)
  | read (length : U32) (ok : Bool)
  | abort
  | completed
  | readBytes (n : U32)
  | message (mux : Addr) (ev : VoodooInputEvent)
  | releaseBuf
  | attached (client : Addr)
  | detached (client : Addr)

/-- What IOKit answers in `start`: `IOService::start`, the cast of the provider, `open`,
`FindNextPipe` with the packet size, `withCapacity`, and the first `Read`. -/
structure UsbAnswers where
  super : Bool
  cast : Bool
  openIntf : Bool
  pipe : Option U32
  buffer : Bool
  read : Bool

/-- `fMaxPacket ? fMaxPacket : 64`. -/
def UsbReader.capacity (s : UsbReader) : U32 := if s.fMaxPacket ≠ 0 then s.fMaxPacket else 64#32

/-- `armRead`. -/
def armRead (s : UsbReader) (ok : Bool) : List UsbOp :=
  if s.fStopping || !s.fPipe || !s.fBuf then [] else [.read s.capacity ok]

/-- `payload` of the multitouch-enable. -/
def usbEnable : List U8 := [0x02#8, 0x01#8]

/-- `MT2USBReader::start`. -/
def usbStart (s : UsbReader) (a : UsbAnswers) : Bool × UsbReader × List UsbOp :=
  if !a.super then (false, s, [])
  else if !a.cast then (false, { s with fIntf := false }, [])
  else
    let s := { UsbReader.fresh with fIntf := true, fMux := s.fMux }
    if !a.openIntf then (false, s, [.openIntf false])
    else
      match a.pipe with
      | none => (false, s, [.openIntf true, .close])
      | some maxPacket =>
        let s := { s with fPipe := true, fMaxPacket := maxPacket }
        if !a.buffer then
          (false, s,
            [.openIntf true, .deviceRequest usbEnable, .allocBuf s.capacity false, .close])
        else
          let s := { s with fBuf := true, fMux := none }
          (true, s,
            [.openIntf true, .deviceRequest usbEnable, .allocBuf s.capacity true] ++
              armRead s a.read)

/-- A completion: its status, the bytes it left undone, what `buf` holds after the copy, the content
of the frame on the stack, whether there is an iterator over the clients, and what the next `Read`
answers. -/
structure UsbCompletion where
  status : UsbStatus
  remaining : U32
  buf : List U8
  tf : TouchFrame
  iterator : Bool
  read : Bool

/-- The mux that a completion finds. -/
def findMux (s : UsbReader) (clients : List Addr) (c : UsbCompletion) : Option Addr :=
  s.fMux.or (if c.iterator then clients.head? else none)

/-- `MT2USBReader::readComplete`; `readComplete` is the event it publishes. -/
def usbReadComplete (s : UsbReader) (clients : List Addr) (c : UsbCompletion) :
    UsbReader × List UsbOp :=
  if s.fStopping then (s, [])
  else if c.status = .success then
    let n := s.capacity - c.remaining
    if n ≠ 0 then
      let copied := UsbOp.readBytes (if 256#32 < n then 256#32 else n)
      match readComplete (c.buf.take n.toNat) c.tf with
      | some ev =>
        let s' := { s with fMux := findMux s clients c }
        (s', [copied] ++ (match s'.fMux with
          | some mux => [.message mux ev]
          | none => []) ++ armRead s' c.read)
      | none => (s, copied :: armRead s c.read)
    else (s, armRead s c.read)
  -- aborted, or logged as the end
  else (s, [])

/-- `releaseInterface`. -/
def releaseInterface (s : UsbReader) : UsbReader × List UsbOp :=
  ({ s with fStopping := true, fPipe := false, fMux := none, fIntf := false },
    (if s.fPipe then [.abort] else []) ++ if s.fIntf then [.close] else [])

/-- `MT2USBReader::stop`. -/
def usbStop (s : UsbReader) : UsbReader × List UsbOp :=
  let r := releaseInterface s
  ({ r.1 with fBuf := false }, r.2 ++ if r.1.fBuf then [.releaseBuf] else [])

/-! ## The reader in IOKit -/

/-- Where IOKit is with the reader. -/
inductive UsbPhase
  | fresh
  | failed
  | running
  | stopped
  deriving DecidableEq

/-- The reader, and what IOKit knows. -/
structure UsbWorld where
  reader : UsbReader
  phase : UsbPhase
  inFlight : Bool
  owed : Bool
  clients : List Addr

/-- The reader was matched. -/
def UsbWorld.fresh : UsbWorld := ⟨.fresh, .fresh, false, false, []⟩

/-- What can happen. -/
inductive UsbEvent
  | start (a : UsbAnswers)
  | complete (c : UsbCompletion)
  | willTerminate
  | stop
  | attach (client : Addr)
  | detach (client : Addr)

/-- The log armed a read. -/
def arms (log : List UsbOp) : Bool :=
  log.any fun op =>
    match op with
    | .read _ ok => ok
    | _ => false

/-- One event. -/
def usbStep : Transducer UsbWorld UsbEvent UsbOp
  | w, .start a =>
    let r := usbStart w.reader a
    ({ w with
        reader := r.2.1
        phase := if r.1 then .running else .failed
        inFlight := arms r.2.2 }, r.2.2)
  | w, .complete c =>
    let r := usbReadComplete w.reader w.clients c
    ({ w with
        reader := r.1
        inFlight := arms r.2
        -- an aborted read is completed after the abort
        owed := w.owed && w.inFlight }, .completed :: r.2)
  | w, .willTerminate =>
    let r := releaseInterface w.reader
    ({ w with reader := r.1, inFlight := false, owed := w.owed || w.inFlight }, r.2)
  | w, .stop =>
    let r := usbStop w.reader
    ({ w with
        reader := r.1
        phase := .stopped
        inFlight := false
        owed := w.owed || w.inFlight }, r.2)
  | w, .attach client => ({ w with clients := w.clients ++ [client] }, [.attached client])
  | w, .detach client =>
    ({ w with clients := w.clients.filter (· ≠ client) }, [.detached client])

/-- What IOKit promises. -/
def UsbMay (w : UsbWorld) : UsbEvent → Prop
  | .start _ => w.phase = .fresh
  | .complete _ => w.inFlight ∨ w.owed
  | .willTerminate => w.phase = .running ∨ w.phase = .stopped
  | .stop => w.phase = .running ∨ w.phase = .stopped
  | .attach _ => True
  | .detach _ => True

/-! ## The rules -/

/-- What the reader holds, and what it may rely on. -/
structure UsbHeld where
  opened : Bool
  buffer : Option U32
  inFlight : Bool
  owed : Bool

/-- Nothing at all. -/
def UsbHeld.nothing : UsbHeld := ⟨false, none, false, false⟩

/-- What may be done. -/
def usbRules : Protocol UsbHeld UsbOp
  | h, .openIntf ok => if h.opened = false then some { h with opened := ok } else none
  -- an interface is not closed under a read
  | h, .close => if h.opened ∧ h.inFlight = false then some { h with opened := false } else none
  | h, .deviceRequest _ => if h.opened then some h else none
  | h, .allocBuf capacity ok =>
    if h.buffer = none then some { h with buffer := if ok then some capacity else none } else none
  | h, .read length ok =>
    if h.opened ∧ h.inFlight = false ∧ ∃ capacity ∈ h.buffer, length ≤ capacity then
      some { h with inFlight := ok }
    else none
  | h, .abort =>
    if h.opened then some { h with inFlight := false, owed := h.owed || h.inFlight } else none
  -- a completion of no read would be an error of IOKit
  | h, .completed =>
    if h.inFlight then some { h with inFlight := false }
    else if h.owed then some { h with owed := false }
    else none
  -- `buf` holds 256 bytes; the transfer is over
  | h, .readBytes n =>
    if h.buffer ≠ none ∧ h.inFlight = false ∧ n ≤ 256#32 then some h else none
  | h, .releaseBuf =>
    if h.buffer ≠ none ∧ h.inFlight = false then some { h with buffer := none } else none
  | h, .message _ _ => some h
  | h, .attached _ => some h
  | h, .detached _ => some h

/-- Who may be sent a message: a client that is attached. -/
def muxRules : Protocol (List Addr) UsbOp
  | cs, .message mux _ => if mux ∈ cs then some cs else none
  | cs, .attached client => some (cs ++ [client])
  | cs, .detached client => some (cs.filter (· ≠ client))
  | cs, _ => some cs

/-- What is held fits the world. -/
structure UsbFits (w : UsbWorld) (h : UsbHeld) : Prop where
  inFlight : h.inFlight = w.inFlight
  owed : h.owed = w.owed
  buffer : h.buffer = if w.reader.fBuf then some w.reader.capacity else none
  /-- A reader that streams has all it needs. -/
  streams : w.phase = .running → w.reader.fStopping = false →
    h.opened ∧ w.reader.fIntf ∧ w.reader.fPipe ∧ w.reader.fBuf
  /-- Any other has let go of the interface. -/
  idle : (w.phase = .running → w.reader.fStopping) →
    h.opened = false ∧ w.inFlight = false
  /-- And IOKit will not ask it to, but where it has forgotten the pointers too. -/
  released : w.reader.fStopping → w.reader.fIntf = false ∧ w.reader.fPipe = false
  aborted : w.owed → w.reader.fStopping
  stopped : w.phase = .stopped → w.reader.fStopping
  empty : w.phase ≠ .running → w.reader.fBuf = false
  fresh : w.phase = .fresh → w.reader = .fresh

theorem usbFits_fresh : UsbFits .fresh .nothing where
  inFlight := rfl
  owed := rfl
  buffer := rfl
  streams := nofun
  idle := fun _ => ⟨rfl, rfl⟩
  released := fun _ => ⟨rfl, rfl⟩
  aborted := nofun
  stopped := nofun
  empty := fun _ => rfl
  fresh := fun _ => rfl

/-! ## One call -/

theorem arms_append (log log' : List UsbOp) : arms (log ++ log') = (arms log || arms log') :=
  List.any_append

/-- A start that failed holds nothing. -/
theorem UsbFits.failed {w : UsbWorld} {h : UsbHeld} (hw : UsbFits w h) (hphase : w.phase = .fresh)
    {s : UsbReader} (hs : s.fBuf = false ∧ s.fStopping = false) :
    UsbFits { w with reader := s, phase := .failed, inFlight := false } h := by
  obtain ⟨hbuf, hstop⟩ := hs
  obtain ⟨hopened, hflight⟩ := hw.idle (by rw [hphase]; nofun)
  constructor
  case inFlight => exact hw.inFlight.trans hflight
  case owed => exact hw.owed
  case buffer => rw [hw.buffer, hw.fresh hphase, hbuf]; rfl
  case streams => nofun
  case idle => exact fun _ => ⟨hopened, rfl⟩
  case released => rw [hstop]; nofun
  case aborted =>
    intro howed
    have hstopping := hw.aborted howed
    rw [hw.fresh hphase] at hstopping
    exact absurd hstopping Bool.false_ne_true
  case stopped => nofun
  case empty => exact fun _ => hbuf
  case fresh => nofun

/-- **What a start can do**: it fails, and has closed what it opened; or it arms a read. -/
theorem usbStart_cases (a : UsbAnswers) :
    (∃ s log, usbStart .fresh a = (false, s, log) ∧
      (s.fBuf = false ∧ s.fStopping = false) ∧ arms log = false ∧
      ∀ owed, Protocol.obeys usbRules ⟨false, none, false, owed⟩ log =
        some ⟨false, none, false, owed⟩) ∨
    ∃ s : UsbReader, s = ⟨true, true, true, s.fMaxPacket, false, none⟩ ∧
      usbStart .fresh a = (true, s,
        [.openIntf true, .deviceRequest usbEnable, .allocBuf s.capacity true,
          .read s.capacity a.read]) := by
  obtain ⟨super, cast, openIntf, pipe, buffer, read⟩ := a
  cases super with
  | false => exact .inl ⟨_, _, rfl, ⟨rfl, rfl⟩, rfl, fun _ => rfl⟩
  | true =>
    cases cast with
    | false => exact .inl ⟨_, _, rfl, ⟨rfl, rfl⟩, rfl, fun _ => rfl⟩
    | true =>
      cases openIntf with
      | false => exact .inl ⟨_, _, rfl, ⟨rfl, rfl⟩, rfl, fun _ => rfl⟩
      | true =>
        cases pipe with
        | none => exact .inl ⟨_, _, rfl, ⟨rfl, rfl⟩, rfl, fun _ => rfl⟩
        | some maxPacket =>
          cases buffer with
          | false => exact .inl ⟨_, _, rfl, ⟨rfl, rfl⟩, rfl, fun _ => rfl⟩
          | true => exact .inr ⟨⟨true, true, true, maxPacket, false, none⟩, rfl, rfl⟩

/-- **The start.** -/
theorem usbStart_obeys {w : UsbWorld} {h : UsbHeld} (hw : UsbFits w h) (hphase : w.phase = .fresh)
    (a : UsbAnswers) : ∃ h', Protocol.obeys usbRules h (usbStep w (.start a)).2 = some h' ∧
      UsbFits (usbStep w (.start a)).1 h' := by
  have hreader := hw.fresh hphase
  obtain ⟨hopened, hflight⟩ := hw.idle (by rw [hphase]; nofun)
  have hbuffer : h.buffer = none := by
    rw [hw.buffer, hreader]
    rfl
  have hheld : h = ⟨false, none, false, h.owed⟩ :=
    calc h = ⟨h.opened, h.buffer, h.inFlight, h.owed⟩ := rfl
      _ = ⟨false, none, false, h.owed⟩ := by
        rw [hopened, hbuffer, hw.inFlight, hflight]
  simp only [usbStep, hreader]
  rcases usbStart_cases a with ⟨s, log, hstart, hs, harms, hobeys⟩ | ⟨s, hs, hstart⟩
  · simp only [hstart, harms]
    refine ⟨h, ?_, hw.failed hphase hs⟩
    rw [hheld]
    exact hobeys _
  · simp only [hstart]
    refine ⟨⟨true, some s.capacity, a.read, h.owed⟩, ?_, ?_⟩
    · rw [hheld]
      simp [Protocol.obeys, usbRules]
    · constructor
      case inFlight => simp [arms]
      case owed => exact hw.owed
      case buffer => rw [hs]; rfl
      case streams => rw [hs]; exact fun _ _ => ⟨rfl, rfl, rfl, rfl⟩
      case idle => rw [hs]; exact fun hstop => absurd (hstop rfl) Bool.false_ne_true
      case released => rw [hs]; exact fun hstop => absurd hstop Bool.false_ne_true
      case aborted =>
        intro howed
        have hstopping := hw.aborted howed
        rw [hreader] at hstopping
        exact absurd hstopping Bool.false_ne_true
      case stopped => exact fun hphase => by cases hphase
      case empty => exact fun hphase => absurd rfl hphase
      case fresh => exact fun hphase => by cases hphase

theorem rules_readBytes {h : UsbHeld} (hbuffer : h.buffer ≠ none) (hflight : h.inFlight = false)
    {n : U32} (hn : n ≤ 256#32) : usbRules h (.readBytes n) = some h :=
  if_pos ⟨hbuffer, hflight, hn⟩

/-- **What a completion does while the reader streams**: it copies the bytes, may send them on, and
arms the next read. -/
theorem usbReadComplete_success {s : UsbReader} (hpipe : s.fPipe) (hbuf : s.fBuf)
    (hstop : s.fStopping = false) {c : UsbCompletion} (hc : c.status = .success)
    (clients : List Addr) :
    ∃ mux log, usbReadComplete s clients c =
        ({ s with fMux := mux }, log ++ [.read s.capacity c.read]) ∧ arms log = false ∧
      ∀ h : UsbHeld, h.buffer ≠ none → h.inFlight = false →
        Protocol.obeys usbRules h log = some h := by
  have harm : ∀ mux, armRead { s with fMux := mux } c.read = [.read s.capacity c.read] := by
    intro mux
    simp only [armRead, hstop, hpipe, hbuf]
    rfl
  unfold usbReadComplete
  rw [if_neg (by rw [hstop]; exact Bool.false_ne_true), if_pos hc]
  have hcopied : (if 256#32 < s.capacity - c.remaining then 256#32
      else s.capacity - c.remaining) ≤ 256#32 := by
    split
    · exact BitVec.le_refl _
    · rwa [← BitVec.not_lt]
  by_cases hn : s.capacity - c.remaining ≠ 0
  · simp only [if_pos hn]
    cases hev : readComplete (c.buf.take (s.capacity - c.remaining).toNat) c.tf with
    | none =>
      refine ⟨s.fMux, [.readBytes _], congrArg _ (congrArg _ (harm s.fMux)), rfl, ?_⟩
      intro h hbuffer hflight
      simp only [Protocol.obeys, rules_readBytes hbuffer hflight hcopied, Option.bind_some]
    | some ev =>
      simp only [harm]
      refine ⟨findMux s clients c, _, rfl, ?_, fun h hbuffer hflight => ?_⟩
      · cases findMux s clients c <;> rfl
      · cases findMux s clients c with
        | none =>
          simp only [Protocol.obeys, rules_readBytes hbuffer hflight hcopied, Option.bind_some,
            List.append_nil]
        | some mux =>
          have hmessage : usbRules h (.message mux ev) = some h := rfl
          simp only [List.singleton_append, Protocol.obeys,
            rules_readBytes hbuffer hflight hcopied, Option.bind_some, hmessage]
  · simp only [if_neg hn]
    exact ⟨s.fMux, [], congrArg _ (harm s.fMux), rfl, fun _ _ _ => rfl⟩

theorem rules_completed {h : UsbHeld} (hread : h.inFlight = true ∨ h.owed = true) :
    usbRules h .completed =
      some { h with inFlight := false, owed := h.owed && h.inFlight } := by
  obtain ⟨opened, buffer, inFlight, owed⟩ := h
  cases inFlight with
  | true => simp [usbRules]
  | false =>
    have howed : owed = true := hread.resolve_left Bool.false_ne_true
    simp [usbRules, howed]

/-- A read under way is one of a reader that streams. -/
theorem UsbFits.streaming {w : UsbWorld} {h : UsbHeld} (hw : UsbFits w h)
    (hflight : w.inFlight = true) : w.phase = .running ∧ w.reader.fStopping = false := by
  by_cases hidle : w.phase = .running → w.reader.fStopping = true
  · rw [(hw.idle hidle).2] at hflight
    exact absurd hflight Bool.false_ne_true
  · obtain ⟨hrun, hstop⟩ := Classical.not_imp.mp hidle
    exact ⟨hrun, Bool.eq_false_iff.mpr hstop⟩

/-- The read is over. -/
theorem UsbFits.taken {w : UsbWorld} {h : UsbHeld} (hw : UsbFits w h) :
    UsbFits { w with inFlight := false, owed := w.owed && w.inFlight }
      { h with inFlight := false, owed := h.owed && h.inFlight } where
  inFlight := rfl
  owed := by rw [hw.owed, hw.inFlight]
  buffer := hw.buffer
  streams := hw.streams
  idle := fun hidle => ⟨(hw.idle hidle).1, rfl⟩
  released := hw.released
  aborted := fun howed => hw.aborted (Bool.and_eq_true_iff.mp howed).1
  stopped := hw.stopped
  empty := hw.empty
  fresh := hw.fresh

/-- The next one is under way. -/
theorem UsbFits.armed {w : UsbWorld} {h : UsbHeld} (hw : UsbFits w h) (hrun : w.phase = .running)
    (hstop : w.reader.fStopping = false) (mux : Option Addr) (ok : Bool) :
    UsbFits { w with reader := { w.reader with fMux := mux }, inFlight := ok }
      { h with inFlight := ok } where
  inFlight := rfl
  owed := hw.owed
  buffer := hw.buffer
  streams := hw.streams
  idle := fun hidle => absurd (hidle hrun) (by rw [hstop]; exact Bool.false_ne_true)
  released := hw.released
  aborted := hw.aborted
  stopped := hw.stopped
  empty := fun hempty => absurd hrun hempty
  fresh := fun hfresh => absurd (hrun.symm.trans hfresh) (by decide)

/-- **A completion.** -/
theorem usbComplete_obeys {w : UsbWorld} {h : UsbHeld} (hw : UsbFits w h) {c : UsbCompletion}
    (hmay : w.inFlight = true ∨ w.owed = true) :
    ∃ h', Protocol.obeys usbRules h (usbStep w (.complete c)).2 = some h' ∧
      UsbFits (usbStep w (.complete c)).1 h' := by
  have hcompleted := rules_completed (h := h) (by rwa [hw.inFlight, hw.owed])
  have hquiet : usbReadComplete w.reader w.clients c = (w.reader, []) →
      ∃ h', Protocol.obeys usbRules h (usbStep w (.complete c)).2 = some h' ∧
        UsbFits (usbStep w (.complete c)).1 h' := by
    intro hread
    simp only [usbStep, hread]
    refine ⟨_, ?_, hw.taken⟩
    simp only [Protocol.obeys, hcompleted, Option.bind_some]
  by_cases hflight : w.inFlight = true
  · obtain ⟨hrun, hstop⟩ := hw.streaming hflight
    obtain ⟨hopened, -, hpipe, hbuf⟩ := hw.streams hrun hstop
    have hbuffer : h.buffer = some w.reader.capacity := by rw [hw.buffer, if_pos hbuf]
    by_cases hc : c.status = .success
    · obtain ⟨mux, log, hread, harms, hobeys⟩ :=
        usbReadComplete_success hpipe hbuf hstop hc w.clients
      have hlog : arms (log ++ [.read w.reader.capacity c.read]) = c.read := by
        rw [arms_append, harms]
        simp [arms]
      have hcopied := hobeys { h with inFlight := false, owed := h.owed && h.inFlight }
        (by rw [hbuffer]; exact Option.some_ne_none _) rfl
      simp only [usbStep, hread, hlog]
      refine ⟨_, ?_, hw.taken.armed hrun hstop mux c.read⟩
      rw [Protocol.obeys, hcompleted, Option.bind_some, Protocol.obeys_append_of hcopied]
      simp [Protocol.obeys, usbRules, hopened, hbuffer]
    · refine hquiet ?_
      unfold usbReadComplete
      rw [if_neg (by rw [hstop]; exact Bool.false_ne_true), if_neg hc]
  · exact hquiet (if_pos (hw.aborted (hmay.resolve_left hflight)))

/-- **The interface is let go of**, and the read under way with it. -/
theorem releaseInterface_obeys {w : UsbWorld} {h : UsbHeld} (hw : UsbFits w h)
    (hphase : w.phase = .running ∨ w.phase = .stopped) :
    Protocol.obeys usbRules h (releaseInterface w.reader).2 =
        some { h with opened := false, inFlight := false, owed := h.owed || h.inFlight } ∧
      UsbFits { w with
          reader := (releaseInterface w.reader).1
          inFlight := false
          owed := w.owed || w.inFlight }
        { h with opened := false, inFlight := false, owed := h.owed || h.inFlight } := by
  constructor
  · by_cases hstop : w.reader.fStopping = true
    · obtain ⟨hintf, hpipe⟩ := hw.released hstop
      obtain ⟨hopened, hflight⟩ := hw.idle fun _ => hstop
      have hsame :
          { h with opened := false, inFlight := false, owed := h.owed || h.inFlight } = h :=
        calc
          _ = (⟨h.opened, h.buffer, h.inFlight, h.owed⟩ : UsbHeld) := by
            rw [hopened, hw.inFlight, hflight, Bool.or_false]
          _ = h := rfl
      rw [hsame]
      simp only [releaseInterface, hintf, hpipe]
      rfl
    · have hrun : w.phase = .running := hphase.resolve_right fun h => hstop (hw.stopped h)
      obtain ⟨hopened, hintf, hpipe, -⟩ := hw.streams hrun (Bool.eq_false_iff.mpr hstop)
      simp [releaseInterface, hintf, hpipe, Protocol.obeys, usbRules, hopened]
  · constructor
    case inFlight => rfl
    case owed => rw [hw.owed, hw.inFlight]
    case buffer => exact hw.buffer
    case streams => exact fun _ hgoes => by cases hgoes
    case idle => exact fun _ => ⟨rfl, rfl⟩
    case released => exact fun _ => ⟨rfl, rfl⟩
    case aborted => exact fun _ => rfl
    case stopped => exact fun _ => rfl
    case empty => exact hw.empty
    case fresh => rcases hphase with h | h <;> exact fun hfresh => by rw [h] at hfresh; cases hfresh

/-- **A stop lets go of the buffer too.** -/
theorem usbStop_obeys {w : UsbWorld} {h : UsbHeld} (hw : UsbFits w h)
    (hphase : w.phase = .running ∨ w.phase = .stopped) :
    ∃ h', Protocol.obeys usbRules h (usbStep w .stop).2 = some h' ∧
      UsbFits (usbStep w .stop).1 h' := by
  obtain ⟨hrelease, hfits⟩ := releaseInterface_obeys hw hphase
  refine ⟨⟨false, none, false, h.owed || h.inFlight⟩, ?_, ?_⟩
  · simp only [usbStep, usbStop]
    rw [Protocol.obeys_append_of hrelease]
    have hbuffer : h.buffer = if (releaseInterface w.reader).1.fBuf = true then
        some (releaseInterface w.reader).1.capacity else none := hfits.buffer
    by_cases hbuf : (releaseInterface w.reader).1.fBuf = true
    · rw [if_pos hbuf] at hbuffer ⊢
      simp [Protocol.obeys, usbRules, hbuffer]
    · rw [if_neg hbuf] at hbuffer ⊢
      simp [Protocol.obeys, hbuffer]
  · constructor
    case inFlight => rfl
    case owed => exact hfits.owed
    case buffer => rfl
    case streams => exact fun hphase => by cases hphase
    case idle => exact fun _ => ⟨rfl, rfl⟩
    case released => exact fun _ => ⟨rfl, rfl⟩
    case aborted => exact fun _ => rfl
    case stopped => exact fun _ => rfl
    case empty => exact fun _ => rfl
    case fresh => exact fun hphase => by cases hphase

theorem usbStep_obeys (w : UsbWorld) (h : UsbHeld) (e : UsbEvent) (hw : UsbFits w h)
    (hmay : UsbMay w e) : ∃ h', Protocol.obeys usbRules h (usbStep w e).2 = some h' ∧
      UsbFits (usbStep w e).1 h' := by
  cases e with
  | start a => exact usbStart_obeys hw hmay a
  | complete c => exact usbComplete_obeys hw hmay
  | willTerminate => exact ⟨_, releaseInterface_obeys hw hmay⟩
  | stop => exact usbStop_obeys hw hmay
  | attach client => exact ⟨h, rfl, { hw with }⟩
  | detach client => exact ⟨h, rfl, { hw with }⟩

/-! ## The messages -/

/-- The event that a completion publishes. -/
def published (s : UsbReader) (c : UsbCompletion) : Option VoodooInputEvent :=
  if s.fStopping = false ∧ c.status = .success ∧ s.capacity - c.remaining ≠ 0 then
    readComplete (c.buf.take (s.capacity - c.remaining).toNat) c.tf
  else none

/-- Where a frame is published, the mux that was found is still attached. -/
def MuxThere (w : UsbWorld) : UsbEvent → Prop
  | .complete c => published w.reader c ≠ none → ∀ m ∈ w.reader.fMux, m ∈ w.clients
  | _ => True

/-- A call that neither sends a message nor changes who is attached. -/
def UsbOp.quiet : UsbOp → Bool
  | .message _ _ => false
  | .attached _ => false
  | .detached _ => false
  | _ => true

theorem obeys_quiet {ops : List UsbOp} (hops : ops.all UsbOp.quiet = true) (cs : List Addr) :
    Protocol.obeys muxRules cs ops = some cs := by
  induction ops with
  | nil => rfl
  | cons op ops ih =>
    obtain ⟨hop, hrest⟩ := Bool.and_eq_true_iff.mp hops
    have hrule : muxRules cs op = some cs := by
      cases op with
      | message _ _ | attached _ | detached _ => exact absurd hop Bool.false_ne_true
      | _ => rfl
    rw [Protocol.obeys, hrule, Option.bind_some]
    exact ih hrest

theorem quiet_armRead (s : UsbReader) (ok : Bool) : (armRead s ok).all UsbOp.quiet = true := by
  unfold armRead
  split <;> rfl

theorem quiet_usbStart (s : UsbReader) (a : UsbAnswers) :
    (usbStart s a).2.2.all UsbOp.quiet = true := by
  obtain ⟨super, cast, openIntf, pipe, buffer, read⟩ := a
  cases super <;> cases cast <;> cases openIntf <;> cases pipe <;> cases buffer <;> rfl

theorem quiet_releaseInterface (s : UsbReader) :
    (releaseInterface s).2.all UsbOp.quiet = true := by
  simp only [releaseInterface]
  cases s.fPipe <;> cases s.fIntf <;> rfl

theorem quiet_usbStop (s : UsbReader) : (usbStop s).2.all UsbOp.quiet = true := by
  have hrelease := quiet_releaseInterface s
  unfold usbStop
  simp only
  rw [List.all_append, hrelease, Bool.true_and]
  split <;> rfl

/-- The messages of a completion. -/
def sent (s : UsbReader) (clients : List Addr) (c : UsbCompletion) : List UsbOp :=
  match published s c, findMux s clients c with
  | some ev, some mux => [.message mux ev]
  | _, _ => []

/-- **A completion sends the frame it publishes to the mux it finds**, and no other message. -/
theorem usbReadComplete_sent (s : UsbReader) (clients : List Addr) (c : UsbCompletion) :
    ∃ before after, before.all UsbOp.quiet = true ∧ after.all UsbOp.quiet = true ∧
      (usbReadComplete s clients c).2 = before ++ sent s clients c ++ after := by
  unfold usbReadComplete sent
  by_cases hstop : s.fStopping = true
  · have hpublished : published s c = none :=
      if_neg fun h => Bool.false_ne_true (h.1.symm.trans hstop)
    rw [if_pos hstop, hpublished]
    exact ⟨[], [], rfl, rfl, rfl⟩
  rw [if_neg hstop]
  by_cases hc : c.status = .success
  · rw [if_pos hc]
    by_cases hn : s.capacity - c.remaining ≠ 0
    · have hpublished : published s c =
          readComplete (c.buf.take (s.capacity - c.remaining).toNat) c.tf :=
        if_pos ⟨Bool.eq_false_iff.mpr hstop, hc, hn⟩
      rw [hpublished]
      simp only [if_pos hn]
      cases readComplete (c.buf.take (s.capacity - c.remaining).toNat) c.tf with
      | none => exact ⟨[.readBytes _], _, rfl, quiet_armRead s c.read, rfl⟩
      | some ev =>
        cases findMux s clients c with
        | none => exact ⟨[.readBytes _], _, rfl, quiet_armRead { s with fMux := none } c.read, rfl⟩
        | some mux =>
          exact ⟨[.readBytes _], _, rfl, quiet_armRead { s with fMux := some mux } c.read, rfl⟩
    · have hpublished : published s c = none := if_neg fun h => hn h.2.2
      rw [hpublished]
      simp only [if_neg hn]
      exact ⟨[], _, rfl, quiet_armRead s c.read, rfl⟩
  · have hpublished : published s c = none := if_neg fun h => hc h.2.1
    rw [if_neg hc, hpublished]
    exact ⟨[], [], rfl, rfl, rfl⟩

theorem obeys_complete (w : UsbWorld) (c : UsbCompletion) :
    Protocol.obeys muxRules w.clients (usbStep w (.complete c)).2 =
      Protocol.obeys muxRules w.clients (sent w.reader w.clients c) := by
  obtain ⟨before, after, hbefore, hafter, hlog⟩ := usbReadComplete_sent w.reader w.clients c
  have hquiet : (UsbOp.completed :: before).all UsbOp.quiet = true := hbefore
  simp only [usbStep, hlog]
  rw [List.append_assoc, ← List.cons_append,
    Protocol.obeys_append_of (obeys_quiet hquiet w.clients), Protocol.obeys_append]
  calc
    _ = (Protocol.obeys muxRules w.clients (sent w.reader w.clients c)).bind some :=
      Option.bind_congr fun cs _ => obeys_quiet hafter cs
    _ = _ := Option.bind_fun_some _

/-- The mux that a completion finds is attached, unless it was found before and has left. -/
theorem findMux_attached {s : UsbReader} {clients : List Addr} (hmux : ∀ m ∈ s.fMux, m ∈ clients)
    (c : UsbCompletion) : ∀ m ∈ findMux s clients c, m ∈ clients := by
  intro m hm
  unfold findMux at hm
  cases hold : s.fMux with
  | some old =>
    rw [hold, Option.some_or] at hm
    exact hmux m (hold.trans hm)
  | none =>
    rw [hold, Option.none_or] at hm
    split at hm
    · exact List.mem_of_head? hm
    · exact absurd hm (Option.not_mem_none m)

/-- **One event**, where the mux is there. -/
theorem messages_step {w : UsbWorld} {e : UsbEvent} (hthere : MuxThere w e) :
    Protocol.obeys muxRules w.clients (usbStep w e).2 = some (usbStep w e).1.clients := by
  cases e with
  | start a => exact obeys_quiet (quiet_usbStart w.reader a) w.clients
  | complete c =>
    rw [obeys_complete]
    unfold sent
    cases hev : published w.reader c with
    | none => rfl
    | some ev =>
      have hmux := hthere (by rw [hev]; exact Option.some_ne_none ev)
      cases hfind : findMux w.reader w.clients c with
      | none => rfl
      | some mux =>
        have hmem := findMux_attached hmux c mux hfind
        simp only [Protocol.obeys, muxRules, if_pos hmem, Option.bind_some]
        rfl
  | willTerminate => exact obeys_quiet (quiet_releaseInterface w.reader) w.clients
  | stop => exact obeys_quiet (quiet_usbStop w.reader) w.clients
  | attach client => rfl
  | detach client => rfl

/-- **And where it has left.** -/
theorem messages_missed {w : UsbWorld} {e : UsbEvent} (hgone : ¬MuxThere w e) :
    Protocol.obeys muxRules w.clients (usbStep w e).2 = none := by
  cases e with
  | complete c =>
    obtain ⟨hpublishes, hleft⟩ := Classical.not_imp.mp hgone
    obtain ⟨ev, hev⟩ := Option.ne_none_iff_exists'.mp hpublishes
    push Not at hleft
    obtain ⟨m, hm, hout⟩ := hleft
    have hfind : findMux w.reader w.clients c = some m := by
      rw [findMux, Option.mem_def.mp hm, Option.some_or]
    rw [obeys_complete, sent, hev, hfind]
    simp only [Protocol.obeys, muxRules, if_neg hout, Option.bind_none]
  | start a => exact absurd trivial hgone
  | willTerminate => exact absurd trivial hgone
  | stop => exact absurd trivial hgone
  | attach client => exact absurd trivial hgone
  | detach client => exact absurd trivial hgone

/-- **The messages go to who is there**: in every order of events at all, each goes to a client that
is attached, exactly if no frame is published while the mux that was found has left. -/
theorem usb_messages_iff (es : List UsbEvent) :
    (∃ cs, Protocol.obeys muxRules [] (Transducer.run usbStep .fresh es).2 = some cs ∧
        cs = (Transducer.run usbStep .fresh es).1.clients) ↔
      Transducer.Along usbStep MuxThere .fresh es := by
  have hfresh : ([] : List Addr) = UsbWorld.fresh.clients := rfl
  refine Protocol.obeys_run_iff (R := fun (w : UsbWorld) cs => cs = w.clients) ?_ ?_ hfresh
    (Transducer.along_true es)
  · rintro w _ e rfl _ hthere
    exact ⟨_, messages_step hthere, rfl⟩
  · rintro w _ e rfl _ hgone
    exact messages_missed hgone

/-- **The reader does with the interface what may be done**, in every order of completions,
termination, and clients that come and go: never two reads, none of an interface that is closed or
into a buffer that is gone, the interface closed once and the buffer let go of once. A reader whose
start failed holds nothing, nor does one that was stopped; one that is told of the termination has
let go of the interface. And each message goes to a client that is attached, exactly if no frame is
published while the mux that was found has left. -/
theorem usb_obeys {es : List UsbEvent} (hes : Transducer.Along usbStep UsbMay .fresh es) :
    (∃ h, Protocol.obeys usbRules .nothing (Transducer.run usbStep .fresh es).2 = some h ∧
      ((Transducer.run usbStep .fresh es).1.phase ≠ .running →
        h.opened = false ∧ h.buffer = none ∧ h.inFlight = false) ∧
      ((Transducer.run usbStep .fresh es).1.reader.fStopping →
        h.opened = false ∧ h.inFlight = false)) ∧
    ((∃ cs, Protocol.obeys muxRules [] (Transducer.run usbStep .fresh es).2 = some cs ∧
        cs = (Transducer.run usbStep .fresh es).1.clients) ↔
      Transducer.Along usbStep MuxThere .fresh es) := by
  obtain ⟨h, hobeys, hfits⟩ := Protocol.obeys_run usbStep_obeys usbFits_fresh hes
  refine ⟨⟨h, hobeys, fun hphase => ?_, fun hstop => ?_⟩, usb_messages_iff es⟩
  · obtain ⟨hopened, hflight⟩ := hfits.idle fun hrun => absurd hrun hphase
    refine ⟨hopened, ?_, hfits.inFlight.trans hflight⟩
    rw [hfits.buffer, hfits.empty hphase]
    rfl
  · obtain ⟨hopened, hflight⟩ := hfits.idle fun _ => hstop
    exact ⟨hopened, hfits.inFlight.trans hflight⟩

/-- A frame of one finger. -/
def usbFrame : List U8 := 0x02#8 :: List.replicate 63 0#8

/-- The device is plugged in, sends a frame, and is unplugged; the read under way is completed
last. -/
def unplugged : List UsbEvent :=
  [.start ⟨true, true, true, some 64#32, true, true⟩, .attach 7#64,
    .complete ⟨.success, 43#32, usbFrame, .zero, true, true⟩, .willTerminate, .stop,
    .detach 7#64, .complete ⟨.aborted, 64#32, [], .zero, true, true⟩]

theorem usb_obeys_unplugged :
    (∃ h, Protocol.obeys usbRules .nothing (Transducer.run usbStep .fresh unplugged).2 = some h ∧
      h.opened = false ∧ h.buffer = none ∧ h.inFlight = false) ∧
    ∃ cs, Protocol.obeys muxRules [] (Transducer.run usbStep .fresh unplugged).2 = some cs ∧
      cs = (Transducer.run usbStep .fresh unplugged).1.clients := by
  have hmay : Transducer.Along usbStep UsbMay .fresh unplugged :=
    ⟨rfl, trivial, .inl rfl, .inl rfl, .inl rfl, trivial, .inr rfl, trivial⟩
  have hthere : Transducer.Along usbStep MuxThere .fresh unplugged :=
    ⟨trivial, trivial, fun _ => nofun, trivial, trivial, trivial, fun h => absurd rfl h, trivial⟩
  obtain ⟨⟨h, hobeys, hholds, -⟩, hmessages⟩ := usb_obeys hmay
  exact ⟨⟨h, hobeys, hholds nofun⟩, hmessages.mpr hthere⟩

/-! ## The stream -/

/-- Every answer of a start is yes. -/
def UsbAnswers.yes (a : UsbAnswers) : Bool :=
  a.super && a.cast && a.openIntf && a.pipe.isSome && a.buffer && a.read

/-- A start that reads. -/
def UsbEvent.beginsReading : UsbEvent → Prop
  | .start a => a.yes
  | _ => False

/-- An event that does not end the stream. -/
def UsbEvent.keepsReading : UsbEvent → Prop
  | .complete c => c.status = .success ∧ c.read
  | .willTerminate => False
  | .stop => False
  | _ => True

theorem arms_usbStart (a : UsbAnswers) : arms (usbStart .fresh a).2.2 = a.yes := by
  obtain ⟨super, cast, openIntf, pipe, buffer, read⟩ := a
  cases super <;> cases cast <;> cases openIntf <;> cases pipe <;> cases buffer <;> cases read <;>
    rfl

/-- **One event of the stream.** -/
theorem reads_step {w : UsbWorld} {h : UsbHeld} (hw : UsbFits w h) {e : UsbEvent}
    (hmay : UsbMay w e) : (usbStep w e).1.inFlight = true ↔
      e.beginsReading ∨ (w.inFlight = true ∧ e.keepsReading) := by
  cases e with
  | start a =>
    have hphase : w.phase = .fresh := hmay
    have hidle := hw.idle (by rw [hphase]; nofun)
    simp [usbStep, hw.fresh hphase, arms_usbStart, UsbEvent.beginsReading, hidle.2]
  | complete c =>
    simp only [usbStep, UsbEvent.beginsReading, UsbEvent.keepsReading, false_or]
    by_cases hflight : w.inFlight = true
    · obtain ⟨hrun, hstop⟩ := hw.streaming hflight
      obtain ⟨-, -, hpipe, hbuf⟩ := hw.streams hrun hstop
      by_cases hc : c.status = .success
      · obtain ⟨mux, log, hread, harms, -⟩ :=
          usbReadComplete_success hpipe hbuf hstop hc w.clients
        rw [hread, arms_append, harms]
        simp [arms, hflight, hc]
      · have hread : usbReadComplete w.reader w.clients c = (w.reader, []) := by
          unfold usbReadComplete
          rw [if_neg (by rw [hstop]; exact Bool.false_ne_true), if_neg hc]
        rw [hread]
        simp [arms, hc]
    · have hread : usbReadComplete w.reader w.clients c = (w.reader, []) :=
        if_pos (hw.aborted (hmay.resolve_left hflight))
      rw [hread]
      simp [arms, hflight]
  | willTerminate => simp [usbStep, UsbEvent.beginsReading, UsbEvent.keepsReading]
  | stop => simp [usbStep, UsbEvent.beginsReading, UsbEvent.keepsReading]
  | attach client => simp [usbStep, UsbEvent.beginsReading, UsbEvent.keepsReading]
  | detach client => simp [usbStep, UsbEvent.beginsReading, UsbEvent.keepsReading]

/-- **The reader reads on until the first thing that goes wrong**: a read is under way iff `start`
armed one, and every event since was no completion, or a successful one whose next read was armed,
and no termination. -/
theorem usb_reads_iff {es : List UsbEvent} (hes : Transducer.Along usbStep UsbMay .fresh es) :
    (Transducer.run usbStep .fresh es).1.inFlight = true ↔
      Since (fun _ e => e.beginsReading) UsbEvent.keepsReading es := by
  induction es using List.reverseRecOn with
  | nil => exact iff_of_false Bool.false_ne_true (not_since_nil _ _)
  | append_singleton es e ih =>
    obtain ⟨hbefore, hlast⟩ := (Transducer.along_append _ _ _ es [e]).mp hes
    obtain ⟨h, -, hfits⟩ := Protocol.obeys_run usbStep_obeys usbFits_fresh hbefore
    rw [Transducer.run_concat, since_concat, ← ih hbefore]
    exact reads_step hfits hlast.1

/-- A completion that failed ends the stream, with the device still there. -/
theorem usb_reads_iff_stalled :
    ¬Since (fun _ e => e.beginsReading) UsbEvent.keepsReading
      [.start ⟨true, true, true, some 64#32, true, true⟩,
        .complete ⟨.failed, 64#32, [], .zero, true, true⟩] := by
  have hmay : Transducer.Along usbStep UsbMay .fresh
      [.start ⟨true, true, true, some 64#32, true, true⟩,
        .complete ⟨.failed, 64#32, [], .zero, true, true⟩] :=
    ⟨rfl, .inl rfl, trivial⟩
  exact fun hsince => absurd ((usb_reads_iff hmay).mpr hsince) Bool.false_ne_true

end MagicTrackpad
