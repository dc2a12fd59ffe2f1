import MagicTrackpad.Frame
import MagicTrackpad.Lib.History

/-!
# The multitouch enable (`kext-gesture/MT2BTReader.cpp`, `interposeTimerFired`)

A Bluetooth trackpad streams multitouch only after the 0xF1 enable on its control channel. The
control reader's timer sends it until the first frame of the connection has come, and from then on
polls the battery. Two globals carry that over from the interrupt reader: a control setup bumps
`gConnId`, and the first frame of an interrupt reader copies it to `gSteadyConn`. Only the first:
the copy stands behind the reader's own `fStreaming`.

`btStep` takes the two readers through setups, frames, ticks and stops in any order. `gConnId` is an
integer that does not wrap.

* `EnableInv`: the state in terms of the history. `gSteadyConn` is `gConnId` iff since the latest
  control setup a frame came that was the first of its interrupt reader.
* `enable_iff_no_first_frame`: so a tick sends the enable iff no such frame came.
* `enable_correct_iff`: which is what it should do iff a frame that came since was the first of its
  reader, if one came at all.
* `reopened_control_enables_forever`: a control channel opened anew beside an interrupt reader that
  streams already is enabled on and on.
-/

namespace MagicTrackpad

open Lib

/-! ## The readers -/

/-- The fields of the reader on PSM 0x13. -/
structure InterruptReader where
  fStreaming : Bool
  deriving DecidableEq, Repr

/-- The fields of the reader on PSM 0x11. -/
structure ControlReader where
  fReEnableCount : Int
  deriving DecidableEq, Repr

/-- The live readers and the globals they share. -/
structure BtReaders where
  gConnId : Int
  gSteadyConn : Int
  /-- `gCtrlInterposedChannel` is set. -/
  ctrlInterposed : Bool
  interrupt : Option InterruptReader
  control : Option ControlReader
  deriving DecidableEq, Repr

/-- The kext is loaded. -/
def BtReaders.start : BtReaders := ⟨0, -1, false, none, none⟩

/-- What can happen. -/
inductive BtEvent
  /-- A fresh reader is set up on PSM 0x11. -/
  | controlSetup
  /-- A fresh reader is set up on PSM 0x13. -/
  | interruptSetup
  /-- The live interrupt reader is given a frame that `mt2_bt_decode` accepts. -/
  | frame
  /-- The timer of the live control reader fires; `spliced` says whether an interpose succeeds. -/
  | tick (spliced : Bool)
  | controlStop
  | interruptStop
  deriving DecidableEq, Repr

/-- What a reader does on the control channel and to its timer. -/
inductive BtAction
  | sendTo (payload : List U8)
  | controlInterpose
  | setTimeoutMS (ms : Nat)
  deriving DecidableEq, Repr

/-- `kEnable`. -/
def kEnable : List U8 := [0x53#8, 0xF1#8, 0x02#8, 0x01#8]

/-- `kGetBattery`. -/
def kGetBattery : List U8 := [0x41#8, 0x90#8]

/-- `kSetProtocolReport`. -/
def kSetProtocolReport : List U8 := [0x71#8]

/-- `kSetIdle`. -/
def kSetIdle : List U8 := [0x90#8, 0x00#8]

/-- `incomingData` up to its hand-over to the mux. -/
def incomingFrame (s : BtReaders) : BtReaders :=
  match s.interrupt with
  | some reader =>
    if reader.fStreaming then s
    else
      { s with
        interrupt := some { reader with fStreaming := true }
        gSteadyConn := if s.gSteadyConn ≠ s.gConnId then s.gConnId else s.gSteadyConn }
  | none => s

/-- `interposeTimerFired`. -/
def interposeTimerFired (s : BtReaders) (reader : ControlReader) (spliced : Bool) :
    BtReaders × List BtAction :=
  if s.gSteadyConn ≠ s.gConnId then
    let count := reader.fReEnableCount + 1
    ({ s with control := some { reader with fReEnableCount := count } },
      [.sendTo kEnable, .setTimeoutMS (if count < 8 then 250 else 1000)])
  else
    let count := if 0 ≤ reader.fReEnableCount then -1 else reader.fReEnableCount
    ({ s with
        control := some { reader with fReEnableCount := count }
        ctrlInterposed := s.ctrlInterposed || spliced },
      (if s.ctrlInterposed then [] else [.controlInterpose]) ++
        [.sendTo kGetBattery, .setTimeoutMS 30000])

/-- One event. -/
def btStep : Transducer BtReaders BtEvent BtAction
  | s, .controlSetup =>
    ({ s with gConnId := s.gConnId + 1, control := some ⟨0⟩ },
      [.sendTo kSetProtocolReport, .sendTo kSetIdle, .setTimeoutMS 100])
  | s, .interruptSetup => ({ s with interrupt := some ⟨false⟩ }, [])
  | s, .frame => (incomingFrame s, [])
  | s, .tick spliced =>
    match s.control with
    | some reader => interposeTimerFired s reader spliced
    | none => (s, [])
  | s, .controlStop => ({ s with control := none, ctrlInterposed := false }, [])
  | s, .interruptStop => ({ s with interrupt := none, ctrlInterposed := false }, [])

/-- The readers after a history. -/
def readersAfter (es : List BtEvent) : BtReaders := (Transducer.run btStep .start es).1

/-! ## The history -/

/-- An interrupt reader is live. -/
def InterruptLive (es : List BtEvent) : Prop :=
  Since (fun _ e => e = .interruptSetup) (fun e => e ≠ .interruptStop) es

/-- The live interrupt reader has had no frame. -/
def InterruptFresh (es : List BtEvent) : Prop :=
  Since (fun _ e => e = .interruptSetup) (fun e => e ≠ .interruptStop ∧ e ≠ .frame) es

/-- A frame was processed since the latest control setup. -/
def FrameSince (es : List BtEvent) : Prop :=
  Since (fun before e => e = .frame ∧ InterruptLive before) (fun e => e ≠ .controlSetup) es

/-- And it was the first of its interrupt reader. -/
def FirstFrameSince (es : List BtEvent) : Prop :=
  Since (fun before e => e = .frame ∧ InterruptFresh before) (fun e => e ≠ .controlSetup) es

theorem interruptLive_concat (es : List BtEvent) (e : BtEvent) : InterruptLive (es ++ [e]) ↔
    e = .interruptSetup ∨ (InterruptLive es ∧ e ≠ .interruptStop) :=
  since_concat _ _ es e

theorem interruptFresh_concat (es : List BtEvent) (e : BtEvent) : InterruptFresh (es ++ [e]) ↔
    e = .interruptSetup ∨ (InterruptFresh es ∧ e ≠ .interruptStop ∧ e ≠ .frame) :=
  since_concat _ _ es e

theorem firstFrameSince_concat (es : List BtEvent) (e : BtEvent) : FirstFrameSince (es ++ [e]) ↔
    (e = .frame ∧ InterruptFresh es) ∨ (FirstFrameSince es ∧ e ≠ .controlSetup) :=
  since_concat _ _ es e

theorem FirstFrameSince.frameSince {es : List BtEvent} (h : FirstFrameSince es) : FrameSince es :=
  h.mono (fun _ _ hfresh => ⟨hfresh.1, hfresh.2.mono (fun _ _ he => he) fun _ he => he.1⟩)
    fun _ he => he

/-! ## The invariant -/

/-- The state of the readers in terms of the history. -/
structure EnableInv (es : List BtEvent) (s : BtReaders) : Prop where
  live : s.interrupt ≠ none ↔ InterruptLive es
  fresh : s.interrupt = some ⟨false⟩ ↔ InterruptFresh es
  steady : s.gSteadyConn = s.gConnId ↔ FirstFrameSince es
  /-- No connection is steady before it is set up. -/
  steady_le : s.gSteadyConn ≤ s.gConnId

theorem enableInv_start : EnableInv [] .start where
  live := iff_of_false (fun h => h rfl) (not_since_nil _ _)
  fresh := iff_of_false (fun h => by cases h) (not_since_nil _ _)
  steady := iff_of_false (fun h => by cases h) (not_since_nil _ _)
  steady_le := by decide

/-- An event that leaves the interrupt reader and the two ids alone. -/
theorem EnableInv.other {es : List BtEvent} {s t : BtReaders} (hs : EnableInv es s) {e : BtEvent}
    (he : e ≠ .interruptSetup ∧ e ≠ .interruptStop ∧ e ≠ .frame ∧ e ≠ .controlSetup)
    (ht : t.interrupt = s.interrupt ∧ t.gConnId = s.gConnId ∧ t.gSteadyConn = s.gSteadyConn) :
    EnableInv (es ++ [e]) t := by
  obtain ⟨hsetup, hstop, hframe, hcontrol⟩ := he
  obtain ⟨hint, hconn, hsteady⟩ := ht
  constructor
  · rw [hint, hs.live, interruptLive_concat]
    simp [hsetup, hstop]
  · rw [hint, hs.fresh, interruptFresh_concat]
    simp [hsetup, hstop, hframe]
  · rw [hsteady, hconn, hs.steady, firstFrameSince_concat]
    simp [hframe, hcontrol]
  · rw [hsteady, hconn]
    exact hs.steady_le

/-- **A control setup**: the id moves past every steady one. -/
theorem EnableInv.controlSetup {es : List BtEvent} {s : BtReaders} (hs : EnableInv es s) :
    EnableInv (es ++ [.controlSetup]) (btStep s .controlSetup).1 := by
  have hle := hs.steady_le
  constructor
  · rw [interruptLive_concat, ← hs.live]
    simp [btStep]
  · rw [interruptFresh_concat, ← hs.fresh]
    simp [btStep]
  · rw [firstFrameSince_concat]
    refine iff_of_false ?_ (by simp)
    show s.gSteadyConn ≠ s.gConnId + 1
    omega
  · show s.gSteadyConn ≤ s.gConnId + 1
    omega

/-- **A frame**: the first of its reader makes the connection steady, any other changes nothing. -/
theorem EnableInv.frame {es : List BtEvent} {s : BtReaders} (hs : EnableInv es s) :
    EnableInv (es ++ [.frame]) (incomingFrame s) := by
  have hfresh : ¬ InterruptFresh (es ++ [.frame]) := by
    rw [interruptFresh_concat]
    simp
  by_cases hreader : s.interrupt = some ⟨false⟩
  · have hstep : incomingFrame s =
        { s with interrupt := some ⟨true⟩, gSteadyConn := s.gConnId } := by
      simp only [incomingFrame, hreader]
      by_cases hsteady : s.gSteadyConn = s.gConnId
      · simp [hsteady]
      · simp [hsteady]
    rw [hstep]
    refine ⟨?_, iff_of_false (by simp) hfresh, iff_of_true rfl ?_, Int.le_refl _⟩
    · rw [interruptLive_concat, ← hs.live, hreader]
      simp
    · exact (firstFrameSince_concat es .frame).mpr (.inl ⟨rfl, hs.fresh.mp hreader⟩)
  · have hstep : incomingFrame s = s := by
      unfold incomingFrame
      cases hint : s.interrupt with
      | none => rfl
      | some reader =>
        obtain ⟨streaming⟩ := reader
        cases streaming with
        | false => exact absurd hint hreader
        | true => rfl
    have hstale : ¬ InterruptFresh es := fun h => hreader (hs.fresh.mpr h)
    rw [hstep]
    refine ⟨?_, iff_of_false hreader hfresh, ?_, hs.steady_le⟩
    · rw [interruptLive_concat, ← hs.live]
      simp
    · rw [firstFrameSince_concat, ← hs.steady]
      simp [hstale]

/-- A tick leaves the interrupt reader and the two ids alone. -/
theorem tick_spec (s : BtReaders) (spliced : Bool) :
    let t := (btStep s (.tick spliced)).1
    t.interrupt = s.interrupt ∧ t.gConnId = s.gConnId ∧ t.gSteadyConn = s.gSteadyConn := by
  simp only [btStep]
  cases s.control with
  | none => exact ⟨rfl, rfl, rfl⟩
  | some reader =>
    simp only [interposeTimerFired]
    split
    · exact ⟨rfl, rfl, rfl⟩
    · exact ⟨rfl, rfl, rfl⟩

/-- The interrupt channel comes or goes: nothing it has said counts any more. -/
theorem EnableInv.interrupt {es : List BtEvent} {s : BtReaders} (hs : EnableInv es s) {e : BtEvent}
    (he : e = .interruptSetup ∨ e = .interruptStop) : EnableInv (es ++ [e]) (btStep s e).1 := by
  rcases he with rfl | rfl
  all_goals
    refine ⟨?_, ?_, ?_, hs.steady_le⟩
    · rw [interruptLive_concat]
      simp [btStep]
    · rw [interruptFresh_concat]
      simp [btStep]
    · rw [firstFrameSince_concat, ← hs.steady]
      simp [btStep]

theorem enableInv_btStep {es : List BtEvent} {s : BtReaders} (hs : EnableInv es s) (e : BtEvent) :
    EnableInv (es ++ [e]) (btStep s e).1 := by
  cases e with
  | controlSetup => exact hs.controlSetup
  | interruptSetup => exact hs.interrupt (.inl rfl)
  | frame => exact hs.frame
  | tick spliced => exact hs.other ⟨nofun, nofun, nofun, nofun⟩ (tick_spec s spliced)
  | controlStop => exact hs.other ⟨nofun, nofun, nofun, nofun⟩ ⟨rfl, rfl, rfl⟩
  | interruptStop => exact hs.interrupt (.inr rfl)

theorem enableInv_readersAfter (es : List BtEvent) : EnableInv es (readersAfter es) :=
  Transducer.run_history_induction btStep (I := EnableInv) enableInv_start
    (fun _ _ e hs => enableInv_btStep hs e) es

/-! ## The tick -/

/-- The tick sends the enable. -/
def SendsEnable (es : List BtEvent) (spliced : Bool) : Prop :=
  .sendTo kEnable ∈ (btStep (readersAfter es) (.tick spliced)).2

/-- **The enable follows the first frames**: a tick sends it iff no frame that was the first of its
interrupt reader was processed since the latest control setup. -/
theorem enable_iff_no_first_frame {es : List BtEvent} (hcontrol : (readersAfter es).control ≠ none)
    (spliced : Bool) : SendsEnable es spliced ↔ ¬ FirstFrameSince es := by
  rw [← (enableInv_readersAfter es).steady, SendsEnable]
  generalize readersAfter es = s at hcontrol ⊢
  cases hreader : s.control with
  | none => exact absurd hreader hcontrol
  | some reader =>
    simp only [btStep, hreader, interposeTimerFired]
    by_cases hsteady : s.gSteadyConn = s.gConnId
    · simp only [hsteady, ne_eq, not_true_eq_false, if_false]
      refine iff_of_false ?_ (by simp)
      cases s.ctrlInterposed <;> simp [kEnable, kGetBattery]
    · simp [hsteady]

/-- **The enable is right exactly when first frames stand for all**: in every history of setups,
frames, ticks and stops, a tick sends the enable iff no frame was processed since the latest control
setup, exactly if a frame processed since, when there is one, was the first of its interrupt
reader. -/
theorem enable_correct_iff (es : List BtEvent) (hcontrol : (readersAfter es).control ≠ none)
    (spliced : Bool) :
    (SendsEnable es spliced ↔ ¬ FrameSince es) ↔ (FrameSince es → FirstFrameSince es) := by
  rw [enable_iff_no_first_frame hcontrol, not_iff_not]
  exact ⟨Iff.mpr, fun h => ⟨FirstFrameSince.frameSince, h⟩⟩

/-- A connection comes up, and the enables stop at its first frame. -/
theorem enable_correct_iff_connects :
    ¬ SendsEnable [.controlSetup, .interruptSetup, .tick false, .frame] false := by
  have hfirst : FirstFrameSince [.controlSetup, .interruptSetup, .tick false, .frame] := by
    refine ⟨[.controlSetup, .interruptSetup, .tick false], .frame, [], rfl, ⟨rfl, ?_⟩, nofun⟩
    exact ⟨[.controlSetup], .interruptSetup, [.tick false], rfl, rfl, by simp⟩
  have hiff := (enable_correct_iff [.controlSetup, .interruptSetup, .tick false, .frame] nofun
    false).mpr fun _ => hfirst
  exact fun hsends => hiff.mp hsends hfirst.frameSince

/-- The control channel is opened anew while the interrupt reader streams: the frames that come do
not stop the enable. -/
theorem reopened_control_enables_forever :
    let es : List BtEvent := [.controlSetup, .interruptSetup, .frame, .controlSetup, .frame]
    (readersAfter es).control ≠ none ∧ ¬ (SendsEnable es false ↔ ¬ FrameSince es) := by
  refine ⟨nofun, fun h => ?_⟩
  have hsends : SendsEnable [.controlSetup, .interruptSetup, .frame, .controlSetup, .frame] false :=
    List.mem_cons_self
  refine h.mp hsends ?_
  refine ⟨[.controlSetup, .interruptSetup, .frame, .controlSetup], .frame, [], rfl, ⟨rfl, ?_⟩,
    nofun⟩
  exact ⟨[.controlSetup], .interruptSetup, [.frame, .controlSetup], rfl, rfl, by simp⟩

end MagicTrackpad
