import MagicTrackpad.Encode
import MagicTrackpad.Lib.Protocol

/-!
# The fabricated device (`kext-gesture/MavericksAMDTerminal.cpp`)

The terminal builds an `AppleMultitouchDevice` under the mux, with a HID shell beside it, feeds it
the session's frames, and tears it down (`src/mavericks_synth_teardown.c`). The IOKit calls are
entries of a log, with what they answered (`BuildAnswers`, any at all).

* A teardown is a sequence of stages. Frames, button edges, injected bytes and battery values may
  come between any two of them, each in one piece; `ready` is what keeps them away.
* The owner forgets the context in a stage of its own (`fSynth = 0`), after `IODelete`. It holds no
  lock there: `MavericksTerminalBackend::stop` only takes its lock and lets go of it before the
  teardown, and `publishBattery` takes none. In between, `fSynth` is `dangling`, and whoever goes by
  it reads memory that was given back (`readFreed`).
* `terminalRules` is what IOKit asks for, the contract of `mavericks_synth_teardown.h` among it: the
  fence is down before the device goes, and the workloop goes last; and no freed memory is read.

Results:
* `terminalBuild_obeys`: a build that fails gives back all it took, wherever it failed.
* `teardownStage_obeys`: one stage.
* `terminal_obeys_iff`: a run keeps the rules exactly if nobody goes by the context between
  `IODelete` and `fSynth = 0`.
* `value_reads_freed`: a battery value that comes there does.
-/

namespace MagicTrackpad

open Lib

/-- `mavericks_amd_terminal_ctx`: which of its pointers are set, and the fence. -/
structure TerminalCtx where
  shell : Bool
  amd : Bool
  wl : Bool
  bezelTimer : Bool
  ready : Bool
  deriving DecidableEq, Repr

/-- What IOKit answers in one build: whether each allocation or call succeeds. -/
structure BuildAnswers where
  ctx : Bool
  hid : Bool
  hidProps : Bool
  hidInit : Bool
  hidAttach : Bool
  hidStart : Bool
  amd : Bool
  isService : Bool
  props : Bool
  amdInit : Bool
  amdAttach : Bool
  amdStart : Bool
  workLoop : Bool
  timer : Bool

/-- A call of IOKit, with its answer. -/
inductive TermOp
  | newCtx (ok : Bool)
  | deleteCtx
  | newHid (ok : Bool)
  | newHidProps (ok : Bool)
  | initHid (ok : Bool)
  | attachHid (ok : Bool)
  | startHid (ok : Bool)
  | detachHid
  | terminateHid
  | releaseHid
  | releaseHidProps
  | allocAmd (ok : Bool)
  | newProps (ok : Bool)
  | releaseProps
  | initAmd (ok : Bool)
  | setHandlers
  | attachAmd (ok : Bool)
  | startAmd (ok : Bool)
  | registerService
  | detachAmd
  | terminateAmd
  | releaseAmd
  | retainWl (ok : Bool)
  | releaseWl
  | newTimer (ok : Bool)
  | cancelTimer
  | releaseTimer
  | raiseReady
  | clearReady
  | bezel (connected : Bool)
  | touchFrame (bytes : List U8)
  | pointer (mask : U32)
  | battery (pct : U8)
  /-- `ctx->ready` of a context that was deleted. -/
  | readFreed
  deriving DecidableEq

/-- The shell's part of the build: best-effort, it may be left out. -/
def buildShell (a : BuildAnswers) : Bool × List TermOp :=
  let made : List TermOp := [.newHid a.hid, .newHidProps a.hidProps]
  let dropHid : List TermOp := if a.hid then [.releaseHid] else []
  let dropProps : List TermOp := if a.hidProps then [.releaseHidProps] else []
  let tried (ops : List TermOp) := made ++ ops ++ dropProps
  if a.hid && a.hidProps then
    if a.hidInit then
      if a.hidAttach then
        if a.hidStart then (true, tried [.initHid true, .attachHid true, .startHid true])
        else
          (false, tried [.initHid true, .attachHid true, .startHid false, .detachHid, .releaseHid])
      else (false, tried [.initHid true, .attachHid false, .detachHid, .releaseHid])
    else (false, tried [.initHid false, .releaseHid])
  else (false, tried dropHid)

/-- The way out of the build where a step failed. -/
def buildFailed (shell : Bool) (log : List TermOp) : Option TerminalCtx × List TermOp :=
  (none, log ++ (if shell then [.terminateHid, .releaseHid] else []) ++ [.deleteCtx])

/-- The device's part, behind the shell's. -/
def buildDevice (a : BuildAnswers) (shell : Bool) (log : List TermOp) :
    Option TerminalCtx × List TermOp :=
  let fail (ops : List TermOp) := buildFailed shell (log ++ ops)
  if !a.amd then fail [.allocAmd false]
  else if !a.isService then fail [.allocAmd true, .releaseAmd]
  else if !a.props then fail [.allocAmd true, .newProps false, .releaseAmd]
  else if !a.amdInit then
    fail [.allocAmd true, .newProps true, .initAmd false, .releaseProps, .releaseAmd]
  else if !a.amdAttach then
    fail [.allocAmd true, .newProps true, .initAmd true, .releaseProps, .setHandlers,
      .attachAmd false, .releaseAmd]
  else if !a.amdStart then
    fail [.allocAmd true, .newProps true, .initAmd true, .releaseProps, .setHandlers,
      .attachAmd true, .startAmd false, .detachAmd, .releaseAmd]
  else
    let up : List TermOp :=
      [.allocAmd true, .newProps true, .initAmd true, .releaseProps, .setHandlers, .attachAmd true,
        .startAmd true, .registerService, .retainWl a.workLoop]
    let timer : List TermOp := if a.workLoop then [.newTimer a.timer] else []
    (some ⟨shell, true, a.workLoop, a.workLoop && a.timer, true⟩,
      log ++ (up ++ timer ++ [.raiseReady]))

/-- `mavericks_amd_terminal_build`: the context, `none` where it is NULL. -/
def terminalBuild (a : BuildAnswers) : Option TerminalCtx × List TermOp :=
  if !a.ctx then (none, [.newCtx false])
  else buildDevice a (buildShell a).1 (.newCtx true :: (buildShell a).2)

/-! ## The teardown -/

/-- `fSynth`, with what it points at. -/
inductive SynthPtr
  | null
  | live (c : TerminalCtx)
  /-- The context was deleted, and the owner has not forgotten it. -/
  | dangling
  deriving DecidableEq, Repr

/-- What a build returns. -/
def SynthPtr.ofBuild : Option TerminalCtx → SynthPtr
  | none => .null
  | some c => .live c

/-- `mavericks_synth_teardown_ops_t`: an op may be NULL. -/
structure SynthTeardownOps (α : Type) where
  clearReady : Option α
  termShell : Option α
  termAmd : Option α
  releaseAmd : Option α
  releaseWl : Option α

/-- `mavericks_synth_teardown_run`: the ops it calls, in order. -/
def synthTeardownRun {α : Type} : Option (SynthTeardownOps α) → List α
  | none => []
  | some ops =>
    ops.clearReady.toList ++ ops.termShell.toList ++ ops.termAmd.toList ++ ops.releaseAmd.toList ++
      ops.releaseWl.toList

/-- A stage of `mavericks_amd_terminal_teardown`. -/
inductive TeardownStage
  | timer
  | bezel
  | clearReady
  | termShell
  | termAmd
  | releaseAmd
  | releaseWl
  | deleteCtx
  deriving DecidableEq, Repr

/-- `mavericks_amd_terminal_teardown`, stage by stage: the timer and the OSD, then the ops of the
order contract, then the context. -/
def teardownStages : List TeardownStage :=
  let ops : SynthTeardownOps TeardownStage :=
    ⟨some .clearReady, some .termShell, some .termAmd, some .releaseAmd, some .releaseWl⟩
  .timer :: .bezel :: (synthTeardownRun (some ops) ++ [TeardownStage.deleteCtx])

/-- One stage; `op_clear_ready` and the other ops, with their guards. -/
def teardownStage (c : TerminalCtx) : TeardownStage → SynthPtr × List TermOp
  | .timer =>
    if c.bezelTimer then (.live { c with bezelTimer := false }, [.cancelTimer, .releaseTimer])
    else (.live c, [])
  | .bezel => (.live c, if c.amd then [.bezel false] else [])
  | .clearReady => (.live { c with ready := false }, [.clearReady])
  | .termShell =>
    if c.shell then (.live { c with shell := false }, [.terminateHid, .releaseHid])
    else (.live c, [])
  -- terminate() drives the stop and the detach itself
  | .termAmd => (.live c, if c.amd then [.terminateAmd] else [])
  | .releaseAmd =>
    if c.amd then (.live { c with amd := false }, [.releaseAmd]) else (.live c, [])
  | .releaseWl => if c.wl then (.live { c with wl := false }, [.releaseWl]) else (.live c, [])
  | .deleteCtx => (.dangling, [.deleteCtx])

/-! ## The terminal and its owner -/

/-- What the backend keeps: the context, what is left of a teardown that is under way, the last
battery value, and `debug.mt2_batt`. -/
structure Terminal where
  fSynth : SynthPtr
  pending : List TeardownStage
  fLastBattPct : Int
  battOverride : Int
  deriving DecidableEq, Repr

/-- Before the first build. -/
def Terminal.init : Terminal := ⟨.null, [], -1, -1⟩

/-- What can happen. `memory` is what the stack held. -/
inductive TerminalEvent
  | build (a : BuildAnswers)
  | teardown
  /-- The teardown under way goes one stage on; the last is `fSynth = 0`. -/
  | stage
  | feed (frame : TouchFrame) (timestamp : U32) (memory : Nat → U8)
  | button (mask : U32)
  | inject (bytes : List U8)
  /-- `number` is whether `OSNumber::withNumber` succeeds. -/
  | publishBattery (pct : U8) (number : Bool)
  | setOverride (value : Int)
  /-- The connect timer fires. -/
  | bezelFired

/-- `mavericks_amd_terminal_amd` is not NULL. -/
def Terminal.up (t : Terminal) : Bool :=
  match t.fSynth with
  | .live c => c.ready && c.amd
  | _ => false

/-- A call that goes by `mavericks_amd_terminal_amd`, with what it does where that is not NULL. -/
def Terminal.behindFence (t : Terminal) (ops : List TermOp) : List TermOp :=
  if t.fSynth = .dangling then [.readFreed] else if t.up then ops else []

/-- `mavericks_amd_terminal_feed`: the 512-byte buffer, and the report where it was built. -/
def terminalFeed (frame : TouchFrame) (timestamp : U32) (memory : Nat → U8) : List TermOp :=
  match constructReport (some frame) (some memory) 512 timestamp with
  | (n, some mt1) => if 0 < n then [.touchFrame ((List.range n.toNat).map mt1)] else []
  | (_, none) => []

/-- `publishBattery`, up to the value it goes by. -/
def Terminal.battValue (t : Terminal) (pct : U8) : U8 :=
  if 0 ≤ t.battOverride ∧ t.battOverride ≤ 100 then BitVec.ofInt 8 t.battOverride else pct

/-- `publishBattery`. -/
def publishBattery (t : Terminal) (pct : U8) (number : Bool) : Terminal × List TermOp :=
  let pct := t.battValue pct
  if 100 < pct.toNat then (t, [])
  else if (pct.toNat : Int) = t.fLastBattPct then (t, [])
  else
    (if t.up then { t with fLastBattPct := pct.toNat } else t,
      t.behindFence (if number then [.battery pct] else []))

/-- One event. -/
def terminalStep : Transducer Terminal TerminalEvent TermOp
  | t, .build a =>
    ({ t with fSynth := .ofBuild (terminalBuild a).1, fLastBattPct := -1 }, (terminalBuild a).2)
  | t, .teardown =>
    match t.fSynth with
    | .null => (t, [])
    | .live _ => ({ t with pending := teardownStages }, [])
    | .dangling => (t, [.readFreed])
  | t, .stage =>
    match t.fSynth, t.pending with
    | .live c, s :: rest =>
      ({ t with fSynth := (teardownStage c s).1, pending := rest }, (teardownStage c s).2)
    | .dangling, _ => ({ t with fSynth := .null }, [])
    | _, _ => (t, [])
  | t, .feed frame timestamp memory =>
    (t, t.behindFence (terminalFeed frame timestamp memory))
  | t, .button mask => (t, t.behindFence [.pointer mask])
  | t, .inject bytes => (t, t.behindFence [.touchFrame bytes])
  | t, .publishBattery pct number => publishBattery t pct number
  | t, .setOverride value => ({ t with battOverride := value }, [])
  | t, .bezelFired =>
    (t, match t.fSynth with
      | .live c => if c.bezelTimer then [.bezel true] else []
      | _ => [])

/-- The owner builds where it has no context, and tears one down once. -/
def OwnerCalls (t : Terminal) : TerminalEvent → Prop
  | .build _ => t.fSynth = .null
  | .teardown => t.pending = [] ∧ t.fSynth ≠ .dangling
  | _ => True

/-- The event goes by the context. -/
def Terminal.GoesBy (t : Terminal) : TerminalEvent → Prop
  | .feed _ _ _ => True
  | .button _ => True
  | .inject _ => True
  -- neither a value that is out of range nor the last one over again
  | .publishBattery pct _ =>
    (t.battValue pct).toNat ≤ 100 ∧ ((t.battValue pct).toNat : Int) ≠ t.fLastBattPct
  | _ => False

/-- Nobody goes by a context that was deleted. -/
def NotFreed (t : Terminal) (e : TerminalEvent) : Prop := t.GoesBy e → t.fSynth ≠ .dangling

/-! ## The rules -/

/-- How far a service has come. -/
inductive ServicePhase
  | absent
  | made
  | attached
  | started
  | terminated
  deriving DecidableEq, Repr

/-- What is held, and the fence. -/
structure TermHeld where
  ctx : Bool
  hid : ServicePhase
  hidProps : Bool
  amd : ServicePhase
  props : Bool
  wl : Bool
  timer : Bool
  ready : Bool
  deriving DecidableEq, Repr

/-- Nothing at all. -/
def TermHeld.nothing : TermHeld := ⟨false, .absent, false, .absent, false, false, false, false⟩

/-- What may be done. -/
def terminalRules : Protocol TermHeld TermOp
  | h, .newCtx ok => if h = .nothing then some { h with ctx := ok } else none
  -- nothing that the context points at is left
  | h, .deleteCtx => if h = { TermHeld.nothing with ctx := true } then some .nothing else none
  | h, .newHid ok =>
    if h.ctx ∧ h.hid = .absent then some { h with hid := if ok then .made else .absent } else none
  | h, .newHidProps ok => if h.hidProps = false then some { h with hidProps := ok } else none
  | h, .initHid _ => if h.hid = .made ∧ h.hidProps then some h else none
  | h, .attachHid ok =>
    if h.hid = .made then some { h with hid := if ok then .attached else .made } else none
  | h, .startHid ok =>
    if h.hid = .attached then some { h with hid := if ok then .started else .attached } else none
  -- detaching what is not attached does nothing
  | h, .detachHid =>
    if h.hid = .made ∨ h.hid = .attached then some { h with hid := .made } else none
  | h, .terminateHid => if h.hid = .started then some { h with hid := .terminated } else none
  | h, .releaseHid =>
    if h.hid = .made ∨ h.hid = .terminated then some { h with hid := .absent } else none
  | h, .releaseHidProps => if h.hidProps then some { h with hidProps := false } else none
  | h, .allocAmd ok =>
    if h.ctx ∧ h.amd = .absent then some { h with amd := if ok then .made else .absent } else none
  | h, .newProps ok => if h.props = false then some { h with props := ok } else none
  | h, .releaseProps => if h.props then some { h with props := false } else none
  | h, .initAmd _ => if h.amd = .made ∧ h.props then some h else none
  | h, .setHandlers => if h.ctx ∧ h.amd = .made then some h else none
  | h, .attachAmd ok =>
    if h.amd = .made then some { h with amd := if ok then .attached else .made } else none
  | h, .startAmd ok =>
    if h.amd = .attached then some { h with amd := if ok then .started else .attached } else none
  | h, .registerService => if h.amd = .started then some h else none
  | h, .detachAmd => if h.amd = .attached then some { h with amd := .made } else none
  -- the fence is down, and no timer is left whose owner the device is
  | h, .terminateAmd =>
    if h.amd = .started ∧ h.ready = false ∧ h.timer = false then
      some { h with amd := .terminated }
    else none
  | h, .releaseAmd =>
    if h.amd = .made ∨ h.amd = .terminated then some { h with amd := .absent } else none
  | h, .retainWl ok =>
    if h.amd = .started ∧ h.wl = false then some { h with wl := ok } else none
  -- the workloop goes last
  | h, .releaseWl =>
    if h.wl ∧ h.amd = .absent ∧ h.hid = .absent ∧ h.timer = false then some { h with wl := false }
    else none
  | h, .newTimer ok =>
    if h.wl ∧ h.amd = .started ∧ h.timer = false then some { h with timer := ok } else none
  | h, .cancelTimer => if h.wl ∧ h.timer then some h else none
  | h, .releaseTimer => if h.timer then some { h with timer := false } else none
  | h, .raiseReady => if h.amd = .started then some { h with ready := true } else none
  | h, .clearReady => if h.ctx then some { h with ready := false } else none
  | h, .bezel _ => if h.amd = .started then some h else none
  | h, .touchFrame _ => if h.amd = .started ∧ h.ready then some h else none
  | h, .pointer _ => if h.amd = .started ∧ h.ready then some h else none
  | h, .battery pct => if h.amd = .started ∧ h.ready ∧ pct.toNat ≤ 100 then some h else none
  | _, .readFreed => none

/-! ## The build -/

/-- The context, and the shell where there is one. -/
def shellHeld (shell : Bool) : TermHeld :=
  { TermHeld.nothing with ctx := true, hid := if shell then .started else .absent }

/-- The shell is started, or nothing is left of it. -/
theorem buildShell_obeys (a : BuildAnswers) :
    Protocol.obeys terminalRules (shellHeld false) (buildShell a).2 =
      some (shellHeld (buildShell a).1) := by
  unfold buildShell
  cases a.hid <;> cases a.hidProps <;> cases a.hidInit <;> cases a.hidAttach <;>
    cases a.hidStart <;> rfl

/-- A failed build that has given back the device gives back the rest. -/
theorem buildFailed_obeys {shell : Bool} {log : List TermOp}
    (h : Protocol.obeys terminalRules .nothing log = some (shellHeld shell)) :
    Protocol.obeys terminalRules .nothing (buildFailed shell log).2 = some .nothing := by
  unfold buildFailed
  rw [List.append_assoc, Protocol.obeys_append_of h]
  cases shell <;> rfl

/-- What a context that was built stands for. -/
def ctxHeld (c : TerminalCtx) (amd : ServicePhase) : TermHeld :=
  { ctx := true
    hid := if c.shell then .started else .absent
    hidProps := false
    amd := amd
    props := false
    wl := c.wl
    timer := c.bezelTimer
    ready := c.ready }

/-- A context that is up. -/
structure BuiltCtx (c : TerminalCtx) : Prop where
  amd : c.amd = true
  ready : c.ready = true
  timer : c.bezelTimer = true → c.wl = true

/-- What a build leaves: a context that is up, or nothing. -/
def BuildLeaves (r : Option TerminalCtx × List TermOp) : Prop :=
  match r.1 with
  | none => Protocol.obeys terminalRules .nothing r.2 = some .nothing
  | some c => BuiltCtx c ∧ Protocol.obeys terminalRules .nothing r.2 = some (ctxHeld c .started)

theorem buildDevice_obeys (a : BuildAnswers) {shell : Bool} {log : List TermOp}
    (hlog : Protocol.obeys terminalRules .nothing log = some (shellHeld shell)) :
    BuildLeaves (buildDevice a shell log) := by
  -- the ops on the device come after the shell's
  have hthen : ∀ {ops : List TermOp} {h : TermHeld},
      Protocol.obeys terminalRules (shellHeld shell) ops = some h →
      Protocol.obeys terminalRules .nothing (log ++ ops) = some h :=
    fun hops => (Protocol.obeys_append_of hlog _).trans hops
  have hfailed : ∀ {ops : List TermOp},
      Protocol.obeys terminalRules (shellHeld shell) ops = some (shellHeld shell) →
      BuildLeaves (buildFailed shell (log ++ ops)) :=
    fun hops => buildFailed_obeys (hthen hops)
  unfold buildDevice
  split_ifs
  · exact hfailed (by cases shell <;> rfl)
  · exact hfailed (by cases shell <;> rfl)
  · exact hfailed (by cases shell <;> rfl)
  · exact hfailed (by cases shell <;> rfl)
  · exact hfailed (by cases shell <;> rfl)
  · exact hfailed (by cases shell <;> rfl)
  · refine ⟨⟨rfl, rfl, fun h => (Bool.and_eq_true_iff.mp h).1⟩, hthen ?_⟩
    rw [‹a.workLoop = true›]
    cases shell <;> cases a.timer <;> rfl
  · refine ⟨⟨rfl, rfl, fun h => (Bool.and_eq_true_iff.mp h).1⟩, hthen ?_⟩
    rw [Bool.eq_false_iff.mpr ‹¬a.workLoop = true›]
    cases shell <;> rfl

/-- **A build gives a device that is up, or gives back all it took.** -/
theorem terminalBuild_obeys (a : BuildAnswers) : BuildLeaves (terminalBuild a) := by
  unfold terminalBuild
  cases a.ctx with
  | false => exact rfl
  | true => exact buildDevice_obeys a (buildShell_obeys a)

/-! ## A run -/

/-- The stages from this one on. -/
def stagesFrom (s : TeardownStage) : List TeardownStage := teardownStages.dropWhile (· ≠ s)

/-- What the context and the device have come to where a stage is next. -/
def AtStage (c : TerminalCtx) (amd : ServicePhase) : TeardownStage → Prop
  | .timer => c.amd = true ∧ c.ready = true ∧ amd = .started
  | .bezel => c.amd = true ∧ c.ready = true ∧ amd = .started ∧ c.bezelTimer = false
  | .clearReady => c.amd = true ∧ c.ready = true ∧ amd = .started ∧ c.bezelTimer = false
  | .termShell => c.amd = true ∧ c.ready = false ∧ amd = .started ∧ c.bezelTimer = false
  | .termAmd =>
    c.amd = true ∧ c.ready = false ∧ amd = .started ∧ c.bezelTimer = false ∧ c.shell = false
  | .releaseAmd =>
    c.amd = true ∧ c.ready = false ∧ amd = .terminated ∧ c.bezelTimer = false ∧ c.shell = false
  | .releaseWl =>
    c.amd = false ∧ c.ready = false ∧ amd = .absent ∧ c.bezelTimer = false ∧ c.shell = false
  | .deleteCtx =>
    c.amd = false ∧ c.ready = false ∧ amd = .absent ∧ c.bezelTimer = false ∧ c.shell = false ∧
      c.wl = false

/-- What is left of a teardown, with the context and the device as it finds them. -/
def PendingFits (c : TerminalCtx) (amd : ServicePhase) : List TeardownStage → Prop
  | [] => c.amd = true ∧ c.ready = true ∧ amd = .started
  | s :: rest => s :: rest = stagesFrom s ∧ AtStage c amd s

/-- The terminal's fields say what is held. -/
def TermFits (t : Terminal) (h : TermHeld) : Prop :=
  match t.fSynth with
  | .live c => (c.bezelTimer = true → c.wl = true) ∧
      ∃ amd, h = ctxHeld c amd ∧ PendingFits c amd t.pending
  | _ => t.pending = [] ∧ h = .nothing

/-- **A stage finds what it needs, and leaves what the next one needs.** -/
theorem teardownStage_obeys {t : Terminal} {h : TermHeld} {c : TerminalCtx} {s : TeardownStage}
    {rest : List TeardownStage} (hctx : t.fSynth = .live c) (hpending : t.pending = s :: rest)
    (hfits : TermFits t h) :
    ∃ h', Protocol.obeys terminalRules h (teardownStage c s).2 = some h' ∧
      TermFits { t with fSynth := (teardownStage c s).1, pending := rest } h' := by
  unfold TermFits at hfits
  rw [hctx] at hfits
  obtain ⟨htimer, amd, rfl, hat⟩ := hfits
  rw [hpending] at hat
  obtain ⟨hrest, hat⟩ := hat
  have htail : rest = (stagesFrom s).tail := congrArg List.tail hrest
  obtain ⟨shell, camd, wl, bezelTimer, ready⟩ := c
  unfold TermFits
  cases s with
  | timer =>
    obtain ⟨rfl, rfl, rfl⟩ := hat
    cases bezelTimer with
    | false =>
      exact ⟨_, rfl, htimer, .started, rfl, by rw [htail]; exact ⟨rfl, rfl, rfl, rfl, rfl⟩⟩
    | true =>
      obtain rfl : wl = true := htimer rfl
      exact ⟨_, rfl, fun _ => rfl, .started, rfl, by rw [htail]; exact ⟨rfl, rfl, rfl, rfl, rfl⟩⟩
  | bezel =>
    obtain ⟨rfl, rfl, rfl, rfl⟩ := hat
    exact ⟨_, rfl, htimer, .started, rfl, by rw [htail]; exact ⟨rfl, rfl, rfl, rfl, rfl⟩⟩
  | clearReady =>
    obtain ⟨rfl, rfl, rfl, rfl⟩ := hat
    exact ⟨_, rfl, htimer, .started, rfl, by rw [htail]; exact ⟨rfl, rfl, rfl, rfl, rfl⟩⟩
  | termShell =>
    obtain ⟨rfl, rfl, rfl, rfl⟩ := hat
    cases shell with
    | false =>
      exact ⟨_, rfl, htimer, .started, rfl, by rw [htail]; exact ⟨rfl, rfl, rfl, rfl, rfl, rfl⟩⟩
    | true =>
      exact ⟨_, rfl, htimer, .started, rfl, by rw [htail]; exact ⟨rfl, rfl, rfl, rfl, rfl, rfl⟩⟩
  | termAmd =>
    obtain ⟨rfl, rfl, rfl, rfl, rfl⟩ := hat
    exact ⟨_, rfl, htimer, .terminated, rfl, by rw [htail]; exact ⟨rfl, rfl, rfl, rfl, rfl, rfl⟩⟩
  | releaseAmd =>
    obtain ⟨rfl, rfl, rfl, rfl, rfl⟩ := hat
    exact ⟨_, rfl, htimer, .absent, rfl, by rw [htail]; exact ⟨rfl, rfl, rfl, rfl, rfl, rfl⟩⟩
  | releaseWl =>
    obtain ⟨rfl, rfl, rfl, rfl, rfl⟩ := hat
    cases wl with
    | false =>
      exact ⟨_, rfl, htimer, .absent, rfl, by
        rw [htail]; exact ⟨rfl, rfl, rfl, rfl, rfl, rfl, rfl⟩⟩
    | true =>
      exact ⟨_, rfl, fun h => absurd h Bool.false_ne_true, .absent, rfl, by
        rw [htail]; exact ⟨rfl, rfl, rfl, rfl, rfl, rfl, rfl⟩⟩
  | deleteCtx =>
    obtain ⟨rfl, rfl, rfl, rfl, rfl, rfl⟩ := hat
    exact ⟨_, rfl, htail, rfl⟩

/-- **While the fence is up the device is started**, whatever stage a teardown has come to. -/
theorem termFits_up {t : Terminal} {h : TermHeld} (hfits : TermFits t h) (hup : t.up = true) :
    h.amd = .started ∧ h.ready = true := by
  unfold TermFits at hfits
  unfold Terminal.up at hup
  cases hctx : t.fSynth with
  | null | dangling =>
    rw [hctx] at hup
    exact absurd hup Bool.false_ne_true
  | live c =>
    rw [hctx] at hfits hup
    obtain ⟨-, amd, rfl, hat⟩ := hfits
    obtain ⟨hready, -⟩ := Bool.and_eq_true_iff.mp hup
    refine ⟨?_, hready⟩
    cases hpending : t.pending with
    | nil =>
      rw [hpending] at hat
      exact hat.2.2
    | cons s rest =>
      rw [hpending] at hat
      cases s with
      | timer => exact hat.2.2.2
      | bezel => exact hat.2.2.2.1
      | clearReady => exact hat.2.2.2.1
      | termShell => exact absurd (hready.symm.trans hat.2.2.1) (by decide)
      | termAmd => exact absurd (hready.symm.trans hat.2.2.1) (by decide)
      | releaseAmd => exact absurd (hready.symm.trans hat.2.2.1) (by decide)
      | releaseWl => exact absurd (hready.symm.trans hat.2.2.1) (by decide)
      | deleteCtx => exact absurd (hready.symm.trans hat.2.2.1) (by decide)

/-- **While the connect timer is there the device is started.** -/
theorem termFits_timer {t : Terminal} {h : TermHeld} {c : TerminalCtx} (hfits : TermFits t h)
    (hctx : t.fSynth = .live c) (htimer : c.bezelTimer = true) : h.amd = .started := by
  unfold TermFits at hfits
  rw [hctx] at hfits
  obtain ⟨-, amd, rfl, hat⟩ := hfits
  cases hpending : t.pending with
  | nil =>
    rw [hpending] at hat
    exact hat.2.2
  | cons s rest =>
    rw [hpending] at hat
    cases s with
    | timer => exact hat.2.2.2
    | bezel => exact hat.2.2.2.1
    | clearReady => exact hat.2.2.2.1
    | termShell => exact hat.2.2.2.1
    | termAmd => exact hat.2.2.2.1
    | releaseAmd => exact absurd (htimer.symm.trans hat.2.2.2.2.1) (by decide)
    | releaseWl => exact absurd (htimer.symm.trans hat.2.2.2.2.1) (by decide)
    | deleteCtx => exact absurd (htimer.symm.trans hat.2.2.2.2.1) (by decide)

/-- What a feed hands the device is the report of the frame. -/
theorem terminalFeed_eq (frame : TouchFrame) (timestamp : U32) (memory : Nat → U8) :
    terminalFeed frame timestamp memory = [.touchFrame (reportBytes frame timestamp)] := by
  have hcount : frame.contactCount ≤ 16 := frame.transducers.count_le
  have hlen := length_reportBytes frame timestamp
  unfold terminalFeed
  rw [constructReport_eq, if_neg (by omega)]
  simp only
  rw [if_pos (by omega)]
  congr 2
  refine List.ext_getElem ?_ fun j hj hj' => ?_
  · rw [List.length_map, List.length_range, hlen]
    omega
  · have hat := ByteStore.storeList_at memory 0 hj'
    rw [Nat.zero_add] at hat
    rw [List.getElem_map, List.getElem_range, hat]

/-- **Behind the fence**: what goes by a context that is there reaches the device only while it is
up. -/
theorem behindFence_obeys {t : Terminal} {h : TermHeld} (hfits : TermFits t h)
    (hthere : t.fSynth ≠ .dangling) {ops : List TermOp}
    (hops : h.amd = .started ∧ h.ready = true → Protocol.obeys terminalRules h ops = some h) :
    Protocol.obeys terminalRules h (t.behindFence ops) = some h := by
  unfold Terminal.behindFence
  rw [if_neg hthere]
  by_cases hup : t.up = true
  · rw [if_pos hup]
    exact hops (termFits_up hfits hup)
  · rw [if_neg hup]
    rfl

/-- What goes by a context that was deleted reads freed memory. -/
theorem behindFence_freed {t : Terminal} (hfreed : t.fSynth = .dangling) (h : TermHeld)
    (ops : List TermOp) : Protocol.obeys terminalRules h (t.behindFence ops) = none := by
  unfold Terminal.behindFence
  rw [if_pos hfreed]
  rfl

/-- **A battery value gets through only to a device that is up**, and it is a percentage. -/
theorem publishBattery_obeys {t : Terminal} {h : TermHeld} (hfits : TermFits t h) {pct : U8}
    {number : Bool} (hthere : NotFreed t (.publishBattery pct number)) :
    Protocol.obeys terminalRules h (publishBattery t pct number).2 = some h ∧
      TermFits (publishBattery t pct number).1 h := by
  unfold publishBattery
  simp only
  by_cases hlarge : 100 < (t.battValue pct).toNat
  · rw [if_pos hlarge]
    exact ⟨rfl, hfits⟩
  by_cases hsame : ((t.battValue pct).toNat : Int) = t.fLastBattPct
  · rw [if_neg hlarge, if_pos hsame]
    exact ⟨rfl, hfits⟩
  rw [if_neg hlarge, if_neg hsame]
  have hrange := Nat.not_lt.mp hlarge
  refine ⟨behindFence_obeys hfits (hthere ⟨hrange, hsame⟩) fun hup => ?_, ?_⟩
  · cases number with
    | true => simp [Protocol.obeys, terminalRules, hup, hrange]
    | false => rfl
  · split
    · exact hfits
    · exact hfits

/-- One delivery to a device that is up. -/
theorem delivery_obeys {h : TermHeld} {op : TermOp}
    (hop : terminalRules h op = if h.amd = .started ∧ h.ready then some h else none)
    (hup : h.amd = .started ∧ h.ready = true) :
    Protocol.obeys terminalRules h [op] = some h := by
  rw [Protocol.obeys, hop, if_pos hup]
  rfl

/-- **One event** of an owner who goes by no context that was deleted. -/
theorem terminalStep_obeys (t : Terminal) (h : TermHeld) (e : TerminalEvent) (hfits : TermFits t h)
    (he : OwnerCalls t e) (hthere : NotFreed t e) :
    ∃ h', Protocol.obeys terminalRules h (terminalStep t e).2 = some h' ∧
      TermFits (terminalStep t e).1 h' := by
  cases e with
  | build a =>
    have hnull : t.fSynth = .null := he
    have hidle := hfits
    unfold TermFits at hidle
    rw [hnull] at hidle
    obtain ⟨hpending, rfl⟩ := hidle
    have hbuild := terminalBuild_obeys a
    unfold BuildLeaves at hbuild
    simp only [terminalStep]
    cases hr : (terminalBuild a).1 with
    | none =>
      rw [hr] at hbuild
      exact ⟨.nothing, hbuild, hpending, rfl⟩
    | some c =>
      rw [hr] at hbuild
      obtain ⟨⟨hamd, hready, htimer⟩, hlog⟩ := hbuild
      refine ⟨_, hlog, htimer, .started, rfl, ?_⟩
      simp only [hpending]
      exact ⟨hamd, hready, rfl⟩
  | teardown =>
    obtain ⟨hpending, hlive⟩ := he
    simp only [terminalStep]
    cases hctx : t.fSynth with
    | null => exact ⟨h, rfl, hfits⟩
    | dangling => exact absurd hctx hlive
    | live c =>
      refine ⟨h, rfl, ?_⟩
      unfold TermFits at hfits ⊢
      rw [hctx, hpending] at hfits
      obtain ⟨htimer, amd, rfl, hup⟩ := hfits
      exact ⟨htimer, amd, rfl, rfl, hup⟩
  | stage =>
    simp only [terminalStep]
    cases hctx : t.fSynth with
    | null => exact ⟨h, rfl, hfits⟩
    | dangling =>
      -- the owner forgets a context that is gone already
      unfold TermFits at hfits
      rw [hctx] at hfits
      exact ⟨h, rfl, hfits⟩
    | live c =>
      cases hpending : t.pending with
      | nil => exact ⟨h, rfl, hfits⟩
      | cons s rest => exact teardownStage_obeys hctx hpending hfits
  | feed frame timestamp memory =>
    refine ⟨h, behindFence_obeys hfits (hthere trivial) ?_, hfits⟩
    rw [terminalFeed_eq]
    exact delivery_obeys rfl
  | button mask => exact ⟨h, behindFence_obeys hfits (hthere trivial) (delivery_obeys rfl), hfits⟩
  | inject bytes => exact ⟨h, behindFence_obeys hfits (hthere trivial) (delivery_obeys rfl), hfits⟩
  | publishBattery pct number => exact ⟨h, publishBattery_obeys hfits hthere⟩
  | setOverride value => exact ⟨h, rfl, hfits⟩
  | bezelFired =>
    refine ⟨h, ?_, hfits⟩
    simp only [terminalStep]
    cases hctx : t.fSynth with
    | null => rfl
    | dangling => rfl
    | live c =>
      by_cases htimer : c.bezelTimer = true
      · simp only [htimer, if_true, Protocol.obeys, terminalRules, termFits_timer hfits hctx htimer,
          Option.bind_some]
      · simp only [htimer]
        rfl

/-- **An event that goes by a context that was deleted** breaks the rules. -/
theorem terminalStep_freed {t : Terminal} {e : TerminalEvent} (he : ¬NotFreed t e) (h : TermHeld) :
    Protocol.obeys terminalRules h (terminalStep t e).2 = none := by
  obtain ⟨hgoes, hfreed⟩ := Classical.not_imp.mp he
  rw [not_not] at hfreed
  cases e with
  | feed frame timestamp memory => exact behindFence_freed hfreed h _
  | button mask => exact behindFence_freed hfreed h _
  | inject bytes => exact behindFence_freed hfreed h _
  | publishBattery pct number =>
    obtain ⟨hrange, hnew⟩ := hgoes
    simp only [terminalStep, publishBattery]
    rw [if_neg (Nat.not_lt.mpr hrange), if_neg hnew]
    exact behindFence_freed hfreed h _
  | build a => exact absurd hgoes id
  | teardown => exact absurd hgoes id
  | stage => exact absurd hgoes id
  | setOverride value => exact absurd hgoes id
  | bezelFired => exact absurd hgoes id

/-- **Nothing leaks, nothing comes after the fence, and the workloop goes last**: in every run of
builds, whatever fails in them, of teardowns, and of frames, clicks, injected bytes and battery
values between any two stages, exactly if none of these goes by the context between `IODelete` and
`fSynth = 0`. The fields of the terminal say what is held in the end; no context, nothing held. -/
theorem terminal_obeys_iff (es : List TerminalEvent)
    (hes : Transducer.Along terminalStep OwnerCalls .init es) :
    (∃ h, Protocol.obeys terminalRules .nothing (Transducer.run terminalStep .init es).2 = some h ∧
        TermFits (Transducer.run terminalStep .init es).1 h) ↔
      Transducer.Along terminalStep NotFreed .init es := by
  have hinit : TermFits .init .nothing := ⟨rfl, rfl⟩
  exact Protocol.obeys_run_iff (R := TermFits) terminalStep_obeys
    (fun _ h _ _ _ hfreed => terminalStep_freed hfreed h) hinit hes

/-- Everything succeeds. -/
def allYes : BuildAnswers :=
  ⟨true, true, true, true, true, true, true, true, true, true, true, true, true, true⟩

/-- A build that fails, another one, and a teardown with a click, a frame of bytes and a battery
value in it. -/
def busyTeardown : List TerminalEvent :=
  [.build { allYes with amdStart := false }, .build allYes, .button 1, .teardown, .stage,
    .stage, .button 0, .stage, .button 1, .stage, .inject [0x28#8], .stage,
    .publishBattery 50 true, .stage, .stage, .stage, .publishBattery 101 true, .stage,
    .build allYes]

theorem terminal_obeys_iff_busy :
    ∃ h, Protocol.obeys terminalRules .nothing
        (Transducer.run terminalStep .init busyTeardown).2 = some h ∧
      TermFits (Transducer.run terminalStep .init busyTeardown).1 h := by
  have hcalls : Transducer.Along terminalStep OwnerCalls .init busyTeardown := by
    refine ⟨rfl, rfl, trivial, ⟨rfl, by decide⟩, ?_⟩
    exact ⟨trivial, trivial, trivial, trivial, trivial, trivial, trivial, trivial, trivial, trivial,
      trivial, trivial, trivial, trivial, rfl, trivial⟩
  refine (terminal_obeys_iff busyTeardown hcalls).mpr ?_
  refine ⟨nofun, nofun, nofun, nofun, nofun, nofun, nofun, nofun, nofun, nofun, nofun, nofun, nofun,
    nofun, nofun, nofun, ?_, nofun, nofun, trivial⟩
  rintro ⟨hrange, -⟩
  exact absurd hrange (by decide)

/-- A teardown has deleted the context, and `stop` has not forgotten it, when a battery value
comes. -/
def lateValue : List TerminalEvent :=
  [.build allYes, .teardown] ++ List.replicate 8 .stage ++ [.publishBattery 50 true]

theorem value_reads_freed :
    Transducer.Along terminalStep OwnerCalls .init lateValue ∧
      .readFreed ∈ (Transducer.run terminalStep .init lateValue).2 := by
  refine ⟨⟨rfl, ⟨rfl, by decide⟩, ?_⟩, by decide⟩
  exact ⟨trivial, trivial, trivial, trivial, trivial, trivial, trivial, trivial, trivial, trivial⟩

end MagicTrackpad
