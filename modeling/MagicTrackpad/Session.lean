import MagicTrackpad.Lifecycle
import MagicTrackpad.Lib.Transducer

/-!
# The session (`src/mavericks_session.c`)

The CONDITION stage of the input pipeline: settle gate, contact lifecycle, liftoff shaping and
silence watchdog. The session never touches the outside; its three callbacks (`SinkCall`) are the
outputs of a step, in the order the source makes them.

* `sessionConnect`, `sessionFrame`, `sessionTimer` are `mavericks_session_connect`, `_frame` and
  `_timer`; `emit`, `frameAllBreaktouch` and `emitWithLiftoff` are the static functions they use.
* `sessionStep` is one input of a connection as a `Transducer`, so that `run` is a connection.

What a step can do is said once, by cases on the contacts present in the frame and the ids that
left, and every later result about runs uses these equations only:
* `sessionFrame_refused`: a frame of another source, or before the settle deadline, does nothing.
* `sessionFrame_present`: something is on the pad, and the conditioned frame is emitted as it is.
* `sessionFrame_lift`: the last contact left, and the absence pair goes out.
* `sessionFrame_idle`: nothing on the pad, nothing left, nothing is emitted.
* `sessionTimer_flush`, `sessionTimer_idle`: the watchdog.
* `emitConditioned_cases`: what becomes of a conditioned frame, under every policy.

`stepKind` puts them together for the policies that shape a full lift as the absence pair and drop
empty frames, the shipped one among them; `config_sessionStep` says what no step changes.
-/

namespace MagicTrackpad

open Lib
open Lib.Bitmask (hasBit)

/-- `uintptr_t`, the identity of a reader. -/
abbrev Source := BitVec 64

/-- `mavericks_transport_mode_t`. -/
inductive TransportMode
  | streaming
  | eventDriven
  deriving DecidableEq, Repr

/-- `mavericks_liftoff_shape_t`. -/
inductive LiftoffShape
  | absencePair
  | passthrough
  deriving DecidableEq, Repr

/-- `mavericks_session_policy_t`; the two flag bytes are only tested for non-zero. -/
structure SessionPolicy where
  liftoffShape : LiftoffShape
  emitEmptyFrames : Bool
  armWatchdog : Bool
  deriving DecidableEq, Repr

/-- `mavericks_policy_default`, the one shipped row. -/
def policyDefault : SessionPolicy := ⟨.absencePair, false, true⟩

/-- `mavericks_session_t`. -/
structure Session where
  activeSource : Source
  mode : TransportMode
  settleUntilMs : U32
  lastButton : U32
  policy : SessionPolicy
  lifecycle : Lifecycle

/-- A session in zeroed memory. -/
def Session.zeroed : Session :=
  ⟨0, .streaming, 0#32, 0#32, ⟨.absencePair, false, false⟩, ⟨0#32, fun _ => .zero⟩⟩

/-- A call of one of the three callbacks of `mavericks_session_sink_t`. -/
inductive SinkCall
  | postButtonEdge (mask : U32)
  | feedFrame (frame : TouchFrame)
  | armTimer (ms : U32)

/-- `mavericks_session_connect`: `lifecycle.last` keeps what the memory held. -/
def sessionConnect (s : Session) (source : Source) (mode : TransportMode) (policy : SessionPolicy)
    (nowMs : U32) : Session :=
  { activeSource := source
    mode := mode
    policy := policy
    settleUntilMs := nowMs + settleMs
    lastButton := 0#32
    lifecycle := lifecycleReset s.lifecycle }

/-- `emit`: the button edge, if there is one, then the frame. -/
def emit (s : Session) (tf : TouchFrame) : Session × List SinkCall :=
  let edge := buttonEdge (tf.isPhysicalButtonDown.setWidth 32) tf.contactCount s.lastButton
  ({ s with lastButton := edge.2 },
    (edge.1.map SinkCall.postButtonEdge).toList ++ [.feedFrame tf])

/-- `frame_all_breaktouch`. -/
def frameAllBreaktouch (f : TouchFrame) : Bool :=
  f.contactCount ≠ 0 && f.contacts.all fun c => c.state = .tsEnd

/-- `emit_with_liftoff`: a pure lift goes out as two zero-contact frames, absence and pump. -/
def emitWithLiftoff (s : Session) (tf : TouchFrame) : Session × List SinkCall :=
  if frameAllBreaktouch tf then
    let absence := emit s .zero
    let pump := emit absence.1 .zero
    (pump.1, absence.2 ++ pump.2)
  else emit s tf

/-- The policy's choice of what a conditioned frame becomes. -/
def emitConditioned (s : Session) (f : TouchFrame) : Session × List SinkCall :=
  if 0 < f.contactCount then
    match s.policy.liftoffShape with
    | .absencePair => emitWithLiftoff s f
    | .passthrough => emit s f
  else if s.policy.emitEmptyFrames then emit s f
  else (s, [])

/-- `mavericks_session_frame`. -/
def sessionFrame (s : Session) (source : Source) (tf : TouchFrame) (nowMs : U32) :
    Session × List SinkCall :=
  if source ≠ s.activeSource then (s, [])
  else if settlePassed nowMs s.settleUntilMs = false then (s, [])
  else
    let stepped := lifecycleStep s.lifecycle (dropLifted tf)
    let emitted := emitConditioned { s with lifecycle := stepped.1 } stepped.2
    (emitted.1, emitted.2 ++
      if s.policy.armWatchdog = true ∧ emitted.1.lifecycle.prevIds ≠ 0#32 then [.armTimer idleMs]
      else [])

/-- `mavericks_session_timer`. -/
def sessionTimer (s : Session) : Session × List SinkCall :=
  let flushed := lifecycleFlush s.lifecycle .zero
  let s' := { s with lifecycle := flushed.1 }
  if 0 < flushed.2.contactCount then emitWithLiftoff s' flushed.2 else (s', [])

/-- An input of one connection. -/
inductive SessionInput
  | frame (source : Source) (tf : TouchFrame) (nowMs : U32)
  | timer

/-- One input of a connection. -/
def sessionStep : Transducer Session SessionInput SinkCall
  | s, .frame source tf nowMs => sessionFrame s source tf nowMs
  | s, .timer => sessionTimer s

/-- The single-active guard and the settle gate let the frame through. -/
def Accepts (s : Session) (source : Source) (nowMs : U32) : Prop :=
  source = s.activeSource ∧ settlePassed nowMs s.settleUntilMs = true

instance (s : Session) (source : Source) (nowMs : U32) : Decidable (Accepts s source nowMs) :=
  inferInstanceAs (Decidable (_ ∧ _))

/-- The lifecycle after an accepted frame. -/
def steppedLifecycle (s : Session) (tf : TouchFrame) : Lifecycle :=
  (lifecycleStep s.lifecycle (dropLifted tf)).1

/-- The conditioned frame of an accepted frame: its present contacts, and the records of those that
left. -/
def conditioned (s : Session) (tf : TouchFrame) : TouchFrame :=
  (lifecycleStep s.lifecycle (dropLifted tf)).2

/-! ## The conditioned frame -/

theorem prevIds_stepped (s : Session) (tf : TouchFrame) :
    (steppedLifecycle s tf).prevIds = presentIds tf.present := by
  rw [steppedLifecycle, prevIds_lifecycleStep, contacts_dropLifted]

theorem last_stepped (s : Session) (tf : TouchFrame) :
    (steppedLifecycle s tf).last = recordAll s.lifecycle.prevIds s.lifecycle.last tf.present := by
  rw [steppedLifecycle, last_lifecycleStep, contacts_dropLifted]

theorem contacts_conditioned (s : Session) (tf : TouchFrame) :
    (conditioned s tf).contacts =
      (tf.present.map (stampOf s.lifecycle.prevIds) ++
        (endedIds s.lifecycle.prevIds tf.present).map (endRecord s.lifecycle.last)).take 16 := by
  rw [conditioned, contacts_lifecycleStep, contacts_dropLifted]

theorem stampOf_ne_end (prevIds : U32) (c : TouchContact) : (stampOf prevIds c).state ≠ .tsEnd := by
  rw [stampOf, TouchContact.state_withState]
  split <;> decide

/-- A frame with something on the pad still has it after conditioning, and is no pure lift. -/
theorem conditioned_of_present {s : Session} {tf : TouchFrame} (hp : tf.present ≠ []) :
    0 < (conditioned s tf).contactCount ∧ frameAllBreaktouch (conditioned s tf) = false := by
  obtain ⟨c, cs, hcs⟩ := List.exists_cons_of_ne_nil hp
  have hmem : stampOf s.lifecycle.prevIds c ∈ (conditioned s tf).contacts := by
    rw [contacts_conditioned, hcs, List.map_cons, List.cons_append, List.take_succ_cons]
    exact List.mem_cons_self
  refine ⟨?_, ?_⟩
  · rw [← TouchFrame.length_contacts]
    exact List.length_pos_of_mem hmem
  · rw [frameAllBreaktouch, Bool.and_eq_false_iff]
    refine Or.inr (Bool.eq_false_iff.mpr fun hall => ?_)
    have hend := List.all_eq_true.mp hall _ hmem
    exact stampOf_ne_end _ c (by simpa using hend)

theorem contacts_conditioned_of_nil {s : Session} {tf : TouchFrame} (hp : tf.present = []) :
    (conditioned s tf).contacts =
      (endedIds s.lifecycle.prevIds []).map (endRecord s.lifecycle.last) :=
  contacts_lifecycleStep_of_nil _ (by rw [contacts_dropLifted, hp])

/-- A nonempty list of TS_END records is a pure lift. -/
theorem frameAllBreaktouch_of_ended {f : TouchFrame} {last : Nat → TouchContact} {ids : List Nat}
    (hf : f.contacts = ids.map (endRecord last)) (hids : ids ≠ []) :
    0 < f.contactCount ∧ frameAllBreaktouch f = true := by
  have hpos : 0 < f.contactCount := by
    rw [← TouchFrame.length_contacts, hf, List.length_map]
    exact List.length_pos_iff.mpr hids
  refine ⟨hpos, ?_⟩
  rw [frameAllBreaktouch, hf]
  simp [Nat.ne_of_gt hpos, endRecord]

/-! ## What a step does -/

theorem sessionFrame_refused {s : Session} {source : Source} {nowMs : U32}
    (h : ¬ Accepts s source nowMs) (tf : TouchFrame) :
    sessionFrame s source tf nowMs = (s, []) := by
  unfold sessionFrame
  by_cases hsrc : source = s.activeSource
  · have hgate : settlePassed nowMs s.settleUntilMs = false := by
      rw [Accepts, not_and] at h
      simpa using h hsrc
    rw [if_neg (not_not_intro hsrc), if_pos hgate]
  · rw [if_pos hsrc]

theorem sessionFrame_accepted {s : Session} {source : Source} {nowMs : U32}
    (h : Accepts s source nowMs) (tf : TouchFrame) :
    sessionFrame s source tf nowMs =
      let emitted :=
        emitConditioned { s with lifecycle := steppedLifecycle s tf } (conditioned s tf)
      (emitted.1, emitted.2 ++
        if s.policy.armWatchdog = true ∧ emitted.1.lifecycle.prevIds ≠ 0#32 then
          [.armTimer idleMs] else []) := by
  unfold sessionFrame
  rw [if_neg (not_not_intro h.1), if_neg (by rw [h.2]; decide)]
  rfl

@[simp] theorem lifecycle_emit (s : Session) (tf : TouchFrame) :
    (emit s tf).1.lifecycle = s.lifecycle := rfl

/-- The watchdog re-arm at the end of an accepted frame that leaves the mask `prevIds`. -/
def rearm (policy : SessionPolicy) (prevIds : U32) : List SinkCall :=
  if policy.armWatchdog = true ∧ prevIds ≠ 0#32 then [.armTimer idleMs] else []

/-- **Something is on the pad**: under every policy the conditioned frame goes out as it is. -/
theorem sessionFrame_present {s : Session} {source : Source} {nowMs : U32}
    (h : Accepts s source nowMs) {tf : TouchFrame} (hp : tf.present ≠ []) :
    sessionFrame s source tf nowMs =
      ((emit { s with lifecycle := steppedLifecycle s tf } (conditioned s tf)).1,
        (emit { s with lifecycle := steppedLifecycle s tf } (conditioned s tf)).2 ++
          rearm s.policy (presentIds tf.present)) := by
  obtain ⟨hpos, hbreak⟩ := conditioned_of_present (s := s) hp
  have hcond : emitConditioned { s with lifecycle := steppedLifecycle s tf } (conditioned s tf) =
      emit { s with lifecycle := steppedLifecycle s tf } (conditioned s tf) := by
    unfold emitConditioned
    rw [if_pos hpos]
    cases s.policy.liftoffShape with
    | absencePair => simp only [emitWithLiftoff, hbreak, Bool.false_eq_true, if_false]
    | passthrough => rfl
  rw [sessionFrame_accepted h]
  simp only [hcond, lifecycle_emit, prevIds_stepped, rearm]

/-- The callbacks of an absence pair: the release the lift forces comes first. -/
def absenceCalls (lastButton : U32) : List SinkCall :=
  (if lastButton = 0#32 then [] else [.postButtonEdge 0#32]) ++ [.feedFrame .zero, .feedFrame .zero]

theorem emit_zero (s : Session) :
    emit s .zero = ({ s with lastButton := 0#32 },
      (if s.lastButton = 0#32 then [] else [.postButtonEdge 0#32]) ++ [.feedFrame .zero]) := by
  have hbit : asBit (TouchFrame.zero.isPhysicalButtonDown.setWidth 32) = 0#32 := rfl
  unfold emit
  simp only [buttonEdge_snd, hbit]
  by_cases hl : s.lastButton = 0#32
  · rw [buttonEdge_fst_of_eq _ (hbit.trans hl.symm), if_pos hl]
    rfl
  · rw [buttonEdge_fst_of_ne _ (fun h => hl (h.symm.trans hbit)), if_neg hl]
    rfl

/-- A pure lift, whatever frame carries it. -/
theorem emitWithLiftoff_of_breaktouch {s : Session} {f : TouchFrame}
    (h : frameAllBreaktouch f = true) :
    emitWithLiftoff s f = ({ s with lastButton := 0#32 }, absenceCalls s.lastButton) := by
  simp only [emitWithLiftoff, h, if_true, emit_zero, absenceCalls, List.nil_append,
    List.append_assoc, List.singleton_append]

/-- **All that `emit_with_liftoff` can do**: the absence pair, or the frame as it is. -/
theorem emitWithLiftoff_cases (s : Session) (f : TouchFrame) :
    emitWithLiftoff s f = ({ s with lastButton := 0#32 }, absenceCalls s.lastButton) ∨
      emitWithLiftoff s f = emit s f := by
  by_cases hbreak : frameAllBreaktouch f = true
  · exact Or.inl (emitWithLiftoff_of_breaktouch hbreak)
  · unfold emitWithLiftoff
    exact Or.inr (if_neg hbreak)

/-- **All that becomes of a conditioned frame**, under every policy: the absence pair, the frame as
it is, or nothing. -/
theorem emitConditioned_cases (s : Session) (f : TouchFrame) :
    emitConditioned s f = ({ s with lastButton := 0#32 }, absenceCalls s.lastButton) ∨
      emitConditioned s f = emit s f ∨ emitConditioned s f = (s, []) := by
  unfold emitConditioned
  by_cases hcount : 0 < f.contactCount
  · rw [if_pos hcount]
    cases s.policy.liftoffShape with
    | absencePair => exact (emitWithLiftoff_cases s f).imp_right Or.inl
    | passthrough => exact Or.inr (Or.inl rfl)
  · rw [if_neg hcount]
    by_cases hempty : s.policy.emitEmptyFrames = true
    · exact Or.inr (Or.inl (if_pos hempty))
    · exact Or.inr (Or.inr (if_neg hempty))

/-- **The last contact left**: the absence pair goes out and the watchdog stays as it is. -/
theorem sessionFrame_lift {s : Session} {source : Source} {nowMs : U32}
    (h : Accepts s source nowMs) (hpol : s.policy.liftoffShape = .absencePair) {tf : TouchFrame}
    (hp : tf.present = []) (hleft : endedIds s.lifecycle.prevIds [] ≠ []) :
    sessionFrame s source tf nowMs =
      ({ s with lastButton := 0#32, lifecycle := steppedLifecycle s tf },
        absenceCalls s.lastButton) := by
  obtain ⟨hpos, hbreak⟩ :=
    frameAllBreaktouch_of_ended (contacts_conditioned_of_nil (s := s) hp) hleft
  have hprev : (steppedLifecycle s tf).prevIds = 0#32 := by rw [prevIds_stepped, hp]; rfl
  rw [sessionFrame_accepted h]
  unfold emitConditioned
  simp only [if_pos hpos, hpol, emitWithLiftoff_of_breaktouch hbreak, hprev, ne_eq,
    not_true_eq_false, and_false, if_false, List.append_nil]

/-- **Nothing on the pad and nothing left**: with empty frames off, no callback is made. -/
theorem sessionFrame_idle {s : Session} {source : Source} {nowMs : U32}
    (h : Accepts s source nowMs) (hpol : s.policy.emitEmptyFrames = false) {tf : TouchFrame}
    (hp : tf.present = []) (hleft : endedIds s.lifecycle.prevIds [] = []) :
    sessionFrame s source tf nowMs = ({ s with lifecycle := steppedLifecycle s tf }, []) := by
  have hcount : (conditioned s tf).contactCount = 0 := by
    rw [← TouchFrame.length_contacts, contacts_conditioned_of_nil hp, hleft]
    rfl
  have hprev : (steppedLifecycle s tf).prevIds = 0#32 := by rw [prevIds_stepped, hp]; rfl
  rw [sessionFrame_accepted h]
  unfold emitConditioned
  simp [hcount, hpol, hprev]

/-- The lifecycle after a watchdog firing: history kept, nobody down. -/
def flushedLifecycle (s : Session) : Lifecycle := { s.lifecycle with prevIds := 0#32 }

/-- **The watchdog finds contacts down** and delivers the lift. -/
theorem sessionTimer_flush {s : Session} (hleft : endedIds s.lifecycle.prevIds [] ≠ []) :
    sessionTimer s =
      ({ s with lastButton := 0#32, lifecycle := flushedLifecycle s },
        absenceCalls s.lastButton) := by
  obtain ⟨hpos, hbreak⟩ :=
    frameAllBreaktouch_of_ended (contacts_lifecycleFlush s.lifecycle .zero) hleft
  simp only [sessionTimer, if_pos hpos, emitWithLiftoff_of_breaktouch hbreak]
  rfl

/-- The watchdog finds nothing. -/
theorem sessionTimer_idle {s : Session} (hleft : endedIds s.lifecycle.prevIds [] = []) :
    sessionTimer s = ({ s with lifecycle := flushedLifecycle s }, []) := by
  have hcount : (lifecycleFlush s.lifecycle .zero).2.contactCount = 0 := by
    rw [← TouchFrame.length_contacts, contacts_lifecycleFlush, hleft]
    rfl
  simp only [sessionTimer, hcount, Nat.lt_irrefl, if_false]
  rfl

/-! ## The lifecycle and the re-arm, under every policy -/

theorem lifecycle_emitConditioned (s : Session) (f : TouchFrame) :
    (emitConditioned s f).1.lifecycle = s.lifecycle := by
  rcases emitConditioned_cases s f with h | h | h <;> rw [h]
  rfl

theorem lifecycle_sessionFrame {s : Session} {source : Source} {nowMs : U32}
    (h : Accepts s source nowMs) (tf : TouchFrame) :
    (sessionFrame s source tf nowMs).1.lifecycle = steppedLifecycle s tf := by
  rw [sessionFrame_accepted h]
  exact lifecycle_emitConditioned _ _

/-- **An accepted frame that leaves a contact down arms the watchdog.** -/
theorem armTimer_mem_sessionFrame {s : Session} {source : Source} {nowMs : U32}
    (h : Accepts s source nowMs) (harm : s.policy.armWatchdog = true) {tf : TouchFrame}
    (hdown : (steppedLifecycle s tf).prevIds ≠ 0#32) :
    .armTimer idleMs ∈ (sessionFrame s source tf nowMs).2 := by
  rw [sessionFrame_accepted h]
  refine List.mem_append_right _ ?_
  rw [if_pos ⟨harm, by rw [lifecycle_emitConditioned]; exact hdown⟩]
  exact List.mem_cons_self

theorem lifecycle_sessionTimer (s : Session) :
    (sessionTimer s).1.lifecycle = flushedLifecycle s := by
  by_cases hleft : endedIds s.lifecycle.prevIds [] = []
  · rw [sessionTimer_idle hleft]
  · rw [sessionTimer_flush hleft]

/-! ## The kinds of steps -/

/-- The conditioning the shipped policy asks for; whether the watchdog is armed is left open. -/
structure PairPolicy (p : SessionPolicy) : Prop where
  shape : p.liftoffShape = .absencePair
  empties : p.emitEmptyFrames = false

theorem pairPolicy_default : PairPolicy policyDefault := ⟨rfl, rfl⟩

/-- Everything one input can do to a session under a `PairPolicy`. -/
inductive StepKind (s : Session) : SessionInput → Session × List SinkCall → Prop
  | refused {source : Source} {tf : TouchFrame} {nowMs : U32} (h : ¬ Accepts s source nowMs) :
      StepKind s (.frame source tf nowMs) (s, [])
  | touching {source : Source} {tf : TouchFrame} {nowMs : U32} (h : Accepts s source nowMs)
      (hp : tf.present ≠ []) :
      StepKind s (.frame source tf nowMs)
        ((emit { s with lifecycle := steppedLifecycle s tf } (conditioned s tf)).1,
          (emit { s with lifecycle := steppedLifecycle s tf } (conditioned s tf)).2 ++
            rearm s.policy (presentIds tf.present))
  | lift {source : Source} {tf : TouchFrame} {nowMs : U32} (h : Accepts s source nowMs)
      (hp : tf.present = []) (hleft : endedIds s.lifecycle.prevIds [] ≠ []) :
      StepKind s (.frame source tf nowMs)
        ({ s with lastButton := 0#32, lifecycle := steppedLifecycle s tf },
          absenceCalls s.lastButton)
  | idle {source : Source} {tf : TouchFrame} {nowMs : U32} (h : Accepts s source nowMs)
      (hp : tf.present = []) (hleft : endedIds s.lifecycle.prevIds [] = []) :
      StepKind s (.frame source tf nowMs) ({ s with lifecycle := steppedLifecycle s tf }, [])
  | flush (hleft : endedIds s.lifecycle.prevIds [] ≠ []) :
      StepKind s .timer
        ({ s with lastButton := 0#32, lifecycle := flushedLifecycle s }, absenceCalls s.lastButton)
  | quiet (hleft : endedIds s.lifecycle.prevIds [] = []) :
      StepKind s .timer ({ s with lifecycle := flushedLifecycle s }, [])

/-- **What a step can do**, under a `PairPolicy`. -/
theorem stepKind {s : Session} (hpol : PairPolicy s.policy) (i : SessionInput) :
    StepKind s i (sessionStep s i) := by
  cases i with
  | frame source tf nowMs =>
    show StepKind s _ (sessionFrame s source tf nowMs)
    by_cases h : Accepts s source nowMs
    · by_cases hp : tf.present = []
      · by_cases hleft : endedIds s.lifecycle.prevIds [] = []
        · rw [sessionFrame_idle h hpol.empties hp hleft]
          exact .idle h hp hleft
        · rw [sessionFrame_lift h hpol.shape hp hleft]
          exact .lift h hp hleft
      · rw [sessionFrame_present h hp]
        exact .touching h hp
    · rw [sessionFrame_refused h]
      exact .refused h
  | timer =>
    show StepKind s _ (sessionTimer s)
    by_cases hleft : endedIds s.lifecycle.prevIds [] = []
    · rw [sessionTimer_idle hleft]
      exact .quiet hleft
    · rw [sessionTimer_flush hleft]
      exact .flush hleft

/-! ## What no step changes -/

/-- What a connection fixes: its source, mode, settle deadline and policy. -/
def Session.config (s : Session) : Source × TransportMode × U32 × SessionPolicy :=
  (s.activeSource, s.mode, s.settleUntilMs, s.policy)

theorem config_emitWithLiftoff (s : Session) (f : TouchFrame) :
    (emitWithLiftoff s f).1.config = s.config := by
  rcases emitWithLiftoff_cases s f with h | h <;> rw [h] <;> rfl

theorem config_emitConditioned (s : Session) (f : TouchFrame) :
    (emitConditioned s f).1.config = s.config := by
  rcases emitConditioned_cases s f with h | h | h <;> rw [h] <;> rfl

/-- **No input of a connection changes what the connect fixed.** -/
theorem config_sessionStep (s : Session) (i : SessionInput) :
    (sessionStep s i).1.config = s.config := by
  cases i with
  | frame source tf nowMs =>
    show (sessionFrame s source tf nowMs).1.config = s.config
    by_cases h : Accepts s source nowMs
    · rw [sessionFrame_accepted h]
      exact config_emitConditioned _ _
    · rw [sessionFrame_refused h]
  | timer =>
    show (sessionTimer s).1.config = s.config
    simp only [sessionTimer]
    split
    · exact config_emitWithLiftoff _ _
    · rfl

theorem config_run (s : Session) (is : List SessionInput) :
    (Transducer.run sessionStep s is).1.config = s.config :=
  Transducer.run_state_induction sessionStep (A := fun _ => True)
    (I := fun t => t.config = s.config) rfl
    (fun t i _ ht => (config_sessionStep t i).trans ht) is fun _ _ => trivial

theorem policy_of_config {s t : Session} (h : s.config = t.config) : s.policy = t.policy := by
  simp only [Session.config, Prod.mk.injEq] at h
  exact h.2.2.2

/-- The guard and the gate look at nothing else. -/
theorem accepts_of_config {s t : Session} (h : s.config = t.config) {source : Source}
    {nowMs : U32} : Accepts s source nowMs ↔ Accepts t source nowMs := by
  simp only [Session.config, Prod.mk.injEq] at h
  rw [Accepts, Accepts, h.1, h.2.2.1]

end MagicTrackpad
