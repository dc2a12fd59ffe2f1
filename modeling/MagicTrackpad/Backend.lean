import MagicTrackpad.Session
import MagicTrackpad.Wire

/-!
# The terminal backend and its silence watchdog (`src/kext-gesture/MavericksTerminalBackend.cpp`)

The backend owns a session, a lock and a one-shot timer. `handleEvent` and `idleTick` each take the
lock for their whole call, so a run is a sequence of such calls with time passing in between
(`Backend`, `backendStep`):

* `armIdle` sets the deadline to now plus the timeout, over an unexpired one;
* a deadline that passes is a fired timer, whose `idleTick` runs at some later moment, when it gets
  the lock; re-arming does not recall it.

Nothing in the session tells a stale firing from a current one, and the watchdog is meant to lift
contacts only when the stream has gone silent:
* `idleTick_feeds_iff`: a tick feeds the absence pair iff a contact is down.
* `live_stream_not_cut`: in every run in which no frame that leaves a contact down is accepted while
  a fired tick waits for the lock, a tick that feeds it comes a full timeout after the last accepted
  frame.
* `stale_tick_cuts`: such a frame, and the waiting tick next, and the live contact is lifted; so the
  condition cannot be dropped at any step.
* `stale_tick_run`: a run that does it.
-/

namespace MagicTrackpad

open Lib

/-- `MavericksTerminalBackend`, with the state of its timer. -/
structure Backend where
  /-- `(uintptr_t)this`. -/
  self : Source
  logicalMaxX : U32
  logicalMaxY : U32
  session : Session
  /-- The uptime, in nanoseconds. -/
  now : Nat
  /-- When the armed timer fires. -/
  deadline : Option Nat
  /-- Fired ticks that wait for the lock. -/
  waiting : Nat
  /-- The times of the frames accepted so far, for the specification only. -/
  accepted : List Nat

/-- `uptime_ms`: nanoseconds to milliseconds, cut to 32 bits. -/
def Backend.uptimeMs (b : Backend) : U32 := MagicTrackpad.uptimeMs (b.now / 1000000)

/-- `setTimeoutMS` in nanoseconds. -/
def msToNs (ms : U32) : Nat := ms.toNat * 1000000

/-- `MAVERICKS_IDLE_MS` in nanoseconds. -/
def idleNs : Nat := msToNs idleMs

/-- `armIdle` as a callback: the last arm of a list of callbacks wins. -/
def armed (now : Nat) (deadline : Option Nat) (calls : List SinkCall) : Option Nat :=
  calls.foldl (fun d c => match c with
    | .armTimer ms => some (now + msToNs ms)
    | _ => d) deadline

/-- `start`: the connect of the backend's own session. -/
def Backend.start (self : Source) (memory : Session) (logicalMaxX logicalMaxY : U32) (now : Nat) :
    Backend :=
  { self := self
    logicalMaxX := logicalMaxX
    logicalMaxY := logicalMaxY
    session := sessionConnect memory self .eventDriven policyDefault
      (MagicTrackpad.uptimeMs (now / 1000000))
    now := now
    deadline := none
    waiting := 0
    accepted := [] }

/-- What can happen to the backend. -/
inductive BackendEvent
  | handleEvent (ev : VoodooInputEvent)
  | updateDimensions (logicalMaxX logicalMaxY : U32)
  /-- Time passes; a deadline inside the interval fires. -/
  | delay (ns : Nat)
  /-- The timer fires at its deadline. -/
  | expire
  | idleTick

/-- The frame `handleEvent` gives the session. -/
def Backend.frameOf (b : Backend) (ev : VoodooInputEvent) : TouchFrame :=
  frameFromVoodoo ev b.logicalMaxX b.logicalMaxY

/-- The session takes the frame of the event. -/
def Backend.Takes (b : Backend) : Prop := Accepts b.session b.self b.uptimeMs

instance (b : Backend) : Decidable b.Takes := inferInstanceAs (Decidable (Accepts _ _ _))

/-- A deadline that passed is taken as fired. -/
def Backend.takeFired (b : Backend) : Backend :=
  { b with deadline := none, waiting := b.waiting + 1 }

/-- One event, under the lock. -/
def backendStep : Transducer Backend BackendEvent SinkCall
  | b, .handleEvent ev =>
    let r := sessionFrame b.session b.self (b.frameOf ev) b.uptimeMs
    ({ b with
        session := r.1
        deadline := armed b.now b.deadline r.2
        accepted := if b.Takes then b.now :: b.accepted else b.accepted }, r.2)
  | b, .updateDimensions x y => ({ b with logicalMaxX := x, logicalMaxY := y }, [])
  | b, .delay ns =>
    match b.deadline with
    | some t => (if t < b.now + ns then { b.takeFired with now := b.now + ns }
        else { b with now := b.now + ns }, [])
    | none => ({ b with now := b.now + ns }, [])
  | b, .expire =>
    match b.deadline with
    | some t => (if t ≤ b.now then b.takeFired else b, [])
    | none => (b, [])
  | b, .idleTick =>
    if 0 < b.waiting then
      let r := sessionTimer b.session
      ({ b with
          session := r.1
          deadline := armed b.now b.deadline r.2
          waiting := b.waiting - 1 }, r.2)
    else (b, [])

/-! ## The condition and the property -/

/-- A step that does not leave a contact down while a fired tick waits for the lock. -/
def Prompt (b : Backend) : BackendEvent → Prop
  | .handleEvent ev => ¬ (0 < b.waiting ∧ b.Takes ∧ (b.frameOf ev).present ≠ [])
  | _ => True

/-- A tick that feeds the absence pair comes a full timeout after every accepted frame. -/
def NoCut (b : Backend) : BackendEvent → Prop
  | .idleTick => (∃ f, .feedFrame f ∈ (backendStep b .idleTick).2) →
    ∀ a ∈ b.accepted, a + idleNs ≤ b.now
  | _ => True

/-! ## One event -/

@[simp] theorem armed_nil (now : Nat) (d : Option Nat) : armed now d [] = d := rfl

theorem armed_concat (now : Nat) (d : Option Nat) (calls : List SinkCall) (ms : U32) :
    armed now d (calls ++ [.armTimer ms]) = some (now + msToNs ms) := by
  rw [armed, List.foldl_append]
  rfl

/-- A refused frame changes nothing. -/
theorem handleEvent_refused {b : Backend} (h : ¬ b.Takes) (ev : VoodooInputEvent) :
    backendStep b (.handleEvent ev) = (b, []) := by
  simp only [backendStep, sessionFrame_refused h, armed_nil, if_neg h]

/-- An accepted frame that leaves a contact down moves the deadline a full timeout ahead. -/
theorem handleEvent_down {b : Backend} (h : b.Takes) (hpol : b.session.policy = policyDefault)
    {ev : VoodooInputEvent} (hp : (b.frameOf ev).present ≠ []) :
    (backendStep b (.handleEvent ev)).1.deadline = some (b.now + idleNs) ∧
      (backendStep b (.handleEvent ev)).1.accepted = b.now :: b.accepted ∧
      (backendStep b (.handleEvent ev)).1.session.lifecycle.prevIds =
        presentIds (b.frameOf ev).present := by
  have hdown : policyDefault.armWatchdog = true ∧ presentIds (b.frameOf ev).present ≠ 0#32 :=
    ⟨rfl, fun h0 => hp (presentIds_eq_zero_iff.mp h0)⟩
  refine ⟨?_, ?_, ?_⟩
  · simp only [backendStep, sessionFrame_present h hp, hpol, rearm, if_pos hdown]
    exact armed_concat _ _ _ _
  · simp only [backendStep, if_pos h]
  · simp only [backendStep]
    rw [lifecycle_sessionFrame h, prevIds_stepped]

/-- An accepted frame with nothing on the pad leaves nothing down. -/
theorem handleEvent_up {b : Backend} (h : b.Takes) {ev : VoodooInputEvent}
    (hp : (b.frameOf ev).present = []) :
    (backendStep b (.handleEvent ev)).1.accepted = b.now :: b.accepted ∧
      (backendStep b (.handleEvent ev)).1.session.lifecycle.prevIds = 0#32 := by
  refine ⟨?_, ?_⟩
  · simp only [backendStep, if_pos h]
  · simp only [backendStep]
    rw [lifecycle_sessionFrame h, prevIds_stepped, hp]
    rfl

/-- Time passes, and a deadline inside the interval fires. -/
theorem delay_cases (b : Backend) (ns : Nat) :
    (backendStep b (.delay ns)).1 = { b with now := b.now + ns } ∨
      ∃ t, b.deadline = some t ∧ t < b.now + ns ∧
        (backendStep b (.delay ns)).1 = { b.takeFired with now := b.now + ns } := by
  cases hd : b.deadline with
  | none => exact Or.inl (by simp only [backendStep, hd])
  | some t =>
    by_cases ht : t < b.now + ns
    · exact Or.inr ⟨t, rfl, ht, by simp only [backendStep, hd, if_pos ht]⟩
    · exact Or.inl (by simp only [backendStep, hd, if_neg ht])

/-- The timer fires if its deadline has come. -/
theorem expire_cases (b : Backend) :
    (backendStep b .expire).1 = b ∨
      ∃ t, b.deadline = some t ∧ t ≤ b.now ∧ (backendStep b .expire).1 = b.takeFired := by
  cases hd : b.deadline with
  | none => exact Or.inl (by simp only [backendStep, hd])
  | some t =>
    by_cases ht : t ≤ b.now
    · exact Or.inr ⟨t, rfl, ht, by simp only [backendStep, hd, if_pos ht]⟩
    · exact Or.inl (by simp only [backendStep, hd, if_neg ht])

/-- No event changes the policy. -/
theorem policy_backendStep (b : Backend) (e : BackendEvent) :
    (backendStep b e).1.session.policy = b.session.policy := by
  cases e with
  | handleEvent ev => exact policy_of_config (config_sessionStep b.session (.frame _ _ _))
  | updateDimensions x y => rfl
  | delay ns =>
    rcases delay_cases b ns with h | ⟨t, -, -, h⟩
    · rw [h]
    · rw [h]
      rfl
  | expire =>
    rcases expire_cases b with h | ⟨t, -, -, h⟩
    · rw [h]
    · rw [h]
      rfl
  | idleTick =>
    simp only [backendStep]
    by_cases hw : 0 < b.waiting
    · rw [if_pos hw]
      exact policy_of_config (config_sessionStep b.session .timer)
    · rw [if_neg hw]

/-- **A tick feeds the absence pair iff a contact is down.** -/
theorem idleTick_feeds_iff {b : Backend} (hb : IdsBelow16 b.session.lifecycle.prevIds)
    (hw : 0 < b.waiting) :
    (∃ f, .feedFrame f ∈ (backendStep b .idleTick).2) ↔ b.session.lifecycle.prevIds ≠ 0#32 := by
  have hleft := endedIds_nil_eq_nil hb
  simp only [backendStep, if_pos hw]
  by_cases hz : b.session.lifecycle.prevIds = 0#32
  · rw [sessionTimer_idle (hleft.mpr hz)]
    exact iff_of_false (fun ⟨f, hf⟩ => absurd hf List.not_mem_nil) (not_not_intro hz)
  · rw [sessionTimer_flush fun h => hz (hleft.mp h)]
    exact iff_of_true ⟨.zero, List.mem_append_right _ List.mem_cons_self⟩ hz

/-! ## The invariant -/

/-- While a contact is down, neither the deadline nor a waiting tick is early for any accepted
frame. -/
structure LiveInv (b : Backend) : Prop where
  policy : b.session.policy = policyDefault
  below16 : IdsBelow16 b.session.lifecycle.prevIds
  past : ∀ a ∈ b.accepted, a ≤ b.now
  deadline : b.session.lifecycle.prevIds ≠ 0#32 → ∀ t, b.deadline = some t →
    ∀ a ∈ b.accepted, a + idleNs ≤ t
  waiting : b.session.lifecycle.prevIds ≠ 0#32 → 0 < b.waiting →
    ∀ a ∈ b.accepted, a + idleNs ≤ b.now

/-- With nothing down only the past matters. -/
theorem liveInv_of_empty {b : Backend} (hpol : b.session.policy = policyDefault)
    (hz : b.session.lifecycle.prevIds = 0#32) (hpast : ∀ a ∈ b.accepted, a ≤ b.now) :
    LiveInv b where
  policy := hpol
  below16 := by rw [hz]; exact idsBelow16_zero
  past := hpast
  deadline hne := absurd hz hne
  waiting hne := absurd hz hne

theorem liveInv_start (self : Source) (memory : Session) (lx ly : U32) (now : Nat) :
    LiveInv (Backend.start self memory lx ly now) :=
  liveInv_of_empty rfl rfl fun _ ha => absurd ha List.not_mem_nil

/-- Time passing keeps the invariant, with or without a firing. -/
theorem LiveInv.later {b : Backend} (hb : LiveInv b) {now : Nat} (hle : b.now ≤ now) :
    LiveInv { b with now := now } where
  policy := hb.policy
  below16 := hb.below16
  past a ha := Nat.le_trans (hb.past a ha) hle
  deadline := hb.deadline
  waiting hne hw a ha := Nat.le_trans (hb.waiting hne hw a ha) hle

theorem LiveInv.fired {b : Backend} (hb : LiveInv b) {t now : Nat} (ht : b.deadline = some t)
    (hle : t ≤ now) (hnow : b.now ≤ now) : LiveInv { b.takeFired with now := now } where
  policy := hb.policy
  below16 := hb.below16
  past a ha := Nat.le_trans (hb.past a ha) hnow
  deadline _ t ht := absurd ht (by simp [Backend.takeFired])
  waiting hne _ a ha := Nat.le_trans (hb.deadline hne t ht a ha) hle

/-- **One prompt event** keeps the invariant. -/
theorem liveInv_step {b : Backend} (hb : LiveInv b) {e : BackendEvent} (he : Prompt b e) :
    LiveInv (backendStep b e).1 := by
  have hpol := (policy_backendStep b e).trans hb.policy
  cases e with
  | handleEvent ev =>
    by_cases h : b.Takes
    · by_cases hp : (b.frameOf ev).present = []
      · obtain ⟨hacc, hz⟩ := handleEvent_up h hp
        refine liveInv_of_empty hpol hz fun a ha => ?_
        rw [hacc] at ha
        rcases List.mem_cons.mp ha with rfl | ha
        · exact Nat.le_refl _
        · exact hb.past a ha
      · obtain ⟨hdead, hacc, hprev⟩ := handleEvent_down h hb.policy hp
        have hquiet : b.waiting = 0 := by
          by_contra hw
          exact he ⟨Nat.pos_of_ne_zero hw, h, hp⟩
        have hpast : ∀ a ∈ (backendStep b (.handleEvent ev)).1.accepted, a ≤ b.now := by
          intro a ha
          rw [hacc] at ha
          rcases List.mem_cons.mp ha with rfl | ha
          · exact Nat.le_refl _
          · exact hb.past a ha
        refine ⟨hpol, ?_, hpast, fun _ t ht a ha => ?_, fun _ hw => ?_⟩
        · rw [hprev]
          exact idsBelow16_presentIds _
        · rw [hdead] at ht
          obtain rfl := Option.some.inj ht
          exact Nat.add_le_add_right (hpast a ha) idleNs
        · exact absurd hw (by
            show ¬ 0 < b.waiting
            omega)
    · rw [handleEvent_refused h]
      exact hb
  | updateDimensions x y => exact ⟨hb.policy, hb.below16, hb.past, hb.deadline, hb.waiting⟩
  | delay ns =>
    have hle : b.now ≤ b.now + ns := Nat.le_add_right _ _
    rcases delay_cases b ns with h | ⟨t, hd, ht, h⟩
    · rw [h]
      exact hb.later hle
    · rw [h]
      exact hb.fired hd (Nat.le_of_lt ht) hle
  | expire =>
    rcases expire_cases b with h | ⟨t, hd, ht, h⟩
    · rw [h]
      exact hb
    · rw [h]
      exact hb.fired hd ht (Nat.le_refl _)
  | idleTick =>
    by_cases hw : 0 < b.waiting
    · refine liveInv_of_empty hpol ?_ ?_
      · simp only [backendStep, if_pos hw, lifecycle_sessionTimer]
        rfl
      · simp only [backendStep, if_pos hw]
        exact hb.past
    · simp only [backendStep, if_neg hw]
      exact hb

/-- **The silence watchdog never cuts a live stream** in a run of prompt events. -/
theorem live_stream_not_cut (self : Source) (memory : Session) (lx ly : U32) (now : Nat)
    (es : List BackendEvent)
    (hes : Transducer.Along backendStep Prompt (Backend.start self memory lx ly now) es) :
    Transducer.Along backendStep NoCut (Backend.start self memory lx ly now) es := by
  refine Transducer.along_of_invariant (I := LiveInv) (fun b e hb he => ⟨liveInv_step hb he, ?_⟩)
    (liveInv_start self memory lx ly now) hes
  cases e with
  | idleTick =>
    intro hfeed
    by_cases hw : 0 < b.waiting
    · exact hb.waiting ((idleTick_feeds_iff hb.below16 hw).mp hfeed) hw
    · obtain ⟨f, hf⟩ := hfeed
      simp only [backendStep, if_neg hw] at hf
      exact absurd hf List.not_mem_nil
  | handleEvent ev => trivial
  | updateDimensions x y => trivial
  | delay ns => trivial
  | expire => trivial

/-- **A step that is not prompt can be cut**: the waiting tick may run next, and lifts the contacts
of the frame just accepted. -/
theorem stale_tick_cuts {b : Backend} (hpol : b.session.policy = policyDefault)
    {ev : VoodooInputEvent} (h : ¬ Prompt b (.handleEvent ev)) :
    ¬ NoCut (backendStep b (.handleEvent ev)).1 .idleTick := by
  obtain ⟨hw, htakes, hp⟩ := not_not.mp h
  obtain ⟨-, hacc, hprev⟩ := handleEvent_down htakes hpol hp
  intro hcut
  have hfeed := hcut ((idleTick_feeds_iff (b := (backendStep b (.handleEvent ev)).1)
    (by rw [hprev]; exact idsBelow16_presentIds _) hw).mpr
      (by rw [hprev]; exact fun h0 => hp (presentIds_eq_zero_iff.mp h0)))
  have hnow : b.now + idleNs ≤ b.now := hfeed b.now (by rw [hacc]; exact List.mem_cons_self)
  have hpos : 0 < idleNs := by decide
  omega

/-- An event with one finger on the pad. -/
def oneFinger : VoodooInputEvent :=
  voodooFromFrame (.ofContacts [.ofId 3 20] 0) mt2SpanX mt2SpanY

theorem live_stream_not_cut_tap :
    Transducer.Along backendStep NoCut (Backend.start 1 .zeroed mt2SpanX mt2SpanY 0)
      [.handleEvent oneFinger, .delay 35000001, .idleTick] :=
  live_stream_not_cut 1 .zeroed mt2SpanX mt2SpanY 0
    [.handleEvent oneFinger, .delay 35000001, .idleTick]
    ⟨fun h => absurd h.1 (by decide), trivial, trivial, trivial⟩

/-- The timer fires, a fresh frame of the finger gets the lock first, and the stale tick lifts
it. -/
theorem stale_tick_run :
    ¬ Transducer.Along backendStep NoCut (Backend.start 1 .zeroed mt2SpanX mt2SpanY 0)
      [.handleEvent oneFinger, .delay 35000001, .handleEvent oneFinger, .idleTick] := by
  intro h
  refine stale_tick_cuts ?_ (fun hprompt => hprompt ?_) h.2.2.2.1
  · rfl
  · decide

end MagicTrackpad
