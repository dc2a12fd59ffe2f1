import MagicTrackpad.Presence.Converge

/-!
# A handoff between the transports (`presence_reconcile`, `presence_observer_reconcile`)

The reader of one transport terminates and the reader of the other appears. Their edges reach the
observer later, in order, and meanwhile a poll may read the truth, which is already ahead of the
edges. In `presence_reconcile` a poll never ends a hold with nothing present, since "the
REMOVAL_ELAPSED timer owns the NONE transition"; it does end a view whose removal is still on its
way.

* `HandoffPhase`: where a handoff is, in the readers, the edges and the view.
* `handoff_step`: from each phase, an event leads to a phase and reports no absence, unless it is a
  poll in the gap with the removal still on its way, or the window of the hold.
* `handoff_seamless_iff`: so the no-trackpad page is not reported during a handoff iff neither
  happens.
* `poll_before_removal_edge`: a poll right after the termination reports it.
-/

namespace MagicTrackpad

open Lib

/-! ## The handoff -/

/-- The view of a transport. -/
def Transport.view : Transport → PresenceState
  | .usb => .usb
  | .bt => .bt

/-- A handoff from the transport `old` to the other one. -/
structure Handoff where
  oldPresent : Bool
  newPresent : Bool
  /-- Edges that are not delivered yet, oldest first. -/
  pending : List PresenceEvent
  obs : PresenceObserver
  deriving DecidableEq, Repr

/-- The old reader is present and all edges are in. -/
def Handoff.start (o : PresenceObserver) : Handoff := ⟨true, false, [], o⟩

/-- `service_present` of the reader class of `t`. -/
def Handoff.present (w : Handoff) (old t : Transport) : Bool :=
  if t = old then w.oldPresent else w.newPresent

/-- What can happen. -/
inductive HandoffEvent
  | oldTerminates
  | newAppears
  /-- The oldest edge reaches the observer. -/
  | deliver
  | poll
  | window (my : Nat)
  deriving DecidableEq, Repr

/-- One event; the new reader appears once, after the old one has terminated. -/
def handoffStep (old : Transport) : Transducer Handoff HandoffEvent PresenceCall
  | w, .oldTerminates =>
    if w.oldPresent then
      ({ w with oldPresent := false, pending := w.pending ++ [old.removeEdge] }, [])
    else (w, [])
  | w, .newAppears =>
    if !w.oldPresent && !w.newPresent then
      ({ w with newPresent := true, pending := w.pending ++ [old.other.appearEdge] }, [])
    else (w, [])
  | w, .deliver =>
    match w.pending with
    | e :: rest =>
      ({ w with pending := rest, obs := (obsSmEvent w.obs e).1 }, (obsSmEvent w.obs e).2)
    | [] => (w, [])
  | w, .poll =>
    ({ w with obs := (presenceObserverReconcile w.obs (w.present old .bt) (w.present old .usb)).1 },
      (presenceObserverReconcile w.obs (w.present old .bt) (w.present old .usb)).2)
  | w, .window my =>
    if my ∈ w.obs.windows then
      ({ w with obs := (obsWindowFired w.obs my).1 }, (obsWindowFired w.obs my).2)
    else (w, [])

/-- Until the new transport is shown, `PRESENCE_ACT_ABSENT` is not reported. -/
def NoAbsence (old : Transport) (w : Handoff) (e : HandoffEvent) : Prop :=
  w.obs.state ≠ old.other.view → ∀ ev, (.absent, ev) ∉ (handoffStep old w e).2

/-- A poll that finds neither reader comes after the removal edge, and the window of a hold does not
fire while it lasts. -/
def Unhurried (w : Handoff) : HandoffEvent → Prop
  | .poll => w.oldPresent = false → w.newPresent = false → w.pending = []
  | .window my => w.obs.state = .hold → my ≠ w.obs.gen
  | _ => True

/-! ## The phases -/

/-- Where a handoff can be: the two readers, the edges on their way, and the view. -/
inductive HandoffPhase (old : Transport) : Bool → Bool → List PresenceEvent → PresenceState → Prop
  | before : HandoffPhase old true false [] old.view
  | leaving : HandoffPhase old false false [old.removeEdge] old.view
  | gap : HandoffPhase old false false [] .hold
  /-- The new reader is there and no edge is in; a poll may have shown it. -/
  | ahead (s : PresenceState) (hs : s = old.view ∨ s = old.other.view) :
      HandoffPhase old false true [old.removeEdge, old.other.appearEdge] s
  | arriving (s : PresenceState) (hs : s = .hold ∨ s = old.other.view) :
      HandoffPhase old false true [old.other.appearEdge] s
  | done : HandoffPhase old false true [] old.other.view

/-- What holds throughout an unhurried handoff. -/
structure HandoffInv (old : Transport) (w : Handoff) : Prop where
  hold : HoldInv w.obs
  phase : HandoffPhase old w.oldPresent w.newPresent w.pending w.obs.state

theorem Transport.view_ne (t : Transport) :
    t.view ≠ .none ∧ t.view ≠ .hold ∧ t.other.view ≠ t.view := by
  cases t <;> decide

/-! ## What each edge and each poll does in a handoff -/

/-- The removal edge finds the old transport shown: the hold begins. -/
theorem removal_shown {o : PresenceObserver} {t : Transport} (h : o.state = t.view) :
    (obsSmEvent o t.removeEdge).1.state = .hold ∧
      ∀ ev, (.absent, ev) ∉ (obsSmEvent o t.removeEdge).2 := by
  have hstep : presenceStep o.state t.removeEdge = ⟨.hold, .hold⟩ := by
    rw [h]
    cases t <;> rfl
  simp [obsSmEvent, hstep]

/-- The removal edge finds the new transport shown: nothing happens. -/
theorem removal_late {o : PresenceObserver} {t : Transport} (h : o.state = t.other.view) :
    (obsSmEvent o t.removeEdge).1.state = t.other.view ∧
      ∀ ev, (.absent, ev) ∉ (obsSmEvent o t.removeEdge).2 := by
  have hstep : presenceStep o.state t.removeEdge = ⟨t.other.view, .none⟩ := by
    rw [h]
    cases t <;> rfl
  simp [obsSmEvent, hstep]

/-- The appearance edge shows the transport. -/
theorem appearance_shows (o : PresenceObserver) (t : Transport) :
    (obsSmEvent o t.appearEdge).1.state = t.view ∧
      ∀ ev, (.absent, ev) ∉ (obsSmEvent o t.appearEdge).2 := by
  constructor
  · rw [state_obsSmEvent]
    cases t <;> cases o.state <;> rfl
  · rcases obsSmEvent_cases o t.appearEdge_ne with ⟨-, -, hstep⟩ | ⟨s, a, -, -, ha, hstep⟩ | hstep
    · simp [hstep]
    · simp [hstep, Ne.symm ha]
    · simp [hstep]

/-- A poll that finds one transport shows it. -/
theorem poll_shows (o : PresenceObserver) {bt usb : Bool} {t : Transport}
    (h : presenceViewFor bt usb = t.view) :
    (presenceObserverReconcile o bt usb).1.state = t.view ∧
      ∀ ev, (.absent, ev) ∉ (presenceObserverReconcile o bt usb).2 := by
  obtain ⟨hnone, -, -⟩ := t.view_ne
  unfold presenceObserverReconcile presenceReconcile
  simp only [h, hnone, and_false, if_false]
  by_cases hs : o.state = t.view
  · simp [hs]
  · simp only [if_neg hs]
    cases t <;> simp [Transport.view, renderFor]

/-- A poll that finds nothing leaves a hold alone. -/
theorem poll_holds {o : PresenceObserver} (h : o.state = .hold) {bt usb : Bool}
    (hnone : presenceViewFor bt usb = .none) :
    (presenceObserverReconcile o bt usb).1.state = .hold ∧
      ∀ ev, (.absent, ev) ∉ (presenceObserverReconcile o bt usb).2 := by
  simp [presenceObserverReconcile, presenceReconcile, h, hnone]

/-- A poll that finds nothing ends the view of a transport. -/
theorem poll_absent {o : PresenceObserver} {t : Transport} (h : o.state = t.view) {bt usb : Bool}
    (hnone : presenceViewFor bt usb = .none) :
    (.absent, .removalElapsed) ∈ (presenceObserverReconcile o bt usb).2 := by
  obtain ⟨hne, hhold, -⟩ := t.view_ne
  simp [presenceObserverReconcile, presenceReconcile, h, hnone, hne, hhold, renderFor]

/-- The truth a poll finds. -/
theorem presenceViewFor_present (w : Handoff) (old : Transport) :
    presenceViewFor (w.present old .bt) (w.present old .usb) =
      match w.oldPresent, w.newPresent with
      | true, false => old.view
      | false, true => old.other.view
      | false, false => .none
      | true, true => .bt := by
  obtain ⟨oldPresent, newPresent, pending, obs⟩ := w
  cases old <;> cases oldPresent <;> cases newPresent <;> rfl

/-! ## One event -/

/-- The readers change and leave the observer alone. -/
theorem handoff_readers {old : Transport} {w : Handoff} (hw : HandoffInv old w) :
    HandoffInv old (handoffStep old w .oldTerminates).1 ∧
      HandoffInv old (handoffStep old w .newAppears).1 := by
  obtain ⟨oldPresent, newPresent, pending, obs⟩ := w
  obtain ⟨hhold, hphase⟩ := hw
  dsimp only at hhold hphase
  generalize hs : obs.state = s at hphase
  cases hphase with
  | before => exact ⟨⟨hhold, hs ▸ .leaving⟩, ⟨hhold, hs ▸ .before⟩⟩
  | leaving => exact ⟨⟨hhold, hs ▸ .leaving⟩, ⟨hhold, hs ▸ .ahead _ (.inl rfl)⟩⟩
  | gap => exact ⟨⟨hhold, hs ▸ .gap⟩, ⟨hhold, hs ▸ .arriving _ (.inl rfl)⟩⟩
  | ahead s h => exact ⟨⟨hhold, hs ▸ .ahead _ h⟩, ⟨hhold, hs ▸ .ahead _ h⟩⟩
  | arriving s h => exact ⟨⟨hhold, hs ▸ .arriving _ h⟩, ⟨hhold, hs ▸ .arriving _ h⟩⟩
  | done => exact ⟨⟨hhold, hs ▸ .done⟩, ⟨hhold, hs ▸ .done⟩⟩

/-- An edge is delivered, and reports no absence. -/
theorem handoff_deliver {old : Transport} {w : Handoff} (hw : HandoffInv old w) :
    HandoffInv old (handoffStep old w .deliver).1 ∧
      ∀ ev, (.absent, ev) ∉ (handoffStep old w .deliver).2 := by
  obtain ⟨oldPresent, newPresent, pending, obs⟩ := w
  obtain ⟨hhold, hphase⟩ := hw
  dsimp only at hhold hphase
  have hremove := holdInv_obsSmEvent hhold old.removeEdge_ne
  have happear := holdInv_obsSmEvent hhold old.other.appearEdge_ne
  generalize hs : obs.state = s at hphase
  cases hphase with
  | before => exact ⟨⟨hhold, hs ▸ .before⟩, fun _ => List.not_mem_nil⟩
  | leaving =>
    obtain ⟨hnext, hsilent⟩ := removal_shown hs
    exact ⟨⟨hremove, hnext ▸ .gap⟩, hsilent⟩
  | gap => exact ⟨⟨hhold, hs ▸ .gap⟩, fun _ => List.not_mem_nil⟩
  | ahead s h =>
    rcases h with rfl | rfl
    · obtain ⟨hnext, hsilent⟩ := removal_shown hs
      exact ⟨⟨hremove, hnext ▸ .arriving _ (.inl rfl)⟩, hsilent⟩
    · obtain ⟨hnext, hsilent⟩ := removal_late hs
      exact ⟨⟨hremove, hnext ▸ .arriving _ (.inr rfl)⟩, hsilent⟩
  | arriving s h =>
    obtain ⟨hnext, hsilent⟩ := appearance_shows obs old.other
    exact ⟨⟨happear, hnext ▸ .done⟩, hsilent⟩
  | done => exact ⟨⟨hhold, hs ▸ .done⟩, fun _ => List.not_mem_nil⟩

/-- A poll finds the transport that is there, or nothing. -/
theorem handoff_poll {old : Transport} {w : Handoff} (hw : HandoffInv old w) :
    (NoAbsence old w .poll ↔ Unhurried w .poll) ∧
      (Unhurried w .poll → HandoffInv old (handoffStep old w .poll).1) := by
  have htruth := presenceViewFor_present w old
  have hpoll := holdInv_presenceObserverReconcile hw.hold (w.present old .bt) (w.present old .usb)
  have hstep : handoffStep old w .poll =
      ({ w with obs :=
          (presenceObserverReconcile w.obs (w.present old .bt) (w.present old .usb)).1 },
        (presenceObserverReconcile w.obs (w.present old .bt) (w.present old .usb)).2) := rfl
  generalize w.present old .bt = bt at htruth hpoll hstep
  generalize w.present old .usb = usb at htruth hpoll hstep
  unfold NoAbsence
  rw [hstep]
  clear hstep
  obtain ⟨oldPresent, newPresent, pending, obs⟩ := w
  obtain ⟨hhold, hphase⟩ := hw
  dsimp only at hhold hphase hpoll htruth ⊢
  generalize hs : obs.state = s at hphase
  cases hphase with
  | before =>
    obtain ⟨hnext, hsilent⟩ := poll_shows obs htruth
    exact ⟨iff_of_true (fun _ => hsilent) (by rintro ⟨⟩), fun _ => ⟨hpoll, hnext ▸ .before⟩⟩
  | leaving =>
    -- The truth is ahead of the removal edge: the view of the old transport is ended.
    have hhurried : ¬ Unhurried ⟨false, false, [old.removeEdge], obs⟩ .poll := fun h => by
      cases h rfl rfl
    refine ⟨iff_of_false (fun h => ?_) hhurried, fun h => absurd h hhurried⟩
    exact h (Ne.symm old.view_ne.2.2) _ (poll_absent hs htruth)
  | gap =>
    obtain ⟨hnext, hsilent⟩ := poll_holds hs htruth
    exact ⟨iff_of_true (fun _ => hsilent) (fun _ _ => rfl), fun _ => ⟨hpoll, hnext ▸ .gap⟩⟩
  | ahead s h =>
    obtain ⟨hnext, hsilent⟩ := poll_shows obs htruth
    exact ⟨iff_of_true (fun _ => hsilent) (by rintro - ⟨⟩),
      fun _ => ⟨hpoll, hnext ▸ .ahead _ (.inr rfl)⟩⟩
  | arriving s h =>
    obtain ⟨hnext, hsilent⟩ := poll_shows obs htruth
    exact ⟨iff_of_true (fun _ => hsilent) (by rintro - ⟨⟩),
      fun _ => ⟨hpoll, hnext ▸ .arriving _ (.inr rfl)⟩⟩
  | done =>
    obtain ⟨hnext, hsilent⟩ := poll_shows obs htruth
    exact ⟨iff_of_true (fun _ => hsilent) (by rintro - ⟨⟩), fun _ => ⟨hpoll, hnext ▸ .done⟩⟩

/-- The window of the hold reports the absence, and any other is used up. -/
theorem handoff_window {old : Transport} {w : Handoff} (hw : HandoffInv old w) (my : Nat) :
    (NoAbsence old w (.window my) ↔ Unhurried w (.window my)) ∧
      (Unhurried w (.window my) → HandoffInv old (handoffStep old w (.window my)).1) := by
  unfold NoAbsence
  by_cases hmem : my ∈ w.obs.windows
  · simp only [handoffStep, if_pos hmem]
    have hfired := holdInv_obsWindowFired hw.hold my
    rcases obsWindowFired_cases w.obs my with ⟨hmy, hs, hstep⟩ | ⟨hother, calls, hcalls, hstep⟩
    · have hhurried : ¬ Unhurried w (.window my) := fun h => h hs hmy
      refine ⟨iff_of_false (fun h => ?_) hhurried, fun h => absurd h hhurried⟩
      rw [hstep, hs] at h
      exact h (Ne.symm old.other.view_ne.2.1) _ List.mem_cons_self
    · rw [hstep] at hfired ⊢
      exact ⟨iff_of_true (fun _ => hcalls) fun hs hmy => hother ⟨hmy, hs⟩,
        fun _ => ⟨hfired, hw.phase⟩⟩
  · simp only [handoffStep, if_neg hmem]
    refine ⟨iff_of_true (fun _ _ => List.not_mem_nil) fun hs hmy => ?_, fun _ => hw⟩
    exact hmem (hmy ▸ hw.hold.armed hs)

/-- **One event of a handoff** reports no absence exactly when it is unhurried, and then the handoff
goes on. -/
theorem handoff_step {old : Transport} {w : Handoff} (hw : HandoffInv old w) (e : HandoffEvent) :
    (NoAbsence old w e ↔ Unhurried w e) ∧
      (Unhurried w e → HandoffInv old (handoffStep old w e).1) := by
  cases e with
  | oldTerminates =>
    refine ⟨iff_of_true (fun _ => ?_) trivial, fun _ => (handoff_readers hw).1⟩
    simp only [handoffStep]
    split <;> simp
  | newAppears =>
    refine ⟨iff_of_true (fun _ => ?_) trivial, fun _ => (handoff_readers hw).2⟩
    simp only [handoffStep]
    split <;> simp
  | deliver =>
    obtain ⟨hnext, hsilent⟩ := handoff_deliver hw
    exact ⟨iff_of_true (fun _ => hsilent) trivial, fun _ => hnext⟩
  | poll => exact handoff_poll hw
  | window my => exact handoff_window hw my

/-- **A handoff shows no absence exactly when it is unhurried**: whatever brought the observer to
show the old transport, in every interleaving of the two readers, their edges, polls and windows,
no absence is reported until the new transport is shown iff no poll finds the readers gone before
the removal edge is in, and the window of the hold does not fire before the new transport is
shown. -/
theorem handoff_seamless_iff (old : Transport) (history : List ObserverInput)
    (hshown : (observerAfter history).state = old.view) (es : List HandoffEvent) :
    Transducer.Along (handoffStep old) (NoAbsence old) (.start (observerAfter history)) es ↔
      Transducer.Along (handoffStep old) Unhurried (.start (observerAfter history)) es := by
  refine Transducer.along_iff (I := HandoffInv old) (fun w e hw => handoff_step hw e) ?_ es
  refine ⟨holdInv_observerAfter history, ?_⟩
  show HandoffPhase old true false [] (observerAfter history).state
  rw [hshown]
  exact .before

/-- The cable goes in, and polls come in the gap and before the new edge. -/
theorem handoff_seamless_iff_cable :
    Transducer.Along (handoffStep .bt) (NoAbsence .bt) (.start (observerAfter [.appear .bt]))
      [.oldTerminates, .deliver, .poll, .newAppears, .poll, .deliver, .window 2] := by
  refine (handoff_seamless_iff .bt [.appear .bt] rfl _).mpr
    ⟨trivial, trivial, fun _ _ => rfl, trivial, ?_, trivial, ?_, trivial⟩
  · intro _ hnew
    exact absurd hnew (by decide)
  · intro hhold
    exact absurd hhold (by decide)

/-- A poll right after the termination reports the absence, in a handoff in which no window
fires. -/
theorem poll_before_removal_edge :
    ¬ Transducer.Along (handoffStep .bt) (NoAbsence .bt) (.start (observerAfter [.appear .bt]))
      [.oldTerminates, .poll, .newAppears, .deliver, .deliver] := by
  intro h
  exact absurd (h.2.1 (by decide) .removalElapsed) (by decide)

end MagicTrackpad
