import MagicTrackpad.Session

/-!
# A connection forgets everything

`mavericks_session_connect` clears the mask of the ids that are down and leaves `last[]` as the
memory held it: a record is read only for an id of the mask, and every such record was stored in
this connection. Two sessions are the same to their sink (`SameView`) when they agree on what the
connect fixed, on the button, on the mask and on the records of its ids (`SameDown`); a stale record
is outside the relation, so nothing of it can reach a callback.

* `lifecycleStep_sameDown`, `lifecycleFlush_sameDown`: neither pass reads outside the relation.
* `sameView_step`: one input brings the same callbacks and keeps the relation, under every policy.
* `connect_forgets`: two connections that start alike have equal logs, whatever came before them.
-/

namespace MagicTrackpad

open Lib
open Lib.Bitmask (hasBit)

/-! ## The lifecycle -/

/-- Two lifecycles that agree on the ids that are down, and on the records of these. -/
structure SameDown (l k : Lifecycle) : Prop where
  prevIds : l.prevIds = k.prevIds
  last : ∀ id, hasBit l.prevIds id = true → l.last id = k.last id

/-- Nobody is down: no record is read. -/
theorem SameDown.of_zero {l k : Lifecycle} (hl : l.prevIds = 0#32) (hk : k.prevIds = 0#32) :
    SameDown l k where
  prevIds := hl.trans hk.symm
  last id hid := by
    rw [hl, Bitmask.hasBit_zero] at hid
    exact absurd hid Bool.false_ne_true

/-- Pass 1 stores the record of every id it sets in the mask. -/
theorem recordAll_congr (m : U32) {last last' : Nat → TouchContact} {cs : List TouchContact}
    {id : Nat} (h : (∃ c ∈ cs, c.nib = id) ∨ last id = last' id) :
    recordAll m last cs id = recordAll m last' cs id :=
  rel_recordAll (fun _ _ he => he ▸ ⟨rfl, rfl⟩) (List.forall₂_same.mpr fun _ _ => rfl) h

/-- **One frame**: pass 2 reads the records of ids that were down, and what it leaves agrees on the
ids that are down now. -/
theorem lifecycleStep_sameDown {l k : Lifecycle} (h : SameDown l k) (f : TouchFrame) :
    SameDown (lifecycleStep l f).1 (lifecycleStep k f).1 ∧
      (lifecycleStep l f).2 = (lifecycleStep k f).2 := by
  refine ⟨⟨?_, fun id hid => ?_⟩, ?_⟩
  · rw [prevIds_lifecycleStep, prevIds_lifecycleStep]
  · rw [prevIds_lifecycleStep, hasBit_presentIds] at hid
    rw [last_lifecycleStep, last_lifecycleStep, h.prevIds]
    exact recordAll_congr _ (Or.inl hid)
  · simp only [lifecycleStep, pass1_eq]
    rw [← h.prevIds]
    refine congrArg (fun b => { f with transducers := b }) (SlotBuffer.fold_push_congr ?_ _)
    intro id _ hended
    rw [Bool.and_eq_true] at hended
    rw [endRecord, endRecord, recordAll_congr _ (Or.inr (h.last id hended.1))]

/-- **One watchdog flush.** -/
theorem lifecycleFlush_sameDown {l k : Lifecycle} (h : SameDown l k) (out : TouchFrame) :
    SameDown (lifecycleFlush l out).1 (lifecycleFlush k out).1 ∧
      (lifecycleFlush l out).2 = (lifecycleFlush k out).2 := by
  refine ⟨.of_zero rfl rfl, ?_⟩
  simp only [lifecycleFlush, ← h.prevIds]
  congr 1
  refine SlotBuffer.fold_push_congr ?_ _
  intro id _ hdown
  rw [endRecord, endRecord, h.last id hdown]

/-! ## The session -/

/-- Two sessions that are the same to their sink. -/
structure SameView (s t : Session) : Prop where
  config : s.config = t.config
  lastButton : s.lastButton = t.lastButton
  lifecycle : SameDown s.lifecycle t.lifecycle

/-- One operation of the session on two states: the same callbacks, and the relation is kept. -/
def SameResult (r q : Session × List SinkCall) : Prop := SameView r.1 q.1 ∧ r.2 = q.2

section Step

variable {s t : Session} (h : SameView s t)

include h

theorem SameView.policy : s.policy = t.policy := policy_of_config h.config

theorem SameView.withLifecycle {l k : Lifecycle} (hlk : SameDown l k) :
    SameView { s with lifecycle := l } { t with lifecycle := k } :=
  ⟨h.config, h.lastButton, hlk⟩

theorem SameView.emit (f : TouchFrame) : SameResult (emit s f) (emit t f) := by
  unfold SameResult MagicTrackpad.emit
  rw [h.lastButton]
  exact ⟨⟨h.config, rfl, h.lifecycle⟩, rfl⟩

theorem SameView.emitWithLiftoff (f : TouchFrame) :
    SameResult (emitWithLiftoff s f) (emitWithLiftoff t f) := by
  unfold MagicTrackpad.emitWithLiftoff
  by_cases hbreak : frameAllBreaktouch f = true
  · obtain ⟨habsence, hcalls⟩ := h.emit .zero
    obtain ⟨hpump, hcalls'⟩ := habsence.emit .zero
    rw [if_pos hbreak, if_pos hbreak]
    exact ⟨hpump, congrArg₂ (· ++ ·) hcalls hcalls'⟩
  · rw [if_neg hbreak, if_neg hbreak]
    exact h.emit f

theorem SameView.emitConditioned (f : TouchFrame) :
    SameResult (emitConditioned s f) (emitConditioned t f) := by
  unfold MagicTrackpad.emitConditioned
  rw [← h.policy]
  by_cases hcount : 0 < f.contactCount
  · rw [if_pos hcount, if_pos hcount]
    cases s.policy.liftoffShape with
    | absencePair => exact h.emitWithLiftoff f
    | passthrough => exact h.emit f
  · rw [if_neg hcount, if_neg hcount]
    by_cases hempty : s.policy.emitEmptyFrames = true
    · rw [if_pos hempty, if_pos hempty]
      exact h.emit f
    · rw [if_neg hempty, if_neg hempty]
      exact ⟨h, rfl⟩

theorem SameView.sessionFrame (source : Source) (tf : TouchFrame) (nowMs : U32) :
    SameResult (sessionFrame s source tf nowMs) (sessionFrame t source tf nowMs) := by
  have haccepts : Accepts s source nowMs ↔ Accepts t source nowMs := accepts_of_config h.config
  by_cases hacc : Accepts s source nowMs
  · obtain ⟨hdown, hframe⟩ := lifecycleStep_sameDown h.lifecycle (dropLifted tf)
    have hstepped : SameDown (steppedLifecycle s tf) (steppedLifecycle t tf) := hdown
    have hsame : conditioned t tf = conditioned s tf := hframe.symm
    obtain ⟨hview, hcalls⟩ := (h.withLifecycle hstepped).emitConditioned (conditioned s tf)
    rw [sessionFrame_accepted hacc, sessionFrame_accepted (haccepts.mp hacc), hsame]
    refine ⟨hview, ?_⟩
    -- the watchdog is armed on the mask that is left, on which the two agree
    show _ ++ rearm s.policy _ = _ ++ rearm t.policy _
    rw [hcalls, hview.lifecycle.prevIds, h.policy]
  · rw [sessionFrame_refused hacc, sessionFrame_refused fun ht => hacc (haccepts.mpr ht)]
    exact ⟨h, rfl⟩

theorem SameView.sessionTimer : SameResult (sessionTimer s) (sessionTimer t) := by
  obtain ⟨hdown, hframe⟩ := lifecycleFlush_sameDown h.lifecycle .zero
  unfold MagicTrackpad.sessionTimer
  simp only [← hframe]
  by_cases hcount : 0 < (lifecycleFlush s.lifecycle .zero).2.contactCount
  · rw [if_pos hcount, if_pos hcount]
    exact (h.withLifecycle hdown).emitWithLiftoff _
  · rw [if_neg hcount, if_neg hcount]
    exact ⟨h.withLifecycle hdown, rfl⟩

/-- **One input brings the same callbacks**, and the two sessions stay the same to their sink. -/
theorem sameView_step (i : SessionInput) : SameResult (sessionStep s i) (sessionStep t i) := by
  cases i with
  | frame source tf nowMs => exact h.sessionFrame source tf nowMs
  | timer => exact h.sessionTimer

end Step

/-- Two connects with the same arguments, whatever the two memories held. -/
theorem sameView_connect (s t : Session) (source : Source) (mode : TransportMode)
    (policy : SessionPolicy) (nowMs : U32) :
    SameView (sessionConnect s source mode policy nowMs)
      (sessionConnect t source mode policy nowMs) :=
  ⟨rfl, rfl, .of_zero rfl rfl⟩

/-- **A connection forgets everything**: after connects with the same arguments, the same frames and
timer firings bring the same callbacks in the same order, with equal masks, frames and delays. -/
theorem connect_forgets (s t : Session) (source : Source) (mode : TransportMode)
    (policy : SessionPolicy) (nowMs : U32) (is : List SessionInput) :
    (Transducer.run sessionStep (sessionConnect s source mode policy nowMs) is).2 =
      (Transducer.run sessionStep (sessionConnect t source mode policy nowMs) is).2 :=
  Transducer.run_unwinding (R := SameView) (fun _ _ i h => sameView_step h i)
    (sameView_connect s t source mode policy nowMs) is

end MagicTrackpad
