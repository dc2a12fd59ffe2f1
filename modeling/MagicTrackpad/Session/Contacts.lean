import MagicTrackpad.Session

/-!
# The contact protocol the recognizer sees

Apple's recognizer sees only the fed frames. Its view of the pad is what the last fed frame says is
down: the records it reports START or TOUCHING (`viewRecords`, `InView`), none after a zero-contact
frame. This module states the protocol between the session and that view (`ContactProtocol`) and
proves that every step of every connection under the shipped policy follows it
(`contact_protocol`): the view is the id set of the lifecycle, contacts enter it as START and stay
as TOUCHING, leave it by exactly one TS_END record with their last fed data or, all together, by
the absence pair.

`ViewInv` is the invariant that carries it: `prevIds` is the view, and the history of every id in
the view is the record last fed for it.
-/

namespace MagicTrackpad

open Lib
open Lib.Bitmask (hasBit)

/-! ## The receiver's side -/

/-- The frame a callback feeds. -/
def SinkCall.fed? : SinkCall → Option TouchFrame
  | .feedFrame f => some f
  | _ => none

/-- The frames fed by a list of callbacks, in order. -/
def fedFrames (calls : List SinkCall) : List TouchFrame := calls.filterMap SinkCall.fed?

/-- Reported START or TOUCHING. -/
def isDown (c : TouchContact) : Bool := c.state = .tsStart || c.state = .tsTouching

/-- Reported TS_END. -/
def isEnd (c : TouchContact) : Bool := c.state = .tsEnd

/-- What the receiver believes is down after a log: the down records of the last fed frame. -/
def viewRecords (log : List SinkCall) : List TouchContact :=
  match (fedFrames log).getLast? with
  | none => []
  | some f => f.contacts.filter isDown

/-- `id` is in the receiver's view. -/
def InView (log : List SinkCall) (id : Nat) : Prop := ∃ c ∈ viewRecords log, c.nib = id

/-- The down records fed by a list of callbacks, in order. -/
def downRecords (calls : List SinkCall) : List TouchContact :=
  (fedFrames calls).flatMap fun f => f.contacts.filter isDown

/-- The TS_END records fed by a list of callbacks, in order. -/
def endRecords (calls : List SinkCall) : List TouchContact :=
  (fedFrames calls).flatMap fun f => f.contacts.filter isEnd

/-- The contacts on the pad have pairwise distinct low-nibble ids. -/
def DistinctIds (tf : TouchFrame) : Prop := (tf.present.map TouchContact.nib).Nodup

instance (tf : TouchFrame) : Decidable (DistinctIds tf) :=
  inferInstanceAs (Decidable (List.Nodup _))

/-- The inputs of the protocol: any source and time, distinct ids on the pad. -/
def SessionInput.Distinct : SessionInput → Prop
  | .frame _ tf _ => DistinctIds tf
  | .timer => True

/-- **The contact protocol of one step** from `s` to `s'`, with the log so far and the callbacks of
the step. -/
structure ContactProtocol (s s' : Session) (log calls : List SinkCall) (i : SessionInput) :
    Prop where
  /-- The view is the id set of the lifecycle. -/
  view_eq : ∀ id, InView (log ++ calls) id ↔ hasBit s'.lifecycle.prevIds id = true
  /-- START only for an id that is not in the view. -/
  start_new : ∀ f ∈ fedFrames calls, ∀ c ∈ f.contacts, c.state = .tsStart → ¬ InView log c.nib
  /-- TOUCHING only for an id in the view. -/
  touching_old : ∀ f ∈ fedFrames calls, ∀ c ∈ f.contacts, c.state = .tsTouching → InView log c.nib
  /-- Every contact on the pad is fed exactly once, its data unchanged, in order. -/
  fed_once : ∀ source tf nowMs, i = .frame source tf nowMs → Accepts s source nowMs →
    (downRecords calls).map (·.withState .tsNone) = tf.present.map (·.withState .tsNone)
  /-- While a contact stays, each id that leaves the view gets exactly one TS_END record, with its
  last fed data. -/
  end_left : ∀ source tf nowMs, i = .frame source tf nowMs → Accepts s source nowMs →
    tf.present ≠ [] → ∀ id, InView log id → ¬ InView (log ++ calls) id →
      ∃ c ∈ viewRecords log, c.nib = id ∧
        (endRecords calls).filter (fun e => e.nib = id) = [c.withState .tsEnd]
  /-- No other id gets one, in any step. -/
  end_only : ∀ e ∈ endRecords calls, InView log e.nib ∧ ¬ InView (log ++ calls) e.nib
  /-- When the view becomes empty, exactly two zero-contact frames go out. -/
  absence_pair : (∃ id, InView log id) → (∀ id, ¬ InView (log ++ calls) id) →
    (fedFrames calls).map TouchFrame.contactCount = [0, 0]
  /-- A zero-contact frame goes out only then. -/
  absence_only : ∀ f ∈ fedFrames calls, f.contactCount = 0 →
    (∃ id, InView log id) ∧ ∀ id, ¬ InView (log ++ calls) id

/-- The invariant behind the protocol. -/
structure ViewInv (s : Session) (log : List SinkCall) : Prop where
  policy : s.policy = policyDefault
  view_eq : ∀ id, InView log id ↔ hasBit s.lifecycle.prevIds id = true
  /-- The history of an id in the view is the record last fed for it. -/
  last : ∀ c ∈ viewRecords log, s.lifecycle.last c.nib = c

/-! ## The view after a step -/

@[simp] theorem fedFrames_append (xs ys : List SinkCall) :
    fedFrames (xs ++ ys) = fedFrames xs ++ fedFrames ys := List.filterMap_append

theorem viewRecords_of_fed {calls : List SinkCall} (fs : List TouchFrame) {f : TouchFrame}
    (h : fedFrames calls = fs ++ [f]) (log : List SinkCall) :
    viewRecords (log ++ calls) = f.contacts.filter isDown := by
  rw [viewRecords, fedFrames_append, h, ← List.append_assoc, List.getLast?_concat]

theorem fedFrames_emit (s : Session) (tf : TouchFrame) : fedFrames (emit s tf).2 = [tf] := by
  simp only [emit, fedFrames]
  cases (buttonEdge (tf.isPhysicalButtonDown.setWidth 32) tf.contactCount s.lastButton).1 <;> rfl

theorem fedFrames_rearm (p : SessionPolicy) (m : U32) : fedFrames (rearm p m) = [] := by
  unfold rearm
  split <;> rfl

theorem fedFrames_absenceCalls (b : U32) : fedFrames (absenceCalls b) = [.zero, .zero] := by
  unfold absenceCalls
  split <;> rfl

theorem isDown_stampOf (m : U32) (c : TouchContact) : isDown (stampOf m c) = true := by
  rw [isDown, stampOf, TouchContact.state_withState]
  split <;> rfl

theorem isEnd_stampOf (m : U32) (c : TouchContact) : isEnd (stampOf m c) = false := by
  rw [isEnd, decide_eq_false_iff_not]
  exact stampOf_ne_end m c

/-- The down records of a conditioned frame with distinct ids are the stamped contacts. -/
theorem filter_isDown_conditioned (s : Session) {tf : TouchFrame} (hd : DistinctIds tf) :
    (conditioned s tf).contacts.filter isDown = tf.present.map (stampOf s.lifecycle.prevIds) := by
  rw [conditioned, contacts_lifecycleStep_of_distinct _ (by rwa [contacts_dropLifted]),
    contacts_dropLifted, List.filter_append, List.filter_map, List.filter_map]
  have hdown : isDown ∘ stampOf s.lifecycle.prevIds = fun _ => true :=
    funext fun c => isDown_stampOf _ c
  have hend : isDown ∘ endRecord s.lifecycle.last = fun _ => false := rfl
  rw [hdown, hend, List.filter_true, List.filter_false, List.map_nil, List.append_nil]

/-- Its TS_END records are those of the ids that left. -/
theorem filter_isEnd_conditioned (s : Session) {tf : TouchFrame} (hd : DistinctIds tf) :
    (conditioned s tf).contacts.filter isEnd =
      (endedIds s.lifecycle.prevIds tf.present).map (endRecord s.lifecycle.last) := by
  rw [conditioned, contacts_lifecycleStep_of_distinct _ (by rwa [contacts_dropLifted]),
    contacts_dropLifted, List.filter_append, List.filter_map, List.filter_map]
  have hdown : isEnd ∘ stampOf s.lifecycle.prevIds = fun _ => false :=
    funext fun c => isEnd_stampOf _ c
  have hend : isEnd ∘ endRecord s.lifecycle.last = fun _ => true := rfl
  rw [hdown, hend, List.filter_true, List.filter_false, List.map_nil, List.nil_append]

/-! ## The history under the view -/

theorem ViewInv.nib_last {s : Session} {log : List SinkCall} (hinv : ViewInv s log) {id : Nat}
    (hid : hasBit s.lifecycle.prevIds id = true) :
    s.lifecycle.last id ∈ viewRecords log ∧ (s.lifecycle.last id).nib = id := by
  obtain ⟨c, hc, rfl⟩ := (hinv.view_eq id).mpr hid
  rw [hinv.last c hc]
  exact ⟨hc, rfl⟩

theorem ViewInv.idsBelow16 {s : Session} {log : List SinkCall} (hinv : ViewInv s log) :
    IdsBelow16 s.lifecycle.prevIds := by
  intro id hid
  rw [← (hinv.nib_last hid).2]
  exact (s.lifecycle.last id).nib_lt

theorem ViewInv.pairPolicy {s : Session} {log : List SinkCall} (hinv : ViewInv s log) :
    PairPolicy s.policy := by
  rw [hinv.policy]
  exact pairPolicy_default

/-- Something down: an id in the view. -/
theorem ViewInv.nonempty_of_ne {s : Session} {log : List SinkCall} (hinv : ViewInv s log)
    (hleft : endedIds s.lifecycle.prevIds [] ≠ []) : ∃ id, InView log id := by
  obtain ⟨id, hid⟩ := List.exists_mem_of_ne_nil _ hleft
  exact ⟨id, (hinv.view_eq id).mpr (mem_endedIds.mp hid).2.1⟩

/-! ## One step keeps the invariant and follows the protocol -/

/-- A step that makes no callback and leaves the same ids down. -/
theorem protocol_of_silent {s s' : Session} {log : List SinkCall} {i : SessionInput}
    (hinv : ViewInv s log) (hprev : s'.lifecycle.prevIds = s.lifecycle.prevIds)
    (hfed : ∀ source tf nowMs, i = .frame source tf nowMs → Accepts s source nowMs →
      tf.present = []) :
    ContactProtocol s s' log [] i where
  view_eq id := by rw [List.append_nil, hprev]; exact hinv.view_eq id
  start_new f hf := absurd hf List.not_mem_nil
  touching_old f hf := absurd hf List.not_mem_nil
  fed_once source tf nowMs hi hacc := by rw [hfed source tf nowMs hi hacc]; rfl
  end_left source tf nowMs hi hacc hp := absurd (hfed source tf nowMs hi hacc) hp
  end_only e he := absurd he List.not_mem_nil
  absence_pair := by
    rintro ⟨id, hid⟩ hnone
    rw [List.append_nil] at hnone
    exact absurd hid (hnone id)
  absence_only f hf := absurd hf List.not_mem_nil

theorem viewInv_of_silent {s s' : Session} {log : List SinkCall} (hinv : ViewInv s log)
    (hpol : s'.policy = s.policy) (hprev : s'.lifecycle.prevIds = s.lifecycle.prevIds)
    (hlast : s'.lifecycle.last = s.lifecycle.last) : ViewInv s' (log ++ []) where
  policy := hpol.trans hinv.policy
  view_eq id := by rw [List.append_nil, hprev]; exact hinv.view_eq id
  last c hc := by rw [List.append_nil] at hc; rw [hlast]; exact hinv.last c hc

/-- A step that feeds the absence pair to a nonempty view and leaves nobody down. -/
theorem protocol_of_absence {s s' : Session} {log : List SinkCall} {b : U32} {i : SessionInput}
    (hsome : ∃ id, InView log id) (hprev : s'.lifecycle.prevIds = 0#32)
    (hfed : ∀ source tf nowMs, i = .frame source tf nowMs → Accepts s source nowMs →
      tf.present = []) :
    ContactProtocol s s' log (absenceCalls b) i := by
  have hview : viewRecords (log ++ absenceCalls b) = [] :=
    viewRecords_of_fed [.zero] (fedFrames_absenceCalls b) log
  have hnone : ∀ id, ¬ InView (log ++ absenceCalls b) id := by
    rintro id ⟨c, hc, -⟩
    rw [hview] at hc
    exact List.not_mem_nil hc
  have hzero : ∀ f ∈ fedFrames (absenceCalls b), f.contacts = [] := by
    intro f hf
    rw [fedFrames_absenceCalls] at hf
    simp only [List.mem_cons, List.not_mem_nil, or_false, or_self] at hf
    rw [hf]
    rfl
  have hdown : downRecords (absenceCalls b) = [] := by
    rw [downRecords, fedFrames_absenceCalls]
    rfl
  have hend : endRecords (absenceCalls b) = [] := by
    rw [endRecords, fedFrames_absenceCalls]
    rfl
  constructor
  · intro id
    rw [hprev, Bitmask.hasBit_zero]
    exact iff_of_false (hnone id) Bool.false_ne_true
  · intro f hf c hc
    rw [hzero f hf] at hc
    exact absurd hc List.not_mem_nil
  · intro f hf c hc
    rw [hzero f hf] at hc
    exact absurd hc List.not_mem_nil
  · intro source tf nowMs hi hacc
    rw [hfed source tf nowMs hi hacc, hdown]
  · intro source tf nowMs hi hacc hp
    exact absurd (hfed source tf nowMs hi hacc) hp
  · intro e he
    rw [hend] at he
    exact absurd he List.not_mem_nil
  · intro _ _
    rw [fedFrames_absenceCalls]
    rfl
  · intro _ _ _
    exact ⟨hsome, hnone⟩

theorem viewInv_of_absence {s' : Session} {log : List SinkCall} {b : U32}
    (hpol : s'.policy = policyDefault) (hprev : s'.lifecycle.prevIds = 0#32) :
    ViewInv s' (log ++ absenceCalls b) := by
  have hview : viewRecords (log ++ absenceCalls b) = [] :=
    viewRecords_of_fed [.zero] (fedFrames_absenceCalls b) log
  refine ⟨hpol, fun id => ?_, fun c hc => ?_⟩
  · rw [hprev, Bitmask.hasBit_zero, InView, hview]
    simp
  · rw [hview] at hc
    exact absurd hc List.not_mem_nil

section Touching

variable {s : Session} {log : List SinkCall} {tf : TouchFrame}

/-- What a frame with contacts on the pad feeds: one frame, and an edge before it. -/
theorem fedFrames_touching (s' : Session) (f : TouchFrame) (p : SessionPolicy) (m : U32) :
    fedFrames ((emit s' f).2 ++ rearm p m) = [f] := by
  rw [fedFrames_append, fedFrames_emit, fedFrames_rearm, List.append_nil]

theorem viewRecords_touching {calls : List SinkCall} (hd : DistinctIds tf)
    (hfed : fedFrames calls = [conditioned s tf]) :
    viewRecords (log ++ calls) = tf.present.map (stampOf s.lifecycle.prevIds) := by
  rw [viewRecords_of_fed [] hfed, filter_isDown_conditioned s hd]

theorem inView_touching {calls : List SinkCall} (hd : DistinctIds tf)
    (hfed : fedFrames calls = [conditioned s tf]) (id : Nat) :
    InView (log ++ calls) id ↔ ∃ c ∈ tf.present, c.nib = id := by
  rw [InView, viewRecords_touching hd hfed]
  simp

theorem viewInv_touching {s' : Session} {calls : List SinkCall} (hinv : ViewInv s log)
    (hd : DistinctIds tf) (hfed : fedFrames calls = [conditioned s tf])
    (hpol : s'.policy = s.policy) (hlc : s'.lifecycle = steppedLifecycle s tf) :
    ViewInv s' (log ++ calls) := by
  refine ⟨hpol.trans hinv.policy, fun id => ?_, fun c hc => ?_⟩
  · rw [inView_touching hd hfed, hlc, prevIds_stepped, hasBit_presentIds]
  · rw [viewRecords_touching hd hfed] at hc
    obtain ⟨c', hc', rfl⟩ := List.mem_map.mp hc
    rw [hlc, last_stepped, nib_stampOf]
    exact recordAll_present _ _ hd hc'

/-- The TS_END records of one id that left. -/
theorem filter_endRecord {last : Nat → TouchContact} {ids : List Nat}
    (hnib : ∀ id ∈ ids, (last id).nib = id) (hnd : ids.Nodup) {id : Nat} (hid : id ∈ ids) :
    (ids.map (endRecord last)).filter (fun e => e.nib = id) = [endRecord last id] := by
  have hpred : ∀ j ∈ ids, decide ((endRecord last j).nib = id) = (j == id) := by
    intro j hj
    rw [endRecord, TouchContact.nib_withState, hnib j hj]
    rfl
  rw [List.filter_map, show (fun e : TouchContact => decide (e.nib = id)) ∘ endRecord last =
    fun j => decide ((endRecord last j).nib = id) from rfl, List.filter_congr hpred,
    List.filter_beq, hnd.count, if_pos hid]
  rfl

/-- The protocol when something is on the pad. -/
theorem protocol_touching {s' : Session} {calls : List SinkCall} {source : Source} {nowMs : U32}
    (hinv : ViewInv s log) (hd : DistinctIds tf) (hp : tf.present ≠ [])
    (hfed : fedFrames calls = [conditioned s tf]) (hlc : s'.lifecycle = steppedLifecycle s tf) :
    ContactProtocol s s' log calls (.frame source tf nowMs) := by
  have hview : ∀ id, InView (log ++ calls) id ↔ ∃ c ∈ tf.present, c.nib = id :=
    inView_touching hd hfed
  have hends : endRecords calls =
      (endedIds s.lifecycle.prevIds tf.present).map (endRecord s.lifecycle.last) := by
    rw [endRecords, hfed, List.flatMap_singleton, filter_isEnd_conditioned s hd]
  have hmem : ∀ f ∈ fedFrames calls, ∀ c ∈ f.contacts, isDown c = true →
      ∃ c' ∈ tf.present, stampOf s.lifecycle.prevIds c' = c := by
    intro f hf c hc hdown
    rw [hfed, List.mem_singleton] at hf
    have hcf : c ∈ (conditioned s tf).contacts.filter isDown :=
      List.mem_filter.mpr ⟨hf ▸ hc, hdown⟩
    rw [filter_isDown_conditioned s hd] at hcf
    exact List.mem_map.mp hcf
  have hleft : ∀ id, InView log id → ¬ InView (log ++ calls) id →
      id ∈ endedIds s.lifecycle.prevIds tf.present := by
    intro id hin hout
    have hbit := (hinv.view_eq id).mp hin
    rw [hview] at hout
    exact mem_endedIds.mpr
      ⟨hinv.idsBelow16 id hbit, hbit, fun c hc hne => hout ⟨c, hc, hne⟩⟩
  have hnib : ∀ id ∈ endedIds s.lifecycle.prevIds tf.present, (s.lifecycle.last id).nib = id :=
    fun id hid => (hinv.nib_last (mem_endedIds.mp hid).2.1).2
  obtain ⟨c₀, hc₀⟩ := List.exists_mem_of_ne_nil _ hp
  constructor
  · intro id
    rw [hview, hlc, prevIds_stepped, hasBit_presentIds]
  · intro f hf c hc hstart
    obtain ⟨c', _, rfl⟩ := hmem f hf c hc (by simp [isDown, hstart])
    rw [hinv.view_eq, nib_stampOf]
    intro hbit
    rw [stampOf, TouchContact.state_withState, if_pos hbit] at hstart
    exact absurd hstart (by decide)
  · intro f hf c hc htouch
    obtain ⟨c', _, rfl⟩ := hmem f hf c hc (by simp [isDown, htouch])
    rw [hinv.view_eq, nib_stampOf]
    by_contra hbit
    rw [stampOf, TouchContact.state_withState, if_neg hbit] at htouch
    exact absurd htouch (by decide)
  · intro source' tf' nowMs' hi _
    obtain ⟨-, rfl, -⟩ := SessionInput.frame.inj hi
    rw [downRecords, hfed, List.flatMap_singleton, filter_isDown_conditioned s hd, List.map_map]
    rfl
  · intro source' tf' nowMs' hi _ _ id hin hout
    have hid := hleft id hin hout
    obtain ⟨hrec, hnibid⟩ := hinv.nib_last (mem_endedIds.mp hid).2.1
    refine ⟨s.lifecycle.last id, hrec, hnibid, ?_⟩
    rw [hends]
    exact filter_endRecord hnib (nodup_endedIds _ _) hid
  · intro e he
    rw [hends] at he
    obtain ⟨id, hid, rfl⟩ := List.mem_map.mp he
    have hnibid : (endRecord s.lifecycle.last id).nib = id := hnib id hid
    obtain ⟨-, hbit, hgone⟩ := mem_endedIds.mp hid
    rw [hnibid, hview, hinv.view_eq]
    refine ⟨hbit, ?_⟩
    rintro ⟨c, hc, hne⟩
    exact hgone c hc hne
  · intro _ hnone
    exact absurd ((hview c₀.nib).mpr ⟨c₀, hc₀, rfl⟩) (hnone c₀.nib)
  · intro f hf hcount
    rw [hfed, List.mem_singleton] at hf
    have hpos := (conditioned_of_present (s := s) hp).1
    rw [hf] at hcount
    exact absurd hcount (Nat.ne_of_gt hpos)

end Touching

/-- **One step**: from a state under the invariant every input follows the protocol and keeps the
invariant. -/
theorem contactProtocol_step {s : Session} {log : List SinkCall} (hinv : ViewInv s log)
    {i : SessionInput} (hd : i.Distinct) :
    ContactProtocol s (sessionStep s i).1 log (sessionStep s i).2 i ∧
      ViewInv (sessionStep s i).1 (log ++ (sessionStep s i).2) := by
  have hkind := stepKind hinv.pairPolicy i
  generalize sessionStep s i = r at hkind ⊢
  cases hkind with
  | refused h =>
    refine ⟨protocol_of_silent hinv rfl ?_, viewInv_of_silent hinv rfl rfl rfl⟩
    intro source' tf' nowMs' hi hacc
    obtain ⟨rfl, -, rfl⟩ := SessionInput.frame.inj hi
    exact absurd hacc h
  | @touching source tf nowMs h hp =>
    have hfed := fedFrames_touching { s with lifecycle := steppedLifecycle s tf } (conditioned s tf)
      s.policy (presentIds tf.present)
    exact ⟨protocol_touching hinv hd hp hfed rfl, viewInv_touching hinv hd hfed rfl rfl⟩
  | @lift source tf nowMs h hp hleft =>
    have hprev : (steppedLifecycle s tf).prevIds = 0#32 := by rw [prevIds_stepped, hp]; rfl
    refine ⟨protocol_of_absence (hinv.nonempty_of_ne hleft) hprev ?_,
      viewInv_of_absence hinv.policy hprev⟩
    intro source' tf' nowMs' hi _
    obtain ⟨-, rfl, -⟩ := SessionInput.frame.inj hi
    exact hp
  | @idle source tf nowMs h hp hleft =>
    have hzero := (endedIds_nil_eq_nil hinv.idsBelow16).mp hleft
    have hprev : (steppedLifecycle s tf).prevIds = s.lifecycle.prevIds := by
      rw [prevIds_stepped, hp, hzero]; rfl
    have hlast : (steppedLifecycle s tf).last = s.lifecycle.last := by rw [last_stepped, hp]; rfl
    refine ⟨protocol_of_silent hinv hprev ?_, viewInv_of_silent hinv rfl hprev hlast⟩
    intro source' tf' nowMs' hi _
    obtain ⟨-, rfl, -⟩ := SessionInput.frame.inj hi
    exact hp
  | flush hleft =>
    exact ⟨protocol_of_absence (hinv.nonempty_of_ne hleft) rfl
      (fun _ _ _ hi => absurd hi (by simp)), viewInv_of_absence hinv.policy rfl⟩
  | quiet hleft =>
    have hzero := (endedIds_nil_eq_nil hinv.idsBelow16).mp hleft
    exact ⟨protocol_of_silent hinv hzero.symm (fun _ _ _ hi => absurd hi (by simp)),
      viewInv_of_silent hinv rfl hzero.symm rfl⟩

/-- The invariant holds right after a connect, whatever the memory held. -/
theorem viewInv_connect (s : Session) (source : Source) (mode : TransportMode) (nowMs : U32) :
    ViewInv (sessionConnect s source mode policyDefault nowMs) [] where
  policy := rfl
  view_eq id := by
    have hprev : (sessionConnect s source mode policyDefault nowMs).lifecycle.prevIds = 0#32 := rfl
    rw [hprev, Bitmask.hasBit_zero, InView]
    simp [viewRecords, fedFrames]
  last c hc := absurd hc (by simp [viewRecords, fedFrames])

theorem viewInv_run (s : Session) (source : Source) (mode : TransportMode) (nowMs : U32)
    {is : List SessionInput} (his : ∀ j ∈ is, j.Distinct) :
    ViewInv
      (Transducer.run sessionStep (sessionConnect s source mode policyDefault nowMs) is).1
      (Transducer.run sessionStep (sessionConnect s source mode policyDefault nowMs) is).2 :=
  Transducer.run_induction sessionStep (viewInv_connect s source mode nowMs)
    (fun _ _ _ hi hinv => (contactProtocol_step hinv hi).2) is his

/-- **The contact protocol holds of every step of every connection** under the shipped policy. -/
theorem contact_protocol (s : Session) (source : Source) (mode : TransportMode) (nowMs : U32)
    (is : List SessionInput) (his : ∀ j ∈ is, j.Distinct) (i : SessionInput) (hi : i.Distinct) :
    let r := Transducer.run sessionStep (sessionConnect s source mode policyDefault nowMs) is
    ContactProtocol r.1 (sessionStep r.1 i).1 r.2 (sessionStep r.1 i).2 i :=
  (contactProtocol_step (viewInv_run s source mode nowMs his) hi).1

theorem contact_protocol_partial_lift :
    let both := TouchFrame.ofContacts [.ofId 3 20, .ofId 7 25] 0
    let one := TouchFrame.ofContacts [.ofId 3 20, .ofId 7 0] 0
    let r := Transducer.run sessionStep (sessionConnect .zeroed 1 .eventDriven policyDefault 0)
      [.frame 1 both 5]
    ContactProtocol r.1 (sessionStep r.1 (.frame 1 one 9)).1 r.2
      (sessionStep r.1 (.frame 1 one 9)).2
      (.frame 1 one 9) :=
  contact_protocol .zeroed 1 .eventDriven 0 [.frame 1 (.ofContacts [.ofId 3 20, .ofId 7 25] 0) 5]
    (by
      intro j hj
      rw [List.mem_singleton.mp hj]
      show DistinctIds _
      decide)
    (.frame 1 (.ofContacts [.ofId 3 20, .ofId 7 0] 0) 9) (by show DistinctIds _; decide)

end MagicTrackpad
