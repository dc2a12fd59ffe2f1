import MagicTrackpad.Session.Contacts

/-!
# The physical button: edges and click masks

`mavericks_button_edge` turns the device's button bit into edges for the sink, and `emit` posts an
edge right before the frame it belongs to. `last_button` changes only there, and an input runs
`emit` once, twice or not at all, sometimes on a synthesized empty frame.

* `button_protocol`: along every connection under the shipped policy the posted masks alternate
  press and release, `last_button` is held only while a contact is down, follows every accepted
  frame, and every edge stands immediately before the feed of its frame.
* `press_mask`: a press posts 0x2 iff the conditioned frame carries two records, under every policy;
  the records of the contacts that are lifting count (`contactCount_conditioned`).
* `press_mask_correct_iff`: exactly when that is the mask of the fingers really on the pad.
* `secondary_click_from_one_finger`: one finger lifts while the other presses, and the click is
  posted as secondary.
-/

namespace MagicTrackpad

open Lib
open Lib.Bitmask (hasBit)

/-! ## The posted masks -/

/-- The mask a callback posts. -/
def SinkCall.mask? : SinkCall → Option U32
  | .postButtonEdge m => some m
  | _ => none

/-- The masks posted by a list of callbacks, in order. -/
def postedMasks (calls : List SinkCall) : List U32 := calls.filterMap SinkCall.mask?

/-- The masks strictly alternate press (non-zero) and release (0); `held` says whether the button
is down before the first of them. -/
def Alternates : Bool → List U32 → Prop
  | _, [] => True
  | false, m :: ms => m ≠ 0#32 ∧ Alternates true ms
  | true, m :: ms => m = 0#32 ∧ Alternates false ms

/-- Whether the button is down after the masks. -/
def heldAfter (held : Bool) (ms : List U32) : Bool := ms.foldl (fun _ m => m ≠ 0#32) held

/-- The frame's physical-button bit. -/
def pressed (tf : TouchFrame) : Bool := tf.isPhysicalButtonDown ≠ 0#8

/-- The values of `last_button`. -/
def bitOf (held : Bool) : U32 := if held then 1#32 else 0#32

/-- Every edge is followed at once by the feed of a frame with that button, and a press by a frame
with a contact. -/
def EdgesFed : List SinkCall → Prop
  | [] => True
  | .postButtonEdge m :: rest =>
    (∃ f rest', rest = .feedFrame f :: rest' ∧ (m ≠ 0#32 ↔ pressed f = true) ∧
      (m ≠ 0#32 → 0 < f.contactCount)) ∧ EdgesFed rest
  | _ :: rest => EdgesFed rest

@[simp] theorem postedMasks_append (xs ys : List SinkCall) :
    postedMasks (xs ++ ys) = postedMasks xs ++ postedMasks ys := List.filterMap_append

theorem alternates_append (held : Bool) (xs ys : List U32) :
    Alternates held (xs ++ ys) ↔ Alternates held xs ∧ Alternates (heldAfter held xs) ys := by
  induction xs generalizing held with
  | nil => simp [Alternates, heldAfter]
  | cons m ms ih =>
    cases held with
    | false =>
      simp only [List.cons_append, Alternates, ih, and_assoc]
      refine and_congr_right fun hm => ?_
      simp [heldAfter, hm]
    | true =>
      simp only [List.cons_append, Alternates, ih, and_assoc]
      refine and_congr_right fun hm => ?_
      simp [heldAfter, hm]

theorem heldAfter_append (held : Bool) (xs ys : List U32) :
    heldAfter held (xs ++ ys) = heldAfter (heldAfter held xs) ys := List.foldl_append

theorem edgesFed_append {xs ys : List SinkCall} (hx : EdgesFed xs) (hy : EdgesFed ys) :
    EdgesFed (xs ++ ys) := by
  induction xs with
  | nil => exact hy
  | cons c xs ih =>
    cases c with
    | postButtonEdge m =>
      obtain ⟨⟨f, rest, rfl, hbit, hcount⟩, hrest⟩ := hx
      exact ⟨⟨f, rest ++ ys, rfl, hbit, hcount⟩, ih hrest⟩
    | feedFrame f => exact ih hx
    | armTimer ms => exact ih hx

/-- `EdgesFed`, read at any position of the log. -/
theorem edgesFed_at {log before after : List SinkCall} {m : U32} (h : EdgesFed log)
    (hlog : log = before ++ .postButtonEdge m :: after) :
    ∃ f rest, after = .feedFrame f :: rest ∧ (m ≠ 0#32 ↔ pressed f = true) ∧
      (m ≠ 0#32 → 0 < f.contactCount) := by
  induction before generalizing log with
  | nil =>
    subst hlog
    exact h.1
  | cons c before ih =>
    subst hlog
    cases c with
    | postButtonEdge m' => exact ih h.2 rfl
    | feedFrame f =>
      have hrest : EdgesFed (before ++ .postButtonEdge m :: after) := h
      exact ih hrest rfl
    | armTimer ms =>
      have hrest : EdgesFed (before ++ .postButtonEdge m :: after) := h
      exact ih hrest rfl

/-! ## What `emit` posts -/

theorem button_eq_zero_iff (tf : TouchFrame) :
    tf.isPhysicalButtonDown.setWidth 32 = 0#32 ↔ pressed tf = false := by
  have hlt := tf.isPhysicalButtonDown.isLt
  have hzero : tf.isPhysicalButtonDown.setWidth 32 = 0#32 ↔ tf.isPhysicalButtonDown = 0#8 := by
    rw [BitVec.toNat_eq, BitVec.toNat_eq, BitVec.toNat_setWidth]
    simp only [BitVec.toNat_ofNat]
    omega
  rw [hzero, pressed]
  simp

theorem button_ne_zero {tf : TouchFrame} (hp : pressed tf = true) :
    tf.isPhysicalButtonDown.setWidth 32 ≠ 0#32 := fun hz =>
  Bool.false_ne_true (((button_eq_zero_iff tf).mp hz).symm.trans hp)

theorem asBit_button (tf : TouchFrame) :
    asBit (tf.isPhysicalButtonDown.setWidth 32) = bitOf (pressed tf) := by
  unfold asBit bitOf
  cases hp : pressed tf with
  | false => simp [(button_eq_zero_iff tf).mpr hp]
  | true => simp [button_ne_zero hp]

theorem bitOf_inj {a b : Bool} : bitOf a = bitOf b ↔ a = b := by
  cases a <;> cases b <;> decide

/-- The mask of a press with `n` records in its frame. -/
def clickMask (n : Nat) : U32 := if n = 2 then 0x2#32 else 0x1#32

theorem clickMask_ne_zero (n : Nat) : clickMask n ≠ 0#32 := by
  unfold clickMask
  split <;> decide

/-- **What `emit` does** with the button held or not before it. -/
theorem emit_eq {s : Session} {held : Bool} (hs : s.lastButton = bitOf held) (tf : TouchFrame) :
    emit s tf = ({ s with lastButton := bitOf (pressed tf) },
      if pressed tf = held then [.feedFrame tf]
      else [.postButtonEdge (if pressed tf then clickMask tf.contactCount else 0#32),
        .feedFrame tf]) := by
  unfold emit
  simp only [buttonEdge_snd, asBit_button]
  by_cases h : pressed tf = held
  · rw [buttonEdge_fst_of_eq _ (by rw [asBit_button, hs, h]), if_pos h]
    rfl
  · have hne : asBit (tf.isPhysicalButtonDown.setWidth 32) ≠ s.lastButton := by
      rw [asBit_button, hs, ne_eq, bitOf_inj]
      exact h
    rw [buttonEdge_fst_of_ne _ hne, if_neg h]
    cases hp : pressed tf with
    | false => simp [(button_eq_zero_iff tf).mpr hp]
    | true => simp [button_ne_zero hp, clickMask]

/-- What a list of callbacks does to the button, from held or not to held or not. -/
structure ButtonTrace (held : Bool) (calls : List SinkCall) (held' : Bool) : Prop where
  alternates : Alternates held (postedMasks calls)
  held_after : heldAfter held (postedMasks calls) = held'
  edges : EdgesFed calls

theorem ButtonTrace.nil (held : Bool) : ButtonTrace held [] held := ⟨trivial, rfl, trivial⟩

theorem ButtonTrace.append {a b c : Bool} {xs ys : List SinkCall} (hx : ButtonTrace a xs b)
    (hy : ButtonTrace b ys c) : ButtonTrace a (xs ++ ys) c where
  alternates := by
    rw [postedMasks_append, alternates_append, hx.held_after]
    exact ⟨hx.alternates, hy.alternates⟩
  held_after := by rw [postedMasks_append, heldAfter_append, hx.held_after, hy.held_after]
  edges := edgesFed_append hx.edges hy.edges

theorem ButtonTrace.rearm (held : Bool) (p : SessionPolicy) (m : U32) :
    ButtonTrace held (rearm p m) held := by
  unfold MagicTrackpad.rearm
  split <;> exact ⟨trivial, rfl, trivial⟩

/-- `emit` of a frame that has a contact, or has no button. -/
theorem buttonTrace_emit {s : Session} {held : Bool} (hs : s.lastButton = bitOf held)
    {tf : TouchFrame} (hcount : pressed tf = true → 0 < tf.contactCount) :
    ButtonTrace held (emit s tf).2 (pressed tf) := by
  rw [emit_eq hs]
  by_cases h : pressed tf = held
  · simp only [if_pos h]
    subst h
    exact ⟨trivial, rfl, trivial⟩
  · simp only [if_neg h]
    have hmask : (if pressed tf then clickMask tf.contactCount else 0#32) ≠ 0#32 ↔
        pressed tf = true := by
      cases pressed tf with
      | false => simp
      | true => simp [clickMask_ne_zero]
    refine ⟨?_, ?_, ⟨tf, [], rfl, hmask, fun hm => hcount (hmask.mp hm)⟩, trivial⟩
    · cases held with
      | false =>
        rw [Bool.not_eq_false] at h
        exact ⟨hmask.mpr h, trivial⟩
      | true =>
        rw [Bool.not_eq_true] at h
        exact ⟨by simp [h], trivial⟩
    · show decide ((if pressed tf then clickMask tf.contactCount else 0#32) ≠ 0#32) = pressed tf
      rw [Bool.eq_iff_iff, decide_eq_true_iff]
      exact hmask

theorem buttonTrace_absenceCalls (held : Bool) :
    ButtonTrace held (absenceCalls (bitOf held)) false := by
  cases held with
  | false => exact ⟨trivial, rfl, trivial⟩
  | true =>
    exact ⟨⟨rfl, trivial⟩, rfl, ⟨.zero, [.feedFrame .zero], rfl, by decide, by decide⟩, trivial⟩

/-! ## The protocol -/

/-- What holds of the button in every state of a connection, with its log. -/
structure ButtonState (s : Session) (log : List SinkCall) : Prop where
  /-- The masks strictly alternate, starting with a press. -/
  alternates : Alternates false (postedMasks log)
  bit : s.lastButton = 0#32 ∨ s.lastButton = 1#32
  /-- The button is held only while a contact is down. -/
  held_down : s.lastButton = 1#32 → s.lifecycle.prevIds ≠ 0#32
  /-- Every edge stands immediately before the feed of its frame. -/
  edge_fed : ∀ before m after, log = before ++ .postButtonEdge m :: after →
    ∃ f rest, after = .feedFrame f :: rest ∧ (m ≠ 0#32 ↔ pressed f = true) ∧
      (m ≠ 0#32 → 0 < f.contactCount)

/-- What a step from `s` to `s'` with the given callbacks does to the button. -/
structure ButtonStep (s s' : Session) (calls : List SinkCall) (i : SessionInput) : Prop where
  /-- After an accepted frame the button follows the frame. -/
  after_frame : ∀ source tf nowMs, i = .frame source tf nowMs → Accepts s source nowMs →
    (s'.lastButton = 1#32 ↔ (∃ c ∈ tf.contacts, 0 < c.pressure) ∧ pressed tf = true)
  after_timer : i = .timer → s'.lastButton = 0#32
  /-- The release a full lift forces precedes the first absence frame. -/
  release_first : s.lastButton = 1#32 → s.lifecycle.prevIds ≠ 0#32 →
    (i = .timer ∨ ∃ source tf nowMs, i = .frame source tf nowMs ∧ Accepts s source nowMs ∧
      tf.present = []) →
    calls = [.postButtonEdge 0#32, .feedFrame .zero, .feedFrame .zero]

/-- The invariant behind the protocol. -/
structure ButtonInv (s : Session) (log : List SinkCall) : Prop where
  policy : PairPolicy s.policy
  below16 : IdsBelow16 s.lifecycle.prevIds
  trace : ∃ held, s.lastButton = bitOf held ∧ ButtonTrace false log held ∧
    (held = true → s.lifecycle.prevIds ≠ 0#32)

theorem present_ne_nil {tf : TouchFrame} :
    tf.present ≠ [] ↔ ∃ c ∈ tf.contacts, 0 < c.pressure := by
  rw [TouchFrame.present, ne_eq, List.filter_eq_nil_iff]
  simp

theorem ButtonInv.state {s : Session} {log : List SinkCall} (hinv : ButtonInv s log) :
    ButtonState s log := by
  obtain ⟨held, hbit, htrace, hdown⟩ := hinv.trace
  refine ⟨htrace.alternates, ?_, fun h1 => hdown ?_, fun before m after hlog =>
    edgesFed_at htrace.edges hlog⟩
  · rw [hbit]
    cases held <;> decide
  · rw [hbit] at h1
    exact bitOf_inj.mp (h1.trans rfl : bitOf held = bitOf true)

/-- The release of an absence pair, when the button was held. -/
theorem absenceCalls_held {b : U32} (h : b = 1#32) :
    absenceCalls b = [.postButtonEdge 0#32, .feedFrame .zero, .feedFrame .zero] := by
  rw [h]
  rfl

/-- With nothing down the button is released. -/
theorem ButtonInv.released {s : Session} {log : List SinkCall} (hinv : ButtonInv s log)
    (hprev : s.lifecycle.prevIds = 0#32) : s.lastButton = 0#32 ∧ ButtonTrace false log false := by
  obtain ⟨held, hbit, htrace, hdown⟩ := hinv.trace
  cases held with
  | false => exact ⟨hbit, htrace⟩
  | true => exact absurd hprev (hdown rfl)

theorem buttonInv_of_released {s : Session} {log : List SinkCall} (hpol : PairPolicy s.policy)
    (hprev : s.lifecycle.prevIds = 0#32) (hbit : s.lastButton = 0#32)
    (htrace : ButtonTrace false log false) : ButtonInv s log where
  policy := hpol
  below16 := by rw [hprev]; exact idsBelow16_zero
  trace := ⟨false, hbit, htrace, fun h => absurd h Bool.false_ne_true⟩

/-- The absence pair releases the button. -/
theorem ButtonInv.absence {s : Session} {log : List SinkCall} (hinv : ButtonInv s log) :
    ButtonTrace false (log ++ absenceCalls s.lastButton) false := by
  obtain ⟨held, hbit, htrace, -⟩ := hinv.trace
  rw [hbit]
  exact htrace.append (buttonTrace_absenceCalls held)

/-- With nothing on the pad the button is up and stays up. -/
theorem released_iff_of_nil {tf : TouchFrame} (hp : tf.present = []) {b : U32} (hb : b = 0#32) :
    b = 1#32 ↔ (∃ c ∈ tf.contacts, 0 < c.pressure) ∧ pressed tf = true := by
  refine iff_of_false ?_ fun hc => present_ne_nil.mpr hc.1 hp
  rw [hb]
  decide

/-- **One step** keeps the invariant and treats the button as the protocol says. -/
theorem buttonInv_step {s : Session} {log : List SinkCall} (hinv : ButtonInv s log)
    (i : SessionInput) :
    ButtonInv (sessionStep s i).1 (log ++ (sessionStep s i).2) ∧
      ButtonStep s (sessionStep s i).1 (sessionStep s i).2 i := by
  have hkind := stepKind hinv.policy i
  generalize sessionStep s i = r at hkind ⊢
  cases hkind with
  | @refused source tf nowMs h =>
    rw [List.append_nil]
    refine ⟨hinv, ⟨?_, fun hi => absurd hi (by simp), ?_⟩⟩
    · intro source' tf' nowMs' hi hacc
      obtain ⟨rfl, -, rfl⟩ := SessionInput.frame.inj hi
      exact absurd hacc h
    · rintro - - (hi | ⟨source', tf', nowMs', hi, hacc, -⟩)
      · exact absurd hi (by simp)
      · obtain ⟨rfl, -, rfl⟩ := SessionInput.frame.inj hi
        exact absurd hacc h
  | @touching source tf nowMs h hp =>
    obtain ⟨held, hbit, htrace, -⟩ := hinv.trace
    let stepped : Session := { s with lifecycle := steppedLifecycle s tf }
    have hs : stepped.lastButton = bitOf held := hbit
    have hcalls : ButtonTrace held (emit stepped (conditioned s tf)).2 (pressed tf) :=
      buttonTrace_emit hs fun _ => (conditioned_of_present (s := s) hp).1
    have hlast : (emit stepped (conditioned s tf)).1.lastButton = bitOf (pressed tf) := by
      rw [emit_eq hs]
      rfl
    have hprev : (steppedLifecycle s tf).prevIds ≠ 0#32 := by
      rw [prevIds_stepped, ne_eq, presentIds_eq_zero_iff]
      exact hp
    refine ⟨⟨hinv.policy, ?_, pressed tf, hlast, htrace.append (hcalls.append (.rearm _ _ _)),
      fun _ => hprev⟩, ⟨?_, fun hi => absurd hi (by simp), ?_⟩⟩
    · rw [lifecycle_emit, prevIds_stepped]
      exact idsBelow16_presentIds _
    · intro source' tf' nowMs' hi _
      obtain ⟨-, rfl, -⟩ := SessionInput.frame.inj hi
      rw [hlast, and_iff_right (present_ne_nil.mp hp)]
      exact (bitOf_inj (b := true))
    · rintro - - (hi | ⟨source', tf', nowMs', hi, -, hnil⟩)
      · exact absurd hi (by simp)
      · obtain ⟨-, rfl, -⟩ := SessionInput.frame.inj hi
        exact absurd hnil hp
  | @lift source tf nowMs h hp hleft =>
    have hprev : (steppedLifecycle s tf).prevIds = 0#32 := by rw [prevIds_stepped, hp]; rfl
    refine ⟨buttonInv_of_released hinv.policy hprev rfl hinv.absence, ⟨?_,
      fun hi => absurd hi (by simp), fun h1 _ _ => absenceCalls_held h1⟩⟩
    intro source' tf' nowMs' hi _
    obtain ⟨-, rfl, -⟩ := SessionInput.frame.inj hi
    exact released_iff_of_nil hp rfl
  | @idle source tf nowMs h hp hleft =>
    have hzero := (endedIds_nil_eq_nil hinv.below16).mp hleft
    obtain ⟨hbit, htrace⟩ := hinv.released hzero
    have hprev : (steppedLifecycle s tf).prevIds = 0#32 := by rw [prevIds_stepped, hp]; rfl
    refine ⟨buttonInv_of_released hinv.policy hprev hbit (htrace.append (.nil _)), ⟨?_,
      fun hi => absurd hi (by simp), fun _ hne _ => absurd hzero hne⟩⟩
    intro source' tf' nowMs' hi _
    obtain ⟨-, rfl, -⟩ := SessionInput.frame.inj hi
    exact released_iff_of_nil hp hbit
  | flush hleft =>
    exact ⟨buttonInv_of_released hinv.policy rfl rfl hinv.absence,
      ⟨fun _ _ _ hi => absurd hi (by simp), fun _ => rfl, fun h1 _ _ => absenceCalls_held h1⟩⟩
  | quiet hleft =>
    have hzero := (endedIds_nil_eq_nil hinv.below16).mp hleft
    obtain ⟨hbit, htrace⟩ := hinv.released hzero
    exact ⟨buttonInv_of_released hinv.policy rfl hbit (htrace.append (.nil _)),
      ⟨fun _ _ _ hi => absurd hi (by simp), fun _ => hbit, fun _ hne _ => absurd hzero hne⟩⟩

theorem buttonInv_connect (s : Session) (source : Source) (mode : TransportMode) (nowMs : U32) :
    ButtonInv (sessionConnect s source mode policyDefault nowMs) [] :=
  buttonInv_of_released pairPolicy_default rfl rfl (.nil false)

/-- **No stuck, lost or duplicated button edge**, in any connection under the shipped policy. -/
theorem button_protocol (s : Session) (source : Source) (mode : TransportMode) (nowMs : U32)
    (is : List SessionInput) :
    let r := Transducer.run sessionStep (sessionConnect s source mode policyDefault nowMs) is
    ButtonState r.1 r.2 ∧
      ∀ i, ButtonStep r.1 (sessionStep r.1 i).1 (sessionStep r.1 i).2 i := by
  have hinv := Transducer.run_induction sessionStep (A := fun _ => True) (I := ButtonInv)
    (buttonInv_connect s source mode nowMs) (fun _ _ i _ h => (buttonInv_step h i).1) is
    fun _ _ => trivial
  exact ⟨hinv.state, fun i => (buttonInv_step hinv i).2⟩

/-! ## The click mask -/

/-- The number of contacts that leave the pad in the frame. -/
def liftingCount (s : Session) (tf : TouchFrame) : Nat :=
  (endedIds s.lifecycle.prevIds tf.present).length

/-- The mask for the fingers really on the pad. -/
def fingerMask (tf : TouchFrame) : U32 := if tf.present.length = 2 then 0x2#32 else 0x1#32

/-- A press posted by `emit` counts the records of its frame, in any state. -/
theorem mask_emit {s : Session} {tf : TouchFrame} {m : U32} (hm : m ∈ postedMasks (emit s tf).2)
    (hpress : m ≠ 0#32) : pressed tf = true ∧ m = clickMask tf.contactCount := by
  have hzero := button_eq_zero_iff tf
  rw [emit, postedMasks_append] at hm
  by_cases hedge : asBit (tf.isPhysicalButtonDown.setWidth 32) = s.lastButton
  · rw [buttonEdge_fst_of_eq _ hedge] at hm
    exact absurd hm (by simp [postedMasks, SinkCall.mask?])
  · rw [buttonEdge_fst_of_ne _ hedge] at hm
    have hm' : m = if tf.isPhysicalButtonDown.setWidth 32 = 0#32 then 0x0#32
        else if tf.contactCount = 2 then 0x2#32 else 0x1#32 := by
      simpa [postedMasks, SinkCall.mask?] using hm
    cases hp : pressed tf with
    | false =>
      rw [if_pos (hzero.mpr hp)] at hm'
      exact absurd hm' hpress
    | true =>
      rw [if_neg fun h => Bool.false_ne_true ((hzero.mp h).symm.trans hp)] at hm'
      exact ⟨rfl, hm'⟩

/-- The absence pair posts no press. -/
theorem no_press_absenceCalls {b m : U32} (hm : m ∈ postedMasks (absenceCalls b)) : m = 0#32 := by
  unfold absenceCalls at hm
  split at hm
  · exact absurd hm List.not_mem_nil
  · exact List.mem_singleton.mp hm

/-- **A press counts the records of the conditioned frame**, under every policy. -/
theorem press_mask {s : Session} {source : Source} {nowMs : U32} (h : Accepts s source nowMs)
    {tf : TouchFrame} {m : U32} (hm : m ∈ postedMasks (sessionFrame s source tf nowMs).2)
    (hpress : m ≠ 0#32) : m = clickMask (conditioned s tf).contactCount := by
  have hrearm : ∀ p : Prop, [Decidable p] →
      postedMasks (if p then [.armTimer idleMs] else []) = [] := by
    intro p _
    split <;> rfl
  rw [sessionFrame_accepted h, postedMasks_append, hrearm, List.append_nil] at hm
  rcases emitConditioned_cases { s with lifecycle := steppedLifecycle s tf } (conditioned s tf)
    with habsence | hemit | hnone
  · rw [habsence] at hm
    exact absurd (no_press_absenceCalls hm) hpress
  · rw [hemit] at hm
    exact (mask_emit hm hpress).2
  · rw [hnone] at hm
    exact absurd hm List.not_mem_nil

/-- With distinct ids the conditioned frame has one record for each contact on the pad and one for
each that is lifting. -/
theorem contactCount_conditioned (s : Session) {tf : TouchFrame} (hd : DistinctIds tf) :
    (conditioned s tf).contactCount = tf.present.length + liftingCount s tf := by
  rw [← TouchFrame.length_contacts, conditioned, contacts_lifecycleStep_of_distinct,
    contacts_dropLifted, List.length_append, List.length_map, List.length_map, liftingCount]
  rw [contacts_dropLifted]
  exact hd

theorem clickMask_inj {a b : Nat} : clickMask a = clickMask b ↔ (a = 2 ↔ b = 2) := by
  unfold clickMask
  by_cases ha : a = 2 <;> by_cases hb : b = 2 <;> simp [ha, hb]

/-- **When a press carries the mask of the fingers really on the pad**: at every state of every
connection, exactly if no contact lifts in the frame, or neither the fingers on the pad nor those
together with the lifting ones number two. -/
theorem press_mask_correct_iff (s₀ : Session) (source₀ : Source) (mode : TransportMode)
    (policy : SessionPolicy) (nowMs₀ : U32) (is : List SessionInput) (source : Source)
    (tf : TouchFrame) (nowMs m : U32) :
    let s := (Transducer.run sessionStep (sessionConnect s₀ source₀ mode policy nowMs₀) is).1
    Accepts s source nowMs → DistinctIds tf →
      m ∈ postedMasks (sessionFrame s source tf nowMs).2 → m ≠ 0#32 →
      (m = fingerMask tf ↔ liftingCount s tf = 0 ∨
        (tf.present.length ≠ 2 ∧ tf.present.length + liftingCount s tf ≠ 2)) := by
  intro s hacc hd hm hpress
  have hfinger : fingerMask tf = clickMask tf.present.length := rfl
  rw [press_mask hacc hm hpress, contactCount_conditioned s hd, hfinger, clickMask_inj]
  omega

/-- The connection of the two cases below: two fingers rest on the pad. -/
def twoFingersDown : Session :=
  (Transducer.run sessionStep (sessionConnect .zeroed 1 .eventDriven policyDefault 0)
    [.frame 1 (.ofContacts [.ofId 3 20, .ofId 7 25] 0) 5]).1

theorem press_mask_correct_iff_two_fingers :
    let both := TouchFrame.ofContacts [.ofId 3 20, .ofId 7 25] 1
    0x2#32 = fingerMask both ↔ liftingCount twoFingersDown both = 0 ∨
      (both.present.length ≠ 2 ∧ both.present.length + liftingCount twoFingersDown both ≠ 2) :=
  press_mask_correct_iff .zeroed 1 .eventDriven policyDefault 0
    [.frame 1 (.ofContacts [.ofId 3 20, .ofId 7 25] 0) 5] 1
    (.ofContacts [.ofId 3 20, .ofId 7 25] 1) 9 0x2 (by decide) (by decide) (by decide) (by decide)

/-- One finger lifts while the other presses: the click goes out as secondary. -/
theorem secondary_click_from_one_finger :
    let one := TouchFrame.ofContacts [.ofId 3 20, .ofId 7 0] 1
    Accepts twoFingersDown 1 9 ∧ DistinctIds one ∧ one.present.length = 1 ∧
      postedMasks (sessionFrame twoFingersDown 1 one 9).2 = [0x2#32] ∧
      fingerMask one = 0x1#32 := by
  decide

end MagicTrackpad
