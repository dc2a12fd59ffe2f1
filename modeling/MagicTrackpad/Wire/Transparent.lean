import MagicTrackpad.Session
import MagicTrackpad.Wire
import Mathlib.Data.List.Forall2

/-!
# Crossing the wire does not change what the recognizer gets

Two sessions run side by side, one on the decoded frames, the other on the frames that crossed the
VoodooInput wire. The wire drops the ellipse and the decoded state, clamps the coordinates and
moves the button into the contacts, so it is lost on a frame with none. `SameTouch` and
`SameSession` are the relations that survive all of it: the lifecycle overwrites the state, the
encoder saturates what the wire clamps, and without contacts no frame of the input goes out under a
policy that drops empty frames.

* `sameRecordBytes`: related contacts have the same record bytes, but for the orientation bits and
  the radii of a BreakTouch record.
* `sameSession_step`: one input on either side.
* `wire_transparent`: the two logs agree callback by callback, for every sequence of inputs.
-/

namespace MagicTrackpad

open Lib
open Lib.Bitmask (hasBit and_mask)
open Lib.ByteStore (storeList)

/-! ## What has to agree -/

/-- The bytes of two records agree, except for the six orientation bits of byte 7 and, in a
BreakTouch record, bytes 4 and 5. -/
structure SameRecordBytes (t t' : Nat → U8) : Prop where
  plain : ∀ k ∈ [0, 1, 2, 3, 6, 8], t k = t' k
  radii : readStateCode t ≠ stateCode .tsEnd → t 4 = t' 4 ∧ t 5 = t' 5
  id_bits : t 7 &&& 0x03#8 = t' 7 &&& 0x03#8

/-- Two buffers agree as reports of `n` records, and beyond them. -/
structure SameReport (n : Nat) (out out' : Nat → U8) : Prop where
  outside : ∀ j, j < 4 ∨ 4 + 9 * n ≤ j → out j = out' j
  records : ∀ i, i < n →
    SameRecordBytes (fun k => out (4 + 9 * i + k)) fun k => out' (4 + 9 * i + k)

/-- Two fed frames the recognizer cannot tell apart: one contact count, and the same report under
every timestamp, buffer and capacity. -/
structure SameFed (f g : TouchFrame) : Prop where
  count : f.contactCount = g.contactCount
  report : ∀ buf cap timestamp, ∃ r out out',
    constructReport (some f) (some buf) cap timestamp = (r, some out) ∧
    constructReport (some g) (some buf) cap timestamp = (r, some out') ∧
    SameReport f.contactCount out out'

/-- Two callbacks the sink cannot tell apart. -/
inductive SameCall : SinkCall → SinkCall → Prop
  | postButtonEdge (mask : U32) : SameCall (.postButtonEdge mask) (.postButtonEdge mask)
  | feedFrame {f g : TouchFrame} (h : SameFed f g) : SameCall (.feedFrame f) (.feedFrame g)
  | armTimer (ms : U32) : SameCall (.armTimer ms) (.armTimer ms)

/-! ## The relations -/

/-- One contact to the lifecycle and the encoder, whatever its state. -/
structure SameTouch (c d : TouchContact) : Prop where
  id : c.id = d.id
  pressure : c.pressure = d.pressure
  x : scaleX c.currentCoordinates.x = scaleX d.currentCoordinates.x
  y : scaleY c.currentCoordinates.y = scaleY d.currentCoordinates.y

/-- One record to the encoder. -/
structure SameRecord (c d : TouchContact) : Prop extends SameTouch c d where
  state : c.state = d.state

/-- One conditioned frame. -/
structure SameFrame (f g : TouchFrame) : Prop where
  contacts : List.Forall₂ SameRecord f.contacts g.contacts
  button : f.isPhysicalButtonDown = g.isPhysicalButtonDown

/-- Two sessions of one connection; the histories agree where they are read. -/
structure SameSession (s t : Session) : Prop where
  config : s.config = t.config
  policy : PairPolicy s.policy
  lastButton : s.lastButton = t.lastButton
  prevIds : s.lifecycle.prevIds = t.lifecycle.prevIds
  last : ∀ id, hasBit s.lifecycle.prevIds id = true →
    SameTouch (s.lifecycle.last id) (t.lifecycle.last id)

theorem SameTouch.nib {c d : TouchContact} (h : SameTouch c d) : c.nib = d.nib := by
  rw [TouchContact.nib, TouchContact.nib, h.id]

theorem SameTouch.withState {c d : TouchContact} (h : SameTouch c d) (s : TouchState) :
    SameRecord (c.withState s) (d.withState s) := ⟨⟨h.id, h.pressure, h.x, h.y⟩, rfl⟩

theorem SameTouch.stampOf {c d : TouchContact} (h : SameTouch c d) (m : U32) :
    SameRecord (stampOf m c) (stampOf m d) := by
  rw [MagicTrackpad.stampOf, MagicTrackpad.stampOf, h.nib]
  exact h.withState _

/-! ## The encoder -/

/-- The low bits of byte 7 belong to the id. -/
theorem pack_id_bits (orient id : U32) :
    (orient <<< 2 ||| (id >>> 2 &&& 0x03#32)).setWidth 8 &&& 0x03#8 =
      (id >>> 2 &&& 0x03#32).setWidth 8 := by
  rw [and_mask (m := 0x03#32) 2 rfl, and_mask (m := 0x03#8) 2 rfl]
  ext i hi
  simp

/-- **Related contacts have the same visible record bytes.** -/
theorem sameRecordBytes {c d : TouchContact} (h : SameRecord c d) (i : Nat) :
    SameRecordBytes (byteAt (encodeRecord i c)) (byteAt (encodeRecord i d)) where
  plain := by
    simp [encodeRecord, byteAt, h.x, h.y, h.id, h.state, h.pressure]
  radii := by
    rw [encodeRecord_state]
    intro hne
    have hend : c.state ≠ .tsEnd := fun he => hne (by rw [he])
    have hend' : d.state ≠ .tsEnd := by rw [← h.state]; exact hend
    simp only [encodeRecord, byteAt, List.getD_cons_succ, List.getD_cons_zero, if_neg hend,
      if_neg hend']
    exact ⟨trivial, trivial⟩
  id_bits := by
    simp only [encodeRecord, byteAt, List.getD_cons_succ, List.getD_cons_zero, pack_id_bits, h.id]

theorem SameRecordBytes.refl (t : Nat → U8) : SameRecordBytes t t :=
  ⟨fun _ _ => rfl, fun _ => ⟨rfl, rfl⟩, rfl⟩

/-- The relation looks at the nine bytes of a record only. -/
theorem SameRecordBytes.congr {t t' u u' : Nat → U8} (h : SameRecordBytes t t')
    (hu : ∀ k, k < 9 → u k = t k) (hu' : ∀ k, k < 9 → u' k = t' k) : SameRecordBytes u u' where
  plain := by
    intro k hk
    have hlt : k < 9 := by
      simp at hk
      omega
    rw [hu k hlt, hu' k hlt, h.plain k hk]
  radii := by
    intro hne
    rw [readStateCode, hu 8 (by decide)] at hne
    rw [hu 4 (by decide), hu 5 (by decide), hu' 4 (by decide), hu' 5 (by decide)]
    exact h.radii hne
  id_bits := by
    rw [hu 7 (by decide), hu' 7 (by decide)]
    exact h.id_bits

theorem SameFrame.count {f g : TouchFrame} (h : SameFrame f g) :
    f.contactCount = g.contactCount := by
  rw [← TouchFrame.length_contacts, ← TouchFrame.length_contacts]
  exact h.contacts.length_eq

theorem SameFrame.slot {f g : TouchFrame} (h : SameFrame f g) {i : Nat} (hi : i < f.contactCount) :
    SameRecord (f.transducers.slots i) (g.transducers.slots i) := by
  have hi' : i < g.contactCount := by rw [← h.count]; exact hi
  have hget := List.Forall₂.get h.contacts (i := i) (by rw [TouchFrame.length_contacts]; exact hi)
    (by rw [TouchFrame.length_contacts]; exact hi')
  simpa [TouchFrame.contacts, SlotBuffer.getElem_toList] using hget

/-- **Related frames give the same report.** -/
theorem SameFrame.fed {f g : TouchFrame} (h : SameFrame f g) : SameFed f g := by
  refine ⟨h.count, fun buf cap timestamp => ?_⟩
  rw [constructReport_eq, constructReport_eq, ← h.count]
  by_cases hcap : cap < 4 + 9 * f.contactCount
  · rw [if_pos hcap, if_pos hcap]
    exact ⟨_, _, _, rfl, rfl, fun _ _ => rfl, fun _ _ => .refl _⟩
  · rw [if_neg hcap, if_neg hcap]
    refine ⟨_, _, _, rfl, rfl, ?_, fun i hi => ?_⟩
    · rintro j (hj | hj)
      · rw [reportBytes_at buf (by omega), reportBytes_at buf (by rw [← h.count]; omega),
          byteAt_header f timestamp hj, byteAt_header g timestamp hj, h.button]
      · rw [ByteStore.storeList_after buf (by rw [length_reportBytes]; omega),
          ByteStore.storeList_after buf (by rw [length_reportBytes, ← h.count]; omega)]
    · have hi' : i < g.contactCount := by rw [← h.count]; exact hi
      refine (sameRecordBytes (h.slot hi) i).congr (fun k hk => ?_) fun k hk => ?_
      · rw [reportBytes_at buf (by omega), byteAt_record timestamp hi hk]
      · rw [reportBytes_at buf (by omega), byteAt_record timestamp hi' hk]

/-! ## The wire -/

/-- The wire keeps what the lifecycle and the encoder look at. -/
theorem sameTouch_carry {c : TouchContact} (hp : 0 ≤ c.pressure ∧ c.pressure < 256)
    (hc : SmallCoord c.currentCoordinates.x ∧ SmallCoord c.currentCoordinates.y) :
    SameTouch c (carry c) := by
  refine ⟨rfl, ?_, ?_, ?_⟩
  · show c.pressure = ((BitVec.ofInt 8 c.pressure).toNat : Int)
    rw [BitVec.toNat_ofInt]
    omega
  · exact (scale_clamp (by decide) (by decide) ⟨by decide, by decide⟩ ⟨by decide, by decide⟩
      hc.1).symm
  · exact (scale_clamp (by decide) (by decide) ⟨by decide, by decide⟩ ⟨by decide, by decide⟩
      hc.2).symm

section Crossing

variable {tf : TouchFrame} (hfit : WireFit tf)

include hfit

theorem WireFit.sameTouch {c : TouchContact} (hc : c ∈ tf.contacts) : SameTouch c (carry c) :=
  sameTouch_carry (hfit.pressure c hc) (hfit.coords c hc)

/-- The contacts on the pad cross the wire. -/
theorem WireFit.present : (crossWire tf).present = tf.present.map carry := by
  have hten : tf.contacts.take 10 = tf.contacts :=
    List.take_of_length_le (by rw [TouchFrame.length_contacts]; exact hfit.count)
  rw [TouchFrame.present, contacts_crossWire, hten, List.filter_map, TouchFrame.present]
  congr 1
  refine List.filter_congr fun c hc => ?_
  rw [Function.comp_apply, ← (hfit.sameTouch hc).pressure]

/-- So does the button, if there is a contact. -/
theorem WireFit.button_of_present (hp : tf.present ≠ []) :
    tf.isPhysicalButtonDown = (crossWire tf).isPhysicalButtonDown := by
  have hpos : 0 < tf.contactCount := by
    obtain ⟨c, hc⟩ := List.exists_mem_of_ne_nil _ hp
    rw [← TouchFrame.length_contacts]
    exact List.length_pos_of_mem (List.mem_filter.mp hc).1
  rw [button_crossWire]
  rcases hfit.button with h | h
  · rw [h]
    simp
  · rw [h, if_pos ⟨hpos, by decide⟩]

theorem WireFit.sameTouch_present {c : TouchContact} (hc : c ∈ tf.present) :
    SameTouch c (carry c) := hfit.sameTouch (List.mem_filter.mp hc).1

end Crossing

/-! ## The lifecycle -/

theorem presentIds_map_carry (cs : List TouchContact) :
    presentIds (cs.map carry) = presentIds cs := by
  rw [presentIds, Bitmask.ofList, List.foldl_map]
  rfl

theorem endedIds_map_carry (m : U32) (cs : List TouchContact) :
    endedIds m (cs.map carry) = endedIds m cs := by
  rw [endedIds, presentIds_map_carry, ← endedIds]

section Step

variable {s t : Session} (hst : SameSession s t)

include hst

theorem SameSession.pairPolicy : PairPolicy t.policy := by
  rw [← policy_of_config hst.config]
  exact hst.policy

/-- The conditioned frames of related sessions are related. -/
theorem SameSession.conditioned {tf : TouchFrame} (hfit : WireFit tf) (hp : tf.present ≠ []) :
    SameFrame (conditioned s tf) (conditioned t (crossWire tf)) := by
  refine ⟨?_, hfit.button_of_present hp⟩
  rw [contacts_conditioned, contacts_conditioned, hfit.present, endedIds_map_carry, ← hst.prevIds]
  refine List.forall₂_take 16 (List.rel_append ?_ ?_)
  · rw [List.map_map, List.forall₂_map_left_iff, List.forall₂_map_right_iff, List.forall₂_same]
    exact fun c hc => (hfit.sameTouch_present hc).stampOf _
  · rw [List.forall₂_map_left_iff, List.forall₂_map_right_iff, List.forall₂_same]
    exact fun id hid => (hst.last id (mem_endedIds.mp hid).2.1).withState _

/-- So are the lifecycles. -/
theorem SameSession.lifecycle {tf : TouchFrame} (hfit : WireFit tf) :
    (steppedLifecycle s tf).prevIds = (steppedLifecycle t (crossWire tf)).prevIds ∧
      ∀ id, hasBit (steppedLifecycle s tf).prevIds id = true →
        SameTouch ((steppedLifecycle s tf).last id)
          ((steppedLifecycle t (crossWire tf)).last id) := by
  rw [prevIds_stepped, prevIds_stepped, hfit.present, presentIds_map_carry, last_stepped,
    last_stepped, hfit.present, ← hst.prevIds]
  refine ⟨rfl, fun id hid => ?_⟩
  refine rel_recordAll (fun c d h => ⟨h.nib, (h.stampOf _).toSameTouch⟩) ?_
    (Or.inl (hasBit_presentIds.mp hid))
  rw [List.forall₂_map_right_iff, List.forall₂_same]
  exact fun c hc => hfit.sameTouch_present hc

end Step

/-- `emit` of related frames with one button. -/
theorem sameCalls_emit {s t : Session} (hbutton : s.lastButton = t.lastButton) {f g : TouchFrame}
    (h : SameFrame f g) :
    (emit s f).1.lastButton = (emit t g).1.lastButton ∧
      List.Forall₂ SameCall (emit s f).2 (emit t g).2 := by
  simp only [emit, hbutton, h.button, h.count]
  refine ⟨trivial, List.rel_append ?_ (.cons (.feedFrame h.fed) .nil)⟩
  cases (buttonEdge (g.isPhysicalButtonDown.setWidth 32) g.contactCount t.lastButton).1 with
  | none => exact .nil
  | some m => exact .cons (.postButtonEdge m) .nil

theorem sameFrame_refl (f : TouchFrame) : SameFrame f f :=
  ⟨List.forall₂_same.mpr fun _ _ => ⟨⟨rfl, rfl, rfl, rfl⟩, rfl⟩, rfl⟩

theorem sameCalls_refl (calls : List SinkCall) : List.Forall₂ SameCall calls calls :=
  List.forall₂_same.mpr fun c _ => by
    cases c with
    | postButtonEdge m => exact .postButtonEdge m
    | feedFrame f => exact .feedFrame (sameFrame_refl f).fed
    | armTimer ms => exact .armTimer ms

/-! ## The two runs -/

/-- The input of the session behind the wire. -/
def SessionInput.crossWire : SessionInput → SessionInput
  | .frame source tf nowMs => .frame source (MagicTrackpad.crossWire tf) nowMs
  | .timer => .timer

/-- A frame of the input is an output of the decoder. -/
def SessionInput.Decoded : SessionInput → Prop
  | .frame _ tf _ => DecodedFrame tf
  | .timer => True

/-- Related sessions that empty their lifecycles stay related. -/
theorem SameSession.cleared {s t s' t' : Session} (hst : SameSession s t)
    (hs : s'.config = s.config) (ht : t'.config = t.config)
    (hbutton : s'.lastButton = t'.lastButton) (hprev : s'.lifecycle.prevIds = 0#32)
    (hprev' : t'.lifecycle.prevIds = 0#32) : SameSession s' t' where
  config := by rw [hs, ht, hst.config]
  policy := by rw [policy_of_config hs]; exact hst.policy
  lastButton := hbutton
  prevIds := by rw [hprev, hprev']
  last id hid := by
    rw [hprev, Bitmask.hasBit_zero] at hid
    exact absurd hid Bool.false_ne_true

/-- **One input on either side.** -/
theorem sameSession_step {s t : Session} (hst : SameSession s t) {i : SessionInput}
    (hi : i.Decoded) :
    SameSession (sessionStep s i).1 (sessionStep t i.crossWire).1 ∧
      List.Forall₂ SameCall (sessionStep s i).2 (sessionStep t i.crossWire).2 := by
  have hconfig := config_sessionStep s i
  have hconfig' := config_sessionStep t i.crossWire
  cases i with
  | frame source tf nowMs =>
    have hfit := DecodedFrame.wireFit hi
    simp only [SessionInput.crossWire, sessionStep] at hconfig hconfig' ⊢
    by_cases h : Accepts s source nowMs
    · have h' := (accepts_of_config hst.config).mp h
      obtain ⟨hprev, hlast⟩ := hst.lifecycle hfit
      by_cases hp : tf.present = []
      · have hp' : (crossWire tf).present = [] := by rw [hfit.present, hp]; rfl
        have hzero : (steppedLifecycle s tf).prevIds = 0#32 := by rw [prevIds_stepped, hp]; rfl
        have hzero' := hprev.symm.trans hzero
        by_cases hleft : endedIds s.lifecycle.prevIds [] = []
        · have hleft' : endedIds t.lifecycle.prevIds [] = [] := by rw [← hst.prevIds]; exact hleft
          rw [sessionFrame_idle h hst.policy.empties hp hleft,
            sessionFrame_idle h' hst.pairPolicy.empties hp' hleft']
          exact ⟨hst.cleared rfl rfl hst.lastButton hzero hzero', .nil⟩
        · have hleft' : endedIds t.lifecycle.prevIds [] ≠ [] := by rw [← hst.prevIds]; exact hleft
          rw [sessionFrame_lift h hst.policy.shape hp hleft,
            sessionFrame_lift h' hst.pairPolicy.shape hp' hleft', hst.lastButton]
          exact ⟨hst.cleared rfl rfl rfl hzero hzero', sameCalls_refl _⟩
      · have hp' : (crossWire tf).present ≠ [] := by
          rw [hfit.present]
          simpa using hp
        have hemit := sameCalls_emit (s := { s with lifecycle := steppedLifecycle s tf })
          (t := { t with lifecycle := steppedLifecycle t (crossWire tf) }) hst.lastButton
          (hst.conditioned hfit hp)
        rw [sessionFrame_present h hp] at hconfig ⊢
        rw [sessionFrame_present h' hp'] at hconfig' ⊢
        refine ⟨⟨?_, hst.policy, hemit.1, hprev, hlast⟩, List.rel_append hemit.2 ?_⟩
        · rw [hconfig, hconfig', hst.config]
        · rw [hfit.present, presentIds_map_carry, policy_of_config hst.config]
          exact sameCalls_refl _
    · have h' : ¬ Accepts t source nowMs := fun ht =>
        h ((accepts_of_config hst.config).mpr ht)
      rw [sessionFrame_refused h, sessionFrame_refused h']
      exact ⟨hst, .nil⟩
  | timer =>
    show SameSession (sessionTimer s).1 (sessionTimer t).1 ∧
      List.Forall₂ SameCall (sessionTimer s).2 (sessionTimer t).2
    by_cases hleft : endedIds s.lifecycle.prevIds [] = []
    · have hleft' : endedIds t.lifecycle.prevIds [] = [] := by rw [← hst.prevIds]; exact hleft
      rw [sessionTimer_idle hleft, sessionTimer_idle hleft']
      exact ⟨hst.cleared rfl rfl hst.lastButton rfl rfl, .nil⟩
    · have hleft' : endedIds t.lifecycle.prevIds [] ≠ [] := by rw [← hst.prevIds]; exact hleft
      rw [sessionTimer_flush hleft, sessionTimer_flush hleft', hst.lastButton]
      exact ⟨hst.cleared rfl rfl rfl rfl rfl, sameCalls_refl _⟩

/-- Two connects with the same arguments, whatever the two memories held. -/
theorem sameSession_connect (s t : Session) (source : Source) (mode : TransportMode)
    {policy : SessionPolicy} (hpol : PairPolicy policy) (nowMs : U32) :
    SameSession (sessionConnect s source mode policy nowMs)
      (sessionConnect t source mode policy nowMs) where
  config := rfl
  policy := hpol
  lastButton := rfl
  prevIds := rfl
  last id hid := by
    have hprev : (sessionConnect s source mode policy nowMs).lifecycle.prevIds = 0#32 := rfl
    rw [hprev, Bitmask.hasBit_zero] at hid
    exact absurd hid Bool.false_ne_true

/-- **Crossing the wire does not change what the recognizer gets**: the two logs agree callback by
callback, for every sequence of frames out of the decoder and timer firings. -/
theorem wire_transparent (s t : Session) (source : Source) (mode : TransportMode)
    (policy : SessionPolicy) (hpol : PairPolicy policy) (nowMs : U32) (is : List SessionInput)
    (his : ∀ i ∈ is, i.Decoded) :
    List.Forall₂ SameCall
      (Transducer.run sessionStep (sessionConnect s source mode policy nowMs) is).2
      (Transducer.run sessionStep (sessionConnect t source mode policy nowMs)
        (is.map SessionInput.crossWire)).2 := by
  have hin : List.Forall₂ (fun i k => i.Decoded ∧ k = i.crossWire) is
      (is.map SessionInput.crossWire) :=
    List.forall₂_map_right_iff.mpr (List.forall₂_same.mpr fun i hi => ⟨his i hi, rfl⟩)
  refine (Transducer.run_sim (fun s t i k hst hik => ?_)
    (sameSession_connect s t source mode hpol nowMs) hin).2
  obtain ⟨hi, rfl⟩ := hik
  exact sameSession_step hst hi

/-- A decoded Bluetooth report, for the case below. -/
def decodedReport (report : List U8) : TouchFrame :=
  (mt2Decode (some report) 0x31#8 4 (some .zero)).2.getD .zero

theorem wire_transparent_tap :
    let touch := decodedReport
      [0x31, 0x49, 0x83, 0x83, 0xff, 0x0f, 0xe8, 0x8f, 0xa2, 0x64, 0x19, 0x0f, 0x85]
    let lift := decodedReport [0x31, 0x49, 0x83, 0x83]
    List.Forall₂ SameCall
      (Transducer.run sessionStep (sessionConnect .zeroed 1 .eventDriven policyDefault 0)
        [.frame 1 touch 5, .timer, .frame 1 lift 60]).2
      (Transducer.run sessionStep (sessionConnect .zeroed 1 .eventDriven policyDefault 0)
        [.frame 1 (crossWire touch) 5, .timer, .frame 1 (crossWire lift) 60]).2 :=
  wire_transparent .zeroed .zeroed 1 .eventDriven policyDefault pairPolicy_default 0
    [.frame 1 (decodedReport
        [0x31, 0x49, 0x83, 0x83, 0xff, 0x0f, 0xe8, 0x8f, 0xa2, 0x64, 0x19, 0x0f, 0x85]) 5,
      .timer, .frame 1 (decodedReport [0x31, 0x49, 0x83, 0x83]) 60]
    (by
      intro i hi
      rcases List.mem_cons.mp hi with rfl | hi
      · exact ⟨[0x31, 0x49, 0x83, 0x83, 0xff, 0x0f, 0xe8, 0x8f, 0xa2, 0x64, 0x19, 0x0f, 0x85],
          0x31, 4, .zero, by decide, rfl⟩
      rcases List.mem_cons.mp hi with rfl | hi
      · trivial
      rcases List.mem_cons.mp hi with rfl | hi
      · exact ⟨[0x31, 0x49, 0x83, 0x83], 0x31, 4, .zero, by decide, rfl⟩
      · exact absurd hi List.not_mem_nil)

end MagicTrackpad
