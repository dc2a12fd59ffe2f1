import MagicTrackpad.Encode
import MagicTrackpad.Session.Contacts

/-!
# The finger a contact is reported as

The encoder gives each record a fingerID for the recognizer, "distinct ids per slot, all within
1..5". The slot is a place in one report: `mavericks_drop_lifted` closes the gap a lifted contact
leaves in the device's order, and `mavericks_lifecycle_step` appends the lifting ones behind. What
identifies a contact from one report to the next is its id, in bytes 6 and 7; the fingerID goes with
the place.

* `contacts_conditioned_nibs`: the places of an accepted frame (`recordIds`), from the device's
  frame and the ids that were down before it.
* `finger_of_shownIn`: every record of every report carries the fingerID of its place.
* `finger_kept_iff_place_kept`: between two reports of a run a contact keeps its fingerID exactly
  if it keeps its place, and no two contacts of a report have the same.
* `finger_moves`: one of two fingers lifts, and the other one's fingerID goes from 3 to 2.
-/

namespace MagicTrackpad

open Lib
open Lib.Bitmask (hasBit and_mask)

/-! ## The fingerID of a record -/

/-- `t[8] & 0x0f`, as the recognizer reads it. -/
def readFingerId (t : Nat → U8) : U8 := t 8 &&& 0x0f#8

/-- The fingerID of slot `i`. -/
def fingerOf (i : Nat) : U8 := BitVec.ofNat 8 ((i + 1) % 5 + 1)

/-- A four-bit finger id survives under the state. -/
theorem pack_finger (s : TouchState) (f : BitVec 4) :
    ((mt1State s &&& 0xf0#32) ||| f.setWidth 32).setWidth 8 &&& 0x0f#8 = f.setWidth 8 := by
  cases s <;>
    · revert f
      decide

theorem encodeRecord_finger (i : Nat) (c : TouchContact) :
    readFingerId (byteAt (encodeRecord i c)) = fingerOf i := by
  simp only [readFingerId, encodeRecord, byteAt, List.getD_cons_succ, List.getD_cons_zero,
    and_mask (m := 0x0f#32) 4 rfl, pack_finger]
  refine BitVec.eq_of_toNat_eq ?_
  simp only [fingerOf, BitVec.toNat_setWidth, BitVec.toNat_ofNat]
  omega

/-- The first five slots have the five fingers, each its own. -/
theorem fingerOf_spec {i : Nat} (hi : i < 5) :
    (1 ≤ (fingerOf i).toNat ∧ (fingerOf i).toNat ≤ 5) ∧
      ∀ j, j < 5 → (fingerOf i = fingerOf j ↔ i = j) := by
  have hnat : ∀ k, (fingerOf k).toNat = (k + 1) % 5 + 1 := by
    intro k
    rw [fingerOf, BitVec.toNat_ofNat]
    omega
  refine ⟨by rw [hnat]; omega, fun j hj => ?_⟩
  rw [BitVec.toNat_eq, hnat, hnat]
  omega

/-- A report of `f` shows the contact with this low-nibble id as this finger. -/
def ShowsFinger (f : TouchFrame) (id : Nat) (finger : U8) : Prop :=
  ∃ buf cap timestamp n out i, constructReport (some f) (some buf) cap timestamp = (n, some out) ∧
    n ≠ -1 ∧ i < f.contactCount ∧ (readId fun k => out (4 + 9 * i + k)).toNat = id ∧
    (readFingerId fun k => out (4 + 9 * i + k)) = finger

/-- **A contact is shown as the finger of its slot.** -/
theorem showsFinger_slot {f : TouchFrame} {id : Nat} {finger : U8} (h : ShowsFinger f id finger) :
    ∃ i c, f.contacts[i]? = some c ∧ c.nib = id ∧ finger = fingerOf i := by
  obtain ⟨buf, cap, timestamp, n, out, i, hreport, hn, hi, rfl, rfl⟩ := h
  refine ⟨i, f.transducers.slots i, SlotBuffer.getElem?_toList hi, ?_⟩
  rw [constructReport_eq] at hreport
  by_cases hcap : cap < 4 + 9 * f.contactCount
  · rw [if_pos hcap] at hreport
    exact absurd (Prod.mk.inj hreport).1.symm hn
  · rw [if_neg hcap] at hreport
    obtain rfl := Option.some.inj (Prod.mk.inj hreport).2
    have hbytes : ∀ k, k < 9 → ByteStore.storeList buf 0 (reportBytes f timestamp) (4 + 9 * i + k) =
        byteAt (encodeRecord i (f.transducers.slots i)) k := fun k hk =>
      (reportBytes_at buf (by omega)).trans (byteAt_record timestamp hi hk)
    have hid := encodeRecord_id i (f.transducers.slots i)
    have hfinger := encodeRecord_finger i (f.transducers.slots i)
    simp (disch := omega) only [readId, readFingerId, hbytes] at hid hfinger ⊢
    exact ⟨by rw [hid]; rfl, hfinger⟩

/-! ## The places of a frame -/

/-- The low-nibble ids of the records a step can feed, in order: the contacts on the pad as the
device lists them, then the ids that left. -/
def recordIds (s : Session) : SessionInput → List Nat
  | .frame _ tf _ => tf.present.map TouchContact.nib ++ endedIds s.lifecycle.prevIds tf.present
  | .timer => []

/-- The place of a contact among the records of a step. -/
def place (s : Session) (i : SessionInput) (id : Nat) : Nat := (recordIds s i).idxOf id

theorem nodup_recordIds (s : Session) {i : SessionInput} (hi : i.Distinct) :
    (recordIds s i).Nodup := by
  cases i with
  | frame source tf nowMs =>
    rw [recordIds, List.nodup_append]
    refine ⟨hi, nodup_endedIds _ _, fun id hid id' hid' heq => ?_⟩
    obtain ⟨c, hc, hnib⟩ := List.mem_map.mp hid
    exact (mem_endedIds.mp hid').2.2 c hc (hnib.trans heq)
  | timer => exact List.nodup_nil

/-- Each stored contact has the id it is stored under, where it can be read. -/
def Remembers (s : Session) : Prop :=
  ∀ id, hasBit s.lifecycle.prevIds id = true → (s.lifecycle.last id).nib = id

theorem remembers_of_zero {s : Session} (h : s.lifecycle.prevIds = 0#32) : Remembers s := by
  intro id hid
  rw [h, Bitmask.hasBit_zero] at hid
  exact absurd hid Bool.false_ne_true

theorem remembers_step {s : Session} (h : Remembers s) (i : SessionInput) :
    Remembers (sessionStep s i).1 := by
  cases i with
  | frame source tf nowMs =>
    show Remembers (sessionFrame s source tf nowMs).1
    by_cases hacc : Accepts s source nowMs
    · intro id hid
      rw [lifecycle_sessionFrame hacc, prevIds_stepped, hasBit_presentIds] at hid
      obtain ⟨c, -, hnib, heq⟩ :=
        recordAll_recorded s.lifecycle.prevIds s.lifecycle.last hid
      rw [lifecycle_sessionFrame hacc, last_stepped, heq]
      exact hnib
    · rw [sessionFrame_refused hacc]
      exact h
  | timer =>
    refine remembers_of_zero ?_
    show (sessionTimer s).1.lifecycle.prevIds = 0#32
    rw [lifecycle_sessionTimer]
    rfl

/-- **The places of the records**: slot by slot, the ids of the conditioned frame. -/
theorem contacts_conditioned_nibs {s : Session} (h : Remembers s) (source : Source)
    {tf : TouchFrame} (nowMs : U32) (hd : DistinctIds tf) :
    (conditioned s tf).contacts.map TouchContact.nib = recordIds s (.frame source tf nowMs) := by
  rw [conditioned, contacts_lifecycleStep_of_distinct _ (by rwa [contacts_dropLifted]),
    contacts_dropLifted, List.map_append, List.map_map, List.map_map, recordIds]
  congr 1
  have hended : ∀ id ∈ endedIds s.lifecycle.prevIds tf.present,
      (TouchContact.nib ∘ endRecord s.lifecycle.last) id = id := fun id hid =>
    h id (mem_endedIds.mp hid).2.1
  rw [List.map_congr_left hended, List.map_id']

/-! ## What is fed -/

theorem fedFrames_emitConditioned {s : Session} {f g : TouchFrame}
    (hg : g ∈ fedFrames (emitConditioned s f).2) : g = .zero ∨ g = f := by
  rcases emitConditioned_cases s f with habsence | hemit | hnone
  · rw [habsence, fedFrames_absenceCalls] at hg
    simp only [List.mem_cons, List.not_mem_nil, or_false, or_self] at hg
    exact Or.inl hg
  · rw [hemit, fedFrames_emit, List.mem_singleton] at hg
    exact Or.inr hg
  · rw [hnone] at hg
    exact absurd hg List.not_mem_nil

/-- **A step feeds its conditioned frame and empty ones**, under every policy. -/
theorem fedFrames_sessionStep {s : Session} {i : SessionInput} {f : TouchFrame}
    (hf : f ∈ fedFrames (sessionStep s i).2) :
    f = .zero ∨ ∃ source tf nowMs, i = .frame source tf nowMs ∧ f = conditioned s tf := by
  cases i with
  | frame source tf nowMs =>
    simp only [sessionStep] at hf
    by_cases hacc : Accepts s source nowMs
    · rw [sessionFrame_accepted hacc] at hf
      simp only [fedFrames_append, List.mem_append] at hf
      rcases hf with hf | hf
      · exact (fedFrames_emitConditioned hf).imp_right fun h => ⟨source, tf, nowMs, rfl, h⟩
      · rw [← rearm, fedFrames_rearm] at hf
        exact absurd hf List.not_mem_nil
    · rw [sessionFrame_refused hacc] at hf
      exact absurd hf List.not_mem_nil
  | timer =>
    simp only [sessionStep] at hf
    by_cases hleft : endedIds s.lifecycle.prevIds [] = []
    · rw [sessionTimer_idle hleft] at hf
      exact absurd hf List.not_mem_nil
    · rw [sessionTimer_flush hleft, fedFrames_absenceCalls] at hf
      simp only [List.mem_cons, List.not_mem_nil, or_false, or_self] at hf
      exact Or.inl hf

/-- The step feeds a frame of at most five contacts whose report shows the contact as the finger. -/
def ShownIn (s : Session) (i : SessionInput) (id : Nat) (finger : U8) : Prop :=
  ∃ f ∈ fedFrames (sessionStep s i).2, f.contactCount ≤ 5 ∧ ShowsFinger f id finger

/-- **A contact is shown as the finger of its place.** -/
theorem finger_of_shownIn {s : Session} (h : Remembers s) {i : SessionInput} (hi : i.Distinct)
    {id : Nat} {finger : U8} (hshown : ShownIn s i id finger) :
    id ∈ recordIds s i ∧ place s i id < 5 ∧ finger = fingerOf (place s i id) := by
  obtain ⟨f, hf, hcount, hshows⟩ := hshown
  obtain ⟨slot, c, hc, hnib, rfl⟩ := showsFinger_slot hshows
  obtain ⟨hlt, hget⟩ := List.getElem?_eq_some_iff.mp hc
  rcases fedFrames_sessionStep hf with rfl | ⟨source, tf, nowMs, rfl, rfl⟩
  · exact absurd hlt (Nat.not_lt_zero slot)
  · have hids := contacts_conditioned_nibs h source nowMs hi
    have hnd := nodup_recordIds s hi
    have hslot : slot < (recordIds s (.frame source tf nowMs)).length := by
      rw [← hids, List.length_map]
      exact hlt
    have hat : (recordIds s (.frame source tf nowMs))[slot] = id := by
      simp only [← hids, List.getElem_map, hget, hnib]
    have hplace : place s (.frame source tf nowMs) id = slot := by
      rw [place, ← hat]
      exact hnd.idxOf_getElem slot hslot
    rw [TouchFrame.length_contacts] at hlt
    exact ⟨hat ▸ List.getElem_mem hslot, by omega, by rw [hplace]⟩

/-! ## A run -/

/-- **A contact keeps its fingerID exactly as long as it keeps its place**: in any two reports of a
run, its MakeTouch, Touching and BreakTouch reports among them. A fingerID is one of 1..5, and
no two contacts of a step are shown as the same finger. -/
theorem finger_kept_iff_place_kept (s₀ : Session) (source : Source) (mode : TransportMode)
    (policy : SessionPolicy) (nowMs : U32) (is : List SessionInput) (his : ∀ i ∈ is, i.Distinct) :
    let takes := Transducer.Takes sessionStep (sessionConnect s₀ source mode policy nowMs) is
    (∀ s i id finger, takes s i → ShownIn s i id finger →
      (1 ≤ finger.toNat ∧ finger.toNat ≤ 5) ∧
        ∀ id' finger', ShownIn s i id' finger' → (finger = finger' ↔ id = id')) ∧
    ∀ s i s' i' id finger finger', takes s i → takes s' i' → ShownIn s i id finger →
      ShownIn s' i' id finger' → (finger = finger' ↔ place s i id = place s' i' id) := by
  intro takes
  have hfinger : ∀ s i id finger, takes s i → ShownIn s i id finger →
      id ∈ recordIds s i ∧ place s i id < 5 ∧ finger = fingerOf (place s i id) := by
    intro s i id finger htakes hshown
    obtain ⟨hrem, hi⟩ := htakes.invariant (I := Remembers) (remembers_of_zero rfl)
      (fun t j _ ht => remembers_step ht j) his
    exact finger_of_shownIn hrem hi hshown
  refine ⟨?_, ?_⟩
  · intro s i id finger htakes hshown
    obtain ⟨hmem, hlt, rfl⟩ := hfinger s i id finger htakes hshown
    refine ⟨(fingerOf_spec hlt).1, fun id' finger' hshown' => ?_⟩
    obtain ⟨-, hlt', rfl⟩ := hfinger s i id' finger' htakes hshown'
    rw [(fingerOf_spec hlt).2 _ hlt']
    exact List.idxOf_inj hmem
  · intro s i s' i' id finger finger' htakes htakes' hshown hshown'
    obtain ⟨-, hlt, rfl⟩ := hfinger s i id finger htakes hshown
    obtain ⟨-, hlt', rfl⟩ := hfinger s' i' id finger' htakes' hshown'
    exact (fingerOf_spec hlt).2 _ hlt'

/-! ## Two fingers, of which one lifts -/

/-- What the recognizer takes of the records of a report, in a cleared buffer of 256 bytes: id,
state code and fingerID. -/
def shownRecords (f : TouchFrame) : List (Nat × U8 × U8) :=
  let out := (constructReport (some f) (some fun _ => 0) 256 0).2.getD fun _ => 0
  (List.range f.contactCount).map fun i =>
    ((readId fun k => out (4 + 9 * i + k)).toNat, readStateCode fun k => out (4 + 9 * i + k),
      readFingerId fun k => out (4 + 9 * i + k))

theorem showsFinger_of_mem {f : TouchFrame} {id : Nat} {code finger : U8}
    (h : (id, code, finger) ∈ shownRecords f) : ShowsFinger f id finger := by
  obtain ⟨i, hi, heq⟩ := List.mem_map.mp h
  obtain ⟨hid, -, hfinger⟩ := by simpa only [Prod.mk.injEq] using heq
  have hcount : f.contactCount ≤ 16 := f.transducers.count_le
  have hcap : ¬ 256 < 4 + 9 * f.contactCount := by omega
  have hreport := constructReport_eq f (fun _ => 0) 256 0
  rw [if_neg hcap] at hreport
  refine ⟨_, 256, 0, _, _, i, hreport, by omega, List.mem_range.mp hi, ?_⟩
  rw [hreport] at hid hfinger
  exact ⟨hid, hfinger⟩

theorem shownIn_of_mem {s : Session} {source : Source} {tf : TouchFrame} {nowMs : U32}
    (hacc : Accepts s source nowMs) (hp : tf.present ≠ [])
    (hcount : (conditioned s tf).contactCount ≤ 5) {id : Nat} (code : U8) {finger : U8}
    (h : (id, code, finger) ∈ shownRecords (conditioned s tf)) :
    ShownIn s (.frame source tf nowMs) id finger := by
  refine ⟨conditioned s tf, ?_, hcount, showsFinger_of_mem h⟩
  simp only [sessionStep, sessionFrame_present hacc hp, fedFrames_touching]
  exact List.mem_singleton_self _

/-- Two fingers come down. -/
def bothDown : SessionInput := .frame 1 (.ofContacts [.ofId 3 20, .ofId 7 25] 0) 5

/-- The first of them lifts. -/
def firstLifts : SessionInput := .frame 1 (.ofContacts [.ofId 7 25] 0) 9

theorem distinct_bothDown_firstLifts : ∀ i ∈ [bothDown, firstLifts], i.Distinct := by
  intro i hi
  simp only [List.mem_cons, List.not_mem_nil, or_false] at hi
  rcases hi with rfl | rfl
  · show DistinctIds _
    decide
  · show DistinctIds _
    decide

theorem finger_kept_iff_place_kept_first_lifts :
    let s := sessionConnect .zeroed 1 .eventDriven policyDefault 0
    let t := (sessionStep s bothDown).1
    3#8 = 2#8 ↔ place s bothDown 7 = place t firstLifts 7 :=
  (finger_kept_iff_place_kept .zeroed 1 .eventDriven policyDefault 0 [bothDown, firstLifts]
    distinct_bothDown_firstLifts).2 _ bothDown _ firstLifts 7 3 2
    ⟨[], [firstLifts], rfl, rfl⟩ ⟨[bothDown], [], rfl, rfl⟩
    (shownIn_of_mem (by decide) (by decide) (by decide) (stateCode .tsStart) (by decide))
    (shownIn_of_mem (by decide) (by decide) (by decide) (stateCode .tsTouching) (by decide))

/-- **Contact 7 is shown as finger 3 by its MakeTouch record, as finger 2 by its Touching one.** -/
theorem finger_moves :
    (∀ i ∈ [bothDown, firstLifts], i.Distinct) ∧
      (fedFrames (Transducer.run sessionStep
        (sessionConnect .zeroed 1 .eventDriven policyDefault 0)
          [bothDown, firstLifts]).2).map shownRecords =
      [[(3, stateCode .tsStart, 2), (7, stateCode .tsStart, 3)],
        [(7, stateCode .tsTouching, 2), (3, stateCode .tsEnd, 3)]] :=
  ⟨distinct_bothDown_firstLifts, by decide⟩

end MagicTrackpad
