import MagicTrackpad.Pipeline
import MagicTrackpad.Lib.Bitmask
import Mathlib.Data.List.Forall2
import Mathlib.Data.List.Induction
import Mathlib.Data.List.Nodup

/-!
# The contact lifecycle (`src/mavericks_lifecycle.c`)

`Lifecycle` remembers which ids were present in the last stepped frame (`prevIds`, a bit mask) and
the last contact stored for each id (`last`, meaningful only for the ids in `prevIds`).

* `lifecycleStep` is `mavericks_lifecycle_step`: pass 1 stamps every present contact START or
  TOUCHING and records it, pass 2 appends a TS_END record for every id that was present and is not
  any more.
* `lifecycleFlush` is `mavericks_lifecycle_flush`, the watchdog's lift of everything still down.

Results, in terms of the lists of contacts (`stampOf`, `presentIds`, `endedIds`, `endRecord`):
* `contacts_lifecycleStep`, `prevIds_lifecycleStep`: the whole output and the new mask.
* `recordAll_absent`, `recordAll_recorded`: the history `last_lifecycleStep` leaves, id by id;
  `rel_recordAll`: what two histories have in common.
* `contacts_lifecycleStep_of_distinct`: with distinct present ids no TS_END record is cut off.
* `contacts_lifecycleFlush`: a flush lifts exactly the ids in the mask.
-/

namespace MagicTrackpad

open Lib
open Lib.Bitmask (bit hasBit)

/-- `mavericks_lifecycle_t`. -/
structure Lifecycle where
  prevIds : U32
  last : Nat → TouchContact

/-- The state pass 1 gives a present contact. -/
def stampOf (prevIds : U32) (c : TouchContact) : TouchContact :=
  c.withState (if hasBit prevIds c.nib then .tsTouching else .tsStart)

/-- The BreakTouch record for `id`: the last contact stored for it, as TS_END. -/
def endRecord (last : Nat → TouchContact) (id : Nat) : TouchContact := (last id).withState .tsEnd

/-- `mavericks_lifecycle_reset`: `last` is left as it is. -/
def lifecycleReset (lc : Lifecycle) : Lifecycle := { lc with prevIds := 0#32 }

/-- Pass 1 on one contact: `now_ids |= bit; last[id] = the stamped contact`. -/
def recordContact (prevIds : U32) (st : U32 × (Nat → TouchContact)) (c : TouchContact) :
    U32 × (Nat → TouchContact) :=
  (st.1 ||| bit 32 c.nib, fun id => if id = c.nib then stampOf prevIds c else st.2 id)

/-- `mavericks_lifecycle_step`, in place: the new lifecycle and the new frame. -/
def lifecycleStep (lc : Lifecycle) (frame : TouchFrame) : Lifecycle × TouchFrame :=
  let pass1 := Nat.fold frame.contactCount
    (fun i _ st => (st.1.set i (stampOf lc.prevIds (st.1.slots i)),
      recordContact lc.prevIds st.2 (st.1.slots i)))
    (frame.transducers, (0#32, lc.last))
  let nowIds := pass1.2.1
  let last := pass1.2.2
  -- `push` is dropped on a full frame, the source's `contact_count < MAX_TOUCHES`
  let pass2 := Nat.fold maxTouches
    (fun id _ b =>
      if hasBit lc.prevIds id && !hasBit nowIds id then b.push (endRecord last id) else b)
    pass1.1
  ({ prevIds := nowIds, last := last }, { frame with transducers := pass2 })

/-- `mavericks_lifecycle_flush` into `out`; its return value is `0 < contactCount`. -/
def lifecycleFlush (lc : Lifecycle) (out : TouchFrame) : Lifecycle × TouchFrame :=
  let filled := Nat.fold maxTouches
    (fun id _ b => if hasBit lc.prevIds id then b.push (endRecord lc.last id) else b)
    (out.transducers.resize 0)
  ({ lc with prevIds := 0#32 },
    { transducers := filled, timestamp := 0, isPhysicalButtonDown := 0 })

/-! ## What a step says about the lists -/

/-- The ids of a list of contacts, as a mask. -/
def presentIds (cs : List TouchContact) : U32 := Bitmask.ofList 32 TouchContact.nib cs

/-- The ids in `prevIds` that no contact of the list has, in order. -/
def endedIds (prevIds : U32) (cs : List TouchContact) : List Nat :=
  (List.range maxTouches).filter fun id => hasBit prevIds id && !hasBit (presentIds cs) id

/-- The history after pass 1 over a list of contacts. -/
def recordAll (prevIds : U32) (last : Nat → TouchContact) (cs : List TouchContact) :
    Nat → TouchContact :=
  cs.foldl (fun last c id => if id = c.nib then stampOf prevIds c else last id) last

@[simp] theorem nib_stampOf (prevIds : U32) (c : TouchContact) :
    (stampOf prevIds c).nib = c.nib := rfl

@[simp] theorem hasBit_presentIds {cs : List TouchContact} {id : Nat} :
    hasBit (presentIds cs) id = true ↔ ∃ c ∈ cs, c.nib = id :=
  Bitmask.hasBit_ofList (fun c _ => c.nib_lt_32) id

theorem presentIds_eq_zero_iff {cs : List TouchContact} : presentIds cs = 0#32 ↔ cs = [] :=
  Bitmask.ofList_eq_zero_iff fun c _ => c.nib_lt_32

theorem mem_endedIds {prevIds : U32} {cs : List TouchContact} {id : Nat} :
    id ∈ endedIds prevIds cs ↔ id < 16 ∧ hasBit prevIds id = true ∧ ∀ c ∈ cs, c.nib ≠ id := by
  have hnot : (!hasBit (presentIds cs) id) = true ↔ ∀ c ∈ cs, c.nib ≠ id := by
    rw [Bool.not_eq_true', ← Bool.not_eq_true, hasBit_presentIds]
    simp
  rw [endedIds, List.mem_filter, List.mem_range, Bool.and_eq_true, hnot]

theorem nodup_endedIds (prevIds : U32) (cs : List TouchContact) : (endedIds prevIds cs).Nodup :=
  List.nodup_range.filter _

/-- Pass 1 splits into the mask and the history. -/
theorem foldl_recordContact (prevIds : U32) (m : U32) (last : Nat → TouchContact)
    (cs : List TouchContact) :
    cs.foldl (recordContact prevIds) (m, last) =
      (cs.foldl (fun m c => m ||| bit 32 c.nib) m, recordAll prevIds last cs) := by
  induction cs generalizing m last with
  | nil => rfl
  | cons c cs ih =>
    rw [List.foldl_cons, recordContact, ih]
    rfl

theorem pass1_eq (lc : Lifecycle) (frame : TouchFrame) :
    Nat.fold frame.contactCount
      (fun i _ st => (st.1.set i (stampOf lc.prevIds (st.1.slots i)),
        recordContact lc.prevIds st.2 (st.1.slots i)))
      (frame.transducers, (0#32, lc.last)) =
    (frame.transducers.rewrite frame.contactCount (stampOf lc.prevIds),
      (presentIds frame.contacts, recordAll lc.prevIds lc.last frame.contacts)) := by
  rw [SlotBuffer.fold_rewrite, foldl_recordContact]
  rfl

/-- **The new mask is the ids of the input contacts.** -/
theorem prevIds_lifecycleStep (lc : Lifecycle) (frame : TouchFrame) :
    (lifecycleStep lc frame).1.prevIds = presentIds frame.contacts := by
  simp only [lifecycleStep, pass1_eq]

theorem last_lifecycleStep (lc : Lifecycle) (frame : TouchFrame) :
    (lifecycleStep lc frame).1.last = recordAll lc.prevIds lc.last frame.contacts := by
  simp only [lifecycleStep, pass1_eq]

/-- The history keeps its record for an id that no contact has. -/
theorem recordAll_absent (prevIds : U32) (last : Nat → TouchContact) {cs : List TouchContact}
    {id : Nat} (h : ∀ c ∈ cs, c.nib ≠ id) : recordAll prevIds last cs id = last id := by
  induction cs generalizing last with
  | nil => rfl
  | cons c cs ih =>
    rw [recordAll, List.foldl_cons, ← recordAll, ih _ (fun d hd => h d (List.mem_cons_of_mem c hd))]
    exact if_neg fun he => h c List.mem_cons_self he.symm

/-- The history holds a stamped contact of its own for every present id. -/
theorem recordAll_recorded (prevIds : U32) (last : Nat → TouchContact) {cs : List TouchContact}
    {id : Nat} (h : ∃ c ∈ cs, c.nib = id) :
    ∃ c ∈ cs, c.nib = id ∧ recordAll prevIds last cs id = stampOf prevIds c := by
  induction cs using List.reverseRecOn with
  | nil =>
    obtain ⟨c, hc, -⟩ := h
    exact absurd hc List.not_mem_nil
  | append_singleton cs d ih =>
    have hlast : recordAll prevIds last (cs ++ [d]) id =
        if id = d.nib then stampOf prevIds d else recordAll prevIds last cs id := by
      rw [recordAll, List.foldl_append]
      rfl
    rw [hlast]
    by_cases hid : id = d.nib
    · rw [if_pos hid]
      exact ⟨d, List.mem_append_right _ List.mem_cons_self, hid.symm, rfl⟩
    · rw [if_neg hid]
      obtain ⟨c, hc, hnib⟩ := h
      rcases List.mem_append.mp hc with hold | hnew
      · obtain ⟨e, he, henib, heq⟩ := ih ⟨c, hold, hnib⟩
        exact ⟨e, List.mem_append_left _ he, henib, heq⟩
      · rw [List.mem_singleton.mp hnew] at hnib
        exact absurd hnib.symm hid

/-- Two histories, recorded from related contacts, are related at every id that is recorded and at
every id where they were related before. -/
theorem rel_recordAll {R : TouchContact → TouchContact → Prop} {m : U32}
    (hR : ∀ c d, R c d → c.nib = d.nib ∧ R (stampOf m c) (stampOf m d))
    {cs ds : List TouchContact} (hcs : List.Forall₂ R cs ds) {last last' : Nat → TouchContact}
    {id : Nat} (h : (∃ c ∈ cs, c.nib = id) ∨ R (last id) (last' id)) :
    R (recordAll m last cs id) (recordAll m last' ds id) := by
  induction hcs generalizing last last' with
  | nil =>
    rcases h with ⟨c, hc, -⟩ | h
    · exact absurd hc List.not_mem_nil
    · exact h
  | @cons c d cs ds hcd _ ih =>
    obtain ⟨hnib, hstamp⟩ := hR c d hcd
    refine ih ?_
    by_cases hid : id = c.nib
    · have hid' : id = d.nib := hid.trans hnib
      simp only [if_pos hid, if_pos hid']
      exact Or.inr hstamp
    · have hid' : ¬ id = d.nib := fun h => hid (h.trans hnib.symm)
      simp only [if_neg hid, if_neg hid']
      rcases h with ⟨e, he, hnib'⟩ | h
      · rcases List.mem_cons.mp he with rfl | he
        · exact absurd hnib'.symm hid
        · exact Or.inl ⟨e, he, hnib'⟩
      · exact Or.inr h

/-- With distinct ids, that contact is the only one. -/
theorem recordAll_present (prevIds : U32) (last : Nat → TouchContact) {cs : List TouchContact}
    (hnd : (cs.map TouchContact.nib).Nodup) {c : TouchContact} (hc : c ∈ cs) :
    recordAll prevIds last cs c.nib = stampOf prevIds c := by
  obtain ⟨d, hd, hnib, heq⟩ := recordAll_recorded prevIds last ⟨c, hc, rfl⟩
  rw [heq, List.inj_on_of_nodup_map hnd hd hc hnib]

/-- **What a step outputs**: the input contacts in order, stamped, then one TS_END record for each
id that left, in id order, as far as the sixteen slots go. -/
theorem contacts_lifecycleStep (lc : Lifecycle) (frame : TouchFrame) :
    (lifecycleStep lc frame).2.contacts =
      (frame.contacts.map (stampOf lc.prevIds) ++
        (endedIds lc.prevIds frame.contacts).map (endRecord lc.last)).take 16 := by
  have hlast : (endedIds lc.prevIds frame.contacts).map
        (endRecord (recordAll lc.prevIds lc.last frame.contacts)) =
      (endedIds lc.prevIds frame.contacts).map (endRecord lc.last) := by
    refine List.map_congr_left fun id hid => ?_
    rw [endRecord, recordAll_absent _ _ (mem_endedIds.mp hid).2.2, endRecord]
  have hpass1 : (frame.transducers.rewrite frame.contactCount (stampOf lc.prevIds)).toList =
      frame.contacts.map (stampOf lc.prevIds) := SlotBuffer.toList_rewrite _ _
  simp only [lifecycleStep, pass1_eq]
  rw [TouchFrame.contacts, SlotBuffer.toList_fold_push, hpass1, ← hlast]
  rfl

/-- With distinct ids nothing is cut off. -/
theorem contacts_lifecycleStep_of_distinct (lc : Lifecycle) {frame : TouchFrame}
    (hnd : (frame.contacts.map TouchContact.nib).Nodup) :
    (lifecycleStep lc frame).2.contacts =
      frame.contacts.map (stampOf lc.prevIds) ++
        (endedIds lc.prevIds frame.contacts).map (endRecord lc.last) := by
  rw [contacts_lifecycleStep]
  refine List.take_of_length_le ?_
  rw [List.length_append, List.length_map, List.length_map]
  refine Bitmask.length_add_missing_le hnd (fun c _ => c.nib_lt) _ fun id hid c hc hne => ?_
  rw [Bool.and_eq_true, Bool.not_eq_true', ← Bool.not_eq_true, hasBit_presentIds] at hid
  exact hid.2 ⟨c, hc, hne⟩

/-- With no present contact nothing is cut off either. -/
theorem contacts_lifecycleStep_of_nil (lc : Lifecycle) {frame : TouchFrame}
    (hnil : frame.contacts = []) :
    (lifecycleStep lc frame).2.contacts = (endedIds lc.prevIds []).map (endRecord lc.last) := by
  rw [contacts_lifecycleStep_of_distinct lc (by rw [hnil]; exact List.nodup_nil), hnil]
  rfl

/-! ## The flush -/

/-- The ids of a mask below sixteen, in order. -/
theorem endedIds_nil (prevIds : U32) :
    endedIds prevIds [] = (List.range maxTouches).filter (hasBit prevIds) := by
  refine List.filter_congr fun id _ => ?_
  have h0 : presentIds [] = 0#32 := rfl
  rw [h0, Bitmask.hasBit_zero, Bool.not_false, Bool.and_true]

/-- **The flush outputs one TS_END record for every id still down**, in id order: its unguarded
append never runs past the sixteen slots. -/
theorem contacts_lifecycleFlush (lc : Lifecycle) (out : TouchFrame) :
    (lifecycleFlush lc out).2.contacts = (endedIds lc.prevIds []).map (endRecord lc.last) := by
  have hlen : ((endedIds lc.prevIds []).map (endRecord lc.last)).length ≤ 16 := by
    rw [List.length_map, endedIds]
    exact Nat.le_trans (List.length_filter_le _ _) (by simp)
  simp only [lifecycleFlush, TouchFrame.contacts]
  rw [SlotBuffer.toList_fold_push, SlotBuffer.toList_resize_zero, List.nil_append, ← endedIds_nil]
  exact List.take_of_length_le hlen

/-- A mask with ids below sixteen only. -/
def IdsBelow16 (m : U32) : Prop := ∀ id, hasBit m id = true → id < 16

theorem idsBelow16_presentIds (cs : List TouchContact) : IdsBelow16 (presentIds cs) := by
  intro id hid
  obtain ⟨c, _, rfl⟩ := hasBit_presentIds.mp hid
  exact c.nib_lt

theorem idsBelow16_zero : IdsBelow16 0#32 := fun id hid =>
  absurd hid (by rw [Bitmask.hasBit_zero]; exact Bool.false_ne_true)

theorem mem_endedIds_nil {m : U32} (hm : IdsBelow16 m) {id : Nat} :
    id ∈ endedIds m [] ↔ hasBit m id = true := by
  rw [mem_endedIds]
  exact ⟨fun h => h.2.1, fun h => ⟨hm id h, h, fun c hc => absurd hc List.not_mem_nil⟩⟩

theorem endedIds_nil_eq_nil {m : U32} (hm : IdsBelow16 m) : endedIds m [] = [] ↔ m = 0#32 := by
  rw [Bitmask.eq_zero_iff, List.eq_nil_iff_forall_not_mem]
  refine forall_congr' fun id => ?_
  rw [mem_endedIds_nil hm, Bool.not_eq_true]

end MagicTrackpad
