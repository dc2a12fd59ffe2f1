import MagicTrackpad.Lifecycle
import Mathlib.Data.List.Perm.Subperm

/-!
# When a lift is lost

`mavericks_lifecycle_step` appends one TS_END record for each id that was down and is not in the
frame, behind `contact_count < MAX_TOUCHES`, and then drops every such id from its history ("so
their end is delivered exactly once", says the header). Contacts may share a low nibble, so sixteen
of them need not be sixteen ids, and a record that finds the frame full is gone for good.

`LiftsDelivered` says what the header promises of one step, for any frame and any mask:

* `LiftsDelivered.fits`, `LiftsDelivered.below16`: it needs a slot for each contact and each id that
  left, and a mask without ids that pass 2 never visits.
* `lifts_delivered_iff`: and that is enough.
* `not_lifts_delivered_full`: sixteen contacts of one id, after a frame with another.
-/

namespace MagicTrackpad

open Lib
open Lib.Bitmask (hasBit)

/-- The id was down before the frame and no contact of the frame has it. -/
def LeftFrame (lc : Lifecycle) (frame : TouchFrame) (id : Nat) : Prop :=
  hasBit lc.prevIds id = true ∧ ∀ c ∈ frame.contacts, c.nib ≠ id

/-- The same contact, in another state that is not TS_END. -/
def Restamped (c d : TouchContact) : Prop := ∃ s, s ≠ .tsEnd ∧ d = c.withState s

/-- What `mavericks_lifecycle_step` is to do with a frame: the contacts first, in order and with
only their state changed, then one TS_END record with the last recorded data for each id that left,
and no other; and the history is the ids of the frame. -/
structure LiftsDelivered (lc : Lifecycle) (frame : TouchFrame) : Prop where
  output : ∃ (stamped : List TouchContact) (ids : List Nat),
    List.Forall₂ Restamped frame.contacts stamped ∧
    ids.Nodup ∧ (∀ id, id ∈ ids ↔ LeftFrame lc frame id) ∧
    (lifecycleStep lc frame).2.contacts = stamped ++ ids.map (endRecord lc.last)
  history : ∀ id, hasBit (lifecycleStep lc frame).1.prevIds id = true ↔
    ∃ c ∈ frame.contacts, c.nib = id

variable {lc : Lifecycle} {frame : TouchFrame}

theorem restamped_stampOf (prevIds : U32) (c : TouchContact) : Restamped c (stampOf prevIds c) := by
  refine ⟨_, ?_, rfl⟩
  split <;> decide

theorem restamped_map_stampOf (prevIds : U32) (cs : List TouchContact) :
    List.Forall₂ Restamped cs (cs.map (stampOf prevIds)) :=
  List.forall₂_map_right_iff.mpr (List.forall₂_same.mpr fun c _ => restamped_stampOf prevIds c)

/-- The ids that left are those pass 2 finds, and those above it. -/
theorem leftFrame_of_mem_endedIds {id : Nat} (h : id ∈ endedIds lc.prevIds frame.contacts) :
    LeftFrame lc frame id :=
  (mem_endedIds.mp h).2

theorem mem_endedIds_of_leftFrame {id : Nat} (h : LeftFrame lc frame id) (hid : id < 16) :
    id ∈ endedIds lc.prevIds frame.contacts :=
  mem_endedIds.mpr ⟨hid, h⟩

/-- A contact's id is below sixteen: an id above was not in the frame. -/
theorem leftFrame_of_le {id : Nat} (hbit : hasBit lc.prevIds id = true) (hid : 16 ≤ id) :
    LeftFrame lc frame id :=
  ⟨hbit, fun c _ hc => Nat.not_lt_of_le hid (hc ▸ c.nib_lt)⟩

/-- The history of a step is right whatever the frame. -/
theorem history_lifecycleStep (lc : Lifecycle) (frame : TouchFrame) (id : Nat) :
    hasBit (lifecycleStep lc frame).1.prevIds id = true ↔ ∃ c ∈ frame.contacts, c.nib = id := by
  rw [prevIds_lifecycleStep, hasBit_presentIds]

theorem contactCount_lifecycleStep (lc : Lifecycle) (frame : TouchFrame) :
    (lifecycleStep lc frame).2.contactCount =
      min 16 (frame.contactCount + (endedIds lc.prevIds frame.contacts).length) := by
  rw [← TouchFrame.length_contacts, contacts_lifecycleStep, List.length_take, List.length_append,
    List.length_map, List.length_map, TouchFrame.length_contacts]

/-- The length of the output, where the lifts are delivered: a slot for each contact and each id. -/
theorem LiftsDelivered.length_eq (h : LiftsDelivered lc frame) :
    ∃ ids : List Nat, ids.Nodup ∧ (∀ id, id ∈ ids ↔ LeftFrame lc frame id) ∧
      frame.contactCount + ids.length =
        min 16 (frame.contactCount + (endedIds lc.prevIds frame.contacts).length) := by
  obtain ⟨stamped, ids, hstamped, hnd, hids, hout⟩ := h.output
  refine ⟨ids, hnd, hids, ?_⟩
  have hlen := congrArg List.length hout
  rw [TouchFrame.length_contacts, contactCount_lifecycleStep, List.length_append, List.length_map,
    ← hstamped.length_eq, TouchFrame.length_contacts] at hlen
  exact hlen.symm

/-- Lifts are delivered only where every contact and every ended id has a slot. -/
theorem LiftsDelivered.fits (h : LiftsDelivered lc frame) :
    frame.contactCount + (endedIds lc.prevIds frame.contacts).length ≤ 16 := by
  obtain ⟨ids, -, hids, hlen⟩ := h.length_eq
  have hsub : endedIds lc.prevIds frame.contacts ⊆ ids := fun id hid =>
    (hids id).mpr (leftFrame_of_mem_endedIds hid)
  have hle : (endedIds lc.prevIds frame.contacts).length ≤ ids.length :=
    (List.subperm_of_subset (nodup_endedIds _ _) hsub).length_le
  omega

/-- Pass 2 stops at sixteen: an id above it never gets its record. -/
theorem LiftsDelivered.below16 (h : LiftsDelivered lc frame) : IdsBelow16 lc.prevIds := by
  intro id hbit
  by_contra hid
  obtain ⟨ids, -, hids, hlen⟩ := h.length_eq
  have hmem : id ∈ ids := (hids id).mpr (leftFrame_of_le hbit (Nat.le_of_not_lt hid))
  have hnot : id ∉ endedIds lc.prevIds frame.contacts := fun he => hid (mem_endedIds.mp he).1
  have hsub : id :: endedIds lc.prevIds frame.contacts ⊆ ids := by
    refine List.cons_subset.mpr ⟨hmem, fun j hj => ?_⟩
    exact (hids j).mpr (leftFrame_of_mem_endedIds hj)
  have hnd := List.nodup_cons.mpr ⟨hnot, nodup_endedIds lc.prevIds frame.contacts⟩
  have hle := (List.subperm_of_subset hnd hsub).length_le
  rw [List.length_cons] at hle
  omega

/-- Where there is a slot for each, nothing is cut off. -/
theorem lifts_delivered_of_fits
    (hfits : frame.contactCount + (endedIds lc.prevIds frame.contacts).length ≤ 16)
    (hbelow : IdsBelow16 lc.prevIds) : LiftsDelivered lc frame where
  output := by
    refine ⟨_, _, restamped_map_stampOf lc.prevIds frame.contacts,
      nodup_endedIds lc.prevIds frame.contacts, fun id => ?_, ?_⟩
    · exact ⟨leftFrame_of_mem_endedIds, fun h => mem_endedIds_of_leftFrame h (hbelow id h.1)⟩
    · rw [contacts_lifecycleStep]
      refine List.take_of_length_le ?_
      rw [List.length_append, List.length_map, List.length_map, TouchFrame.length_contacts]
      exact hfits
  history := history_lifecycleStep lc frame

/-- **Exactly when no lift is lost**: there is a slot for each contact of the frame and each id that
left, and no id of the mask is out of the reach of pass 2. -/
theorem lifts_delivered_iff (lc : Lifecycle) (frame : TouchFrame) :
    LiftsDelivered lc frame ↔
      frame.contactCount + (endedIds lc.prevIds frame.contacts).length ≤ 16 ∧
        IdsBelow16 lc.prevIds :=
  ⟨fun h => ⟨h.fits, h.below16⟩, fun h => lifts_delivered_of_fits h.1 h.2⟩

/-- The finger with id 2 leaves while sixteen records of id 1 fill the frame. -/
theorem not_lifts_delivered_full :
    ¬ LiftsDelivered (lifecycleStep ⟨0#32, fun _ => .zero⟩ (.ofContacts [.ofId 2 20] 0)).1
      (.ofContacts (List.replicate 16 (.ofId 1 20)) 0) := by
  intro h
  exact absurd h.fits (by decide)

end MagicTrackpad
