import Mathlib.Data.List.Basic
import Mathlib.Data.List.Nodup
import Mathlib.Logic.Function.Basic

/-!
# Fingers on a surface, and what is told about them

A surface is seen from time to time, each time as a list of fingers at their places. Whoever
watches it is told of each finger seen whether it starts or moves, and of each finger that was down
and is no longer seen that it ends, in the order of a list of all ids.

* `sightings` is what is told, `downAfter` who is down after it.
* `watch` is the watcher: it has nothing but what it is told. A list with nothing in it means that
  nobody is left.

Results:
* `downAfter_append`: when fingers that are seen too would make a difference.
* `watch_sightings`: a watcher that knew who was down knows who is down after.
-/

namespace MagicTrackpad.Lib.Surface

variable {ι P : Type}

/-- A finger at a place. -/
structure Finger (ι P : Type) where
  id : ι
  place : P
  deriving DecidableEq

/-- What is told of a finger. -/
inductive Phase
  | starts
  | moves
  | ends
  deriving DecidableEq, Repr

/-- A finger, where it is or was last, and what is told of it. -/
structure Sighting (ι P : Type) where
  id : ι
  phase : Phase
  place : P
  deriving DecidableEq

/-- Where each finger that is down was seen last. -/
abbrev Down (ι P : Type) := ι → Option P

/-- Nobody is down. -/
def nobody : Down ι P := fun _ => none

/-- A finger that was down moves, any other one starts. -/
def sight (down : Down ι P) (f : Finger ι P) : Sighting ι P :=
  ⟨f.id, if (down f.id).isSome then .moves else .starts, f.place⟩

/-- What is known of a finger after a sighting of it. -/
def known (s : Sighting ι P) : Option P :=
  match s.phase with
  | .ends => none
  | _ => some s.place

/-- A finger that is seen is known to be where it was seen. -/
theorem known_sight {down : Down ι P} {f : Finger ι P} : known (sight down f) = some f.place := by
  unfold known sight
  cases (down f.id).isSome <;> rfl

variable [DecidableEq ι]

/-- The fingers that were down and are no longer seen. -/
def departed (ids : List ι) (down : Down ι P) (fs : List (Finger ι P)) : List (Sighting ι P) :=
  ids.filterMap fun id =>
    if id ∈ fs.map Finger.id then none else (down id).map fun place => ⟨id, .ends, place⟩

/-- What is told when `fs` is seen. -/
def sightings (ids : List ι) (down : Down ι P) (fs : List (Finger ι P)) : List (Sighting ι P) :=
  fs.map (sight down) ++ departed ids down fs

/-- Who is down when `fs` was seen. -/
def downAfter (fs : List (Finger ι P)) : Down ι P := fun id =>
  (fs.find? fun f => f.id = id).map Finger.place

/-- The watcher's picture after one sighting. -/
def tell (picture : Down ι P) (s : Sighting ι P) : Down ι P :=
  Function.update picture s.id (known s)

/-- The watcher's picture after it is told `ss`. -/
def watch (picture : Down ι P) (ss : List (Sighting ι P)) : Down ι P :=
  if ss = [] then nobody else ss.foldl tell picture

variable {ids : List ι} {down picture : Down ι P} {fs : List (Finger ι P)}
  {ss : List (Sighting ι P)}

theorem mem_departed {s : Sighting ι P} :
    s ∈ departed ids down fs ↔
      s.id ∈ ids ∧ s.id ∉ fs.map Finger.id ∧ s.phase = .ends ∧ down s.id = some s.place := by
  rw [departed, List.mem_filterMap]
  constructor
  · rintro ⟨id, hid, h⟩
    split at h
    · exact absurd h.symm (Option.some_ne_none s)
    · next hout =>
      obtain ⟨place, hplace, rfl⟩ := Option.map_eq_some_iff.mp h
      exact ⟨hid, hout, rfl, hplace⟩
  · rintro ⟨hid, hout, hphase, hdown⟩
    refine ⟨s.id, hid, ?_⟩
    rw [if_neg hout, hdown, Option.map_some, ← hphase]

/-- A finger that is not told of stays as it is in the picture. -/
theorem foldl_absent {id : ι} (h : id ∉ ss.map Sighting.id) :
    ss.foldl tell picture id = picture id := by
  induction ss generalizing picture with
  | nil => rfl
  | cons s ss ih =>
    rw [List.map_cons, List.mem_cons, not_or] at h
    rw [List.foldl_cons, ih h.2, tell, Function.update_of_ne h.1]

/-- One that is told of once is known by that. -/
theorem foldl_mem (hnd : (ss.map Sighting.id).Nodup) {s : Sighting ι P} (hs : s ∈ ss) :
    ss.foldl tell picture s.id = known s := by
  induction ss generalizing picture with
  | nil => exact absurd hs List.not_mem_nil
  | cons t ss ih =>
    rw [List.map_cons, List.nodup_cons] at hnd
    rw [List.foldl_cons]
    rcases List.mem_cons.mp hs with rfl | hs
    · rw [foldl_absent hnd.1, tell, Function.update_self]
    · exact ih hnd.2 hs

theorem downAfter_of_notMem {id : ι} (h : id ∉ fs.map Finger.id) : downAfter fs id = none := by
  rw [downAfter, Option.map_eq_none_iff, List.find?_eq_none]
  intro f hf hid
  exact h (List.mem_map.mpr ⟨f, hf, of_decide_eq_true hid⟩)

theorem downAfter_of_mem (hnd : (fs.map Finger.id).Nodup) {f : Finger ι P} (hf : f ∈ fs) :
    downAfter fs f.id = some f.place := by
  induction fs with
  | nil => exact absurd hf List.not_mem_nil
  | cons g fs ih =>
    rw [List.map_cons, List.nodup_cons] at hnd
    rcases List.mem_cons.mp hf with rfl | hf
    · rw [downAfter, List.find?_cons_of_pos (by simp), Option.map_some]
    · have hne : g.id ≠ f.id := fun h => hnd.1 (h ▸ List.mem_map_of_mem hf)
      rw [downAfter, List.find?_cons_of_neg (by simpa using hne)]
      exact ih hnd.2 hf

/-- What ends, ends in the order of the ids. -/
theorem departed_sublist : ((departed ids down fs).map Sighting.id).Sublist ids := by
  induction ids with
  | nil => exact List.Sublist.slnil
  | cons id ids ih =>
    rw [departed, List.filterMap_cons]
    split
    · exact ih.cons id
    · next s hs =>
      have hid : s.id = id := by
        split at hs
        · exact absurd hs.symm (Option.some_ne_none s)
        · obtain ⟨place, -, rfl⟩ := Option.map_eq_some_iff.mp hs
          rfl
      rw [List.map_cons, hid]
      exact ih.cons_cons id

/-- Nobody is told of twice. -/
theorem nodup_sightings (hids : ids.Nodup) (hnd : (fs.map Finger.id).Nodup) :
    ((sightings ids down fs).map Sighting.id).Nodup := by
  have hseen : (fs.map (sight down)).map Sighting.id = fs.map Finger.id := by
    rw [List.map_map]
    rfl
  have hleft : ((departed ids down fs).map Sighting.id).Nodup :=
    departed_sublist.nodup hids
  rw [sightings, List.map_append, hseen, List.nodup_append]
  refine ⟨hnd, hleft, fun id hid id' hid' h => ?_⟩
  obtain ⟨s, hs, rfl⟩ := List.mem_map.mp hid'
  exact (mem_departed.mp hs).2.1 (h ▸ hid)

/-- **A watcher that knew who was down knows who is down after.** -/
theorem watch_sightings (hids : ids.Nodup) (hall : ∀ id, down id ≠ none → id ∈ ids)
    (hnd : (fs.map Finger.id).Nodup) : watch down (sightings ids down fs) = downAfter fs := by
  have hnodup : ((sightings ids down fs).map Sighting.id).Nodup := nodup_sightings hids hnd
  by_cases hnil : sightings ids down fs = []
  · have hfs : fs = [] := List.map_eq_nil_iff.mp (List.append_eq_nil_iff.mp hnil).1
    rw [watch, if_pos hnil, hfs]
    rfl
  · rw [watch, if_neg hnil]
    funext id
    by_cases hseen : id ∈ fs.map Finger.id
    · obtain ⟨f, hf, rfl⟩ := List.mem_map.mp hseen
      have hmem : sight down f ∈ sightings ids down fs :=
        List.mem_append_left _ (List.mem_map_of_mem hf)
      rw [downAfter_of_mem hnd hf]
      exact (foldl_mem hnodup hmem).trans known_sight
    · rw [downAfter_of_notMem hseen]
      cases hdown : down id with
      | none =>
        refine (foldl_absent fun htold => ?_).trans hdown
        obtain ⟨s, hs, rfl⟩ := List.mem_map.mp htold
        rcases List.mem_append.mp hs with hs | hs
        · obtain ⟨f, hf, rfl⟩ := List.mem_map.mp hs
          exact hseen (List.mem_map_of_mem hf)
        · have hsome := (mem_departed.mp hs).2.2.2
          rw [hdown] at hsome
          exact Option.some_ne_none s.place hsome.symm
      | some place =>
        have hmem : (⟨id, .ends, place⟩ : Sighting ι P) ∈ sightings ids down fs := by
          refine List.mem_append_right _ (mem_departed.mpr ⟨hall id ?_, hseen, rfl, hdown⟩)
          rw [hdown]
          exact Option.some_ne_none place
        exact foldl_mem hnodup hmem

end MagicTrackpad.Lib.Surface
