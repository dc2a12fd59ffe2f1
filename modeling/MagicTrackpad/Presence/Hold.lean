import MagicTrackpad.Lib.Transducer
import MagicTrackpad.Presence
import Mathlib.Data.List.Induction
import Mathlib.Data.List.Nodup

/-!
# The hold window (`mavericks_presence_observer.c`, `obs_sm_event`)

After a removal the observer holds its view until a transport appears or the window timer fires.
Timers are never cancelled: each carries the generation it was armed at, and one that fires later
finds `gen` moved on. `observerStep` takes the observer through edges, polls and firings in any
order.

* `obsSmEvent_cases`, `obsWindowFired_cases`, `presenceObserverReconcile_cases`: all that each of
  the three operations can do.
* `HoldInv`: the pending tags are distinct and not ahead of `gen`, and in a hold the tag `gen` is
  pending. Every operation keeps it.
* `hold_entered`: in a hold, `gen` is the tag of the timer that the removal which began this hold
  armed.
* `hold_owned_by_its_timer`: so a hold has exactly one timer of its own, and only the firing of
  that timer ends it with nothing present.
-/

namespace MagicTrackpad

open Lib

/-- What happens to the observer: an edge of a reader class, a poll that finds the truth
(`bt`, `usb`), or the firing of a pending window timer. -/
inductive ObserverInput
  | appear (t : Transport)
  | remove (t : Transport)
  | poll (bt usb : Bool)
  | window (my : Nat)
  deriving DecidableEq, Repr

/-- The observer's transition; a timer that is not pending cannot fire. -/
def observerStep : Transducer PresenceObserver ObserverInput PresenceCall
  | o, .appear t => obsSmEvent o t.appearEdge
  | o, .remove t => obsSmEvent o t.removeEdge
  | o, .poll bt usb => presenceObserverReconcile o bt usb
  | o, .window my => if my ∈ o.windows then obsWindowFired o my else (o, [])

/-- The observer after a history of inputs. -/
def observerAfter (es : List ObserverInput) : PresenceObserver :=
  (Transducer.run observerStep presenceObserverCreate es).1

theorem observerAfter_concat (es : List ObserverInput) (i : ObserverInput) :
    observerAfter (es ++ [i]) = (observerStep (observerAfter es) i).1 := by
  rw [observerAfter, Transducer.run_concat, observerAfter]

/-! ## What each operation can do -/

/-- **An edge** of the machine: the transport appears and its view is taken, it goes and the view is
held, or nothing changes. -/
theorem presenceStep_cases (s : PresenceState) {e : PresenceEvent} (he : e ≠ .removalElapsed) :
    (s ≠ .hold ∧ presenceStep s e = ⟨.hold, .hold⟩ ∧ ∃ t : Transport, e = t.removeEdge) ∨
      (∃ s' a, s' ≠ .none ∧ s' ≠ .hold ∧ a ≠ .none ∧ a ≠ .hold ∧ a ≠ .absent ∧
        presenceStep s e = ⟨s', a⟩) ∨
      presenceStep s e = ⟨s, .none⟩ := by
  cases e with
  | btAppear =>
    by_cases hs : s = .bt
    · exact .inr (.inr (by simp [presenceStep, hs]))
    · exact .inr (.inl ⟨.bt, .onBt, by simp [presenceStep, hs]⟩)
  | usbAppear =>
    by_cases hs : s = .usb
    · exact .inr (.inr (by simp [presenceStep, hs]))
    · exact .inr (.inl ⟨.usb, .onUsb, by simp [presenceStep, hs]⟩)
  | btRemove =>
    by_cases hs : s = .bt
    · exact .inl ⟨by simp [hs], by simp [presenceStep, hs], .bt, rfl⟩
    · exact .inr (.inr (by simp [presenceStep, hs]))
  | usbRemove =>
    by_cases hs : s = .usb
    · exact .inl ⟨by simp [hs], by simp [presenceStep, hs], .usb, rfl⟩
    · exact .inr (.inr (by simp [presenceStep, hs]))
  | removalElapsed => exact absurd rfl he

/-- **An edge** of the observer: a hold begins and its timer is armed with a new generation, a view
is taken under a new generation, or nothing changes. -/
theorem obsSmEvent_cases (o : PresenceObserver) {e : PresenceEvent} (he : e ≠ .removalElapsed) :
    (o.state ≠ .hold ∧ (∃ t : Transport, e = t.removeEdge) ∧
        obsSmEvent o e = (⟨.hold, o.gen + 1, o.windows ++ [o.gen + 1]⟩, [(.hold, e)])) ∨
      (∃ s a, s ≠ .none ∧ s ≠ .hold ∧ a ≠ .absent ∧
        obsSmEvent o e = (⟨s, o.gen + 1, o.windows⟩, [(a, e)])) ∨
      obsSmEvent o e = (o, [(.none, e)]) := by
  rcases presenceStep_cases o.state he with
    ⟨hs, hstep, hremove⟩ | ⟨s, a, hnone, hhold, ha, ha', hab, hstep⟩ | hstep
  · exact .inl ⟨hs, hremove, by simp [obsSmEvent, hstep]⟩
  · exact .inr (.inl ⟨s, a, hnone, hhold, hab, by simp [obsSmEvent, hstep, ha, ha']⟩)
  · exact .inr (.inr (by simp [obsSmEvent, hstep]))

/-- **A firing**: the timer of the hold ends it, and any other timer is used up. -/
theorem obsWindowFired_cases (o : PresenceObserver) (my : Nat) :
    (my = o.gen ∧ o.state = .hold ∧ obsWindowFired o my =
        (⟨.none, o.gen, o.windows.erase my⟩, [(.absent, .removalElapsed)])) ∨
      (¬ (my = o.gen ∧ o.state = .hold) ∧ ∃ calls, (∀ e, (.absent, e) ∉ calls) ∧
        obsWindowFired o my = ({ o with windows := o.windows.erase my }, calls)) := by
  by_cases hmy : my = o.gen
  · by_cases hs : o.state = .hold
    · exact .inl ⟨hmy, hs, by simp [obsWindowFired, hmy, hs, presenceStep]⟩
    · exact .inr ⟨fun h => hs h.2, [(.none, .removalElapsed)], by simp,
        by simp [obsWindowFired, hmy, hs, presenceStep]⟩
  · exact .inr ⟨fun h => hmy h.1, [], by simp, by simp [obsWindowFired, hmy]⟩

/-- **A poll** never touches the timers, never begins a hold, and never ends one with nothing
present. -/
theorem presenceObserverReconcile_cases (o : PresenceObserver) (bt usb : Bool) :
    (∃ calls, (∀ e, (.absent, e) ∉ calls) ∧ presenceObserverReconcile o bt usb = (o, calls)) ∨
      (∃ s calls, s ≠ .hold ∧ (o.state = .hold → s ≠ .none ∧ ∀ e, (.absent, e) ∉ calls) ∧
        presenceObserverReconcile o bt usb = ({ o with state := s }, calls)) := by
  have htarget : presenceViewFor bt usb ≠ .hold := by cases bt <;> cases usb <;> decide
  unfold presenceObserverReconcile presenceReconcile
  generalize presenceViewFor bt usb = target at htarget
  by_cases hkeep : o.state = .hold ∧ target = .none
  · exact .inl ⟨[(.none, .removalElapsed)], by simp, by simp only [if_pos hkeep]⟩
  · by_cases hsame : o.state = target
    · exact .inl ⟨[(.none, .removalElapsed)], by simp, by simp [← hsame]⟩
    · refine .inr ⟨target, [(renderFor target, .removalElapsed)], htarget, fun hhold => ?_,
        by simp [hkeep, hsame]⟩
      have hnone : target ≠ .none := fun h => hkeep ⟨hhold, h⟩
      cases target with
      | none => exact absurd rfl hnone
      | bt => simp [renderFor]
      | usb => simp [renderFor]
      | hold => exact absurd rfl htarget

/-! ## The invariant -/

/-- What the tags say of a reachable observer. -/
structure HoldInv (o : PresenceObserver) : Prop where
  nodup : o.windows.Nodup
  /-- No timer is ahead of the generation. -/
  tag_le : ∀ my ∈ o.windows, my ≤ o.gen
  /-- A hold has a timer. -/
  armed : o.state = .hold → o.gen ∈ o.windows

theorem holdInv_create : HoldInv presenceObserverCreate where
  nodup := List.nodup_nil
  tag_le := by simp [presenceObserverCreate]
  armed := by simp [presenceObserverCreate]

theorem HoldInv.fresh {o : PresenceObserver} (h : HoldInv o) : o.gen + 1 ∉ o.windows :=
  fun hmem => absurd (h.tag_le _ hmem) (by omega)

theorem holdInv_obsSmEvent {o : PresenceObserver} (h : HoldInv o) {e : PresenceEvent}
    (he : e ≠ .removalElapsed) : HoldInv (obsSmEvent o e).1 := by
  rcases obsSmEvent_cases o he with ⟨-, -, hstep⟩ | ⟨s, a, -, hhold, -, hstep⟩ | hstep
  · rw [hstep]
    refine ⟨?_, ?_, fun _ => List.mem_append_right _ List.mem_cons_self⟩
    · refine List.nodup_append.mpr ⟨h.nodup, by simp, fun my hmem k hk => ?_⟩
      rw [List.mem_singleton.mp hk]
      exact fun heq => h.fresh (heq ▸ hmem)
    · intro my hmem
      rcases List.mem_append.mp hmem with hold | hnew
      · exact Nat.le_succ_of_le (h.tag_le my hold)
      · exact Nat.le_of_eq (List.mem_singleton.mp hnew)
  · rw [hstep]
    exact ⟨h.nodup, fun my hmem => Nat.le_succ_of_le (h.tag_le my hmem),
      fun hs => absurd hs hhold⟩
  · rw [hstep]
    exact h

theorem holdInv_obsWindowFired {o : PresenceObserver} (h : HoldInv o) (my : Nat) :
    HoldInv (obsWindowFired o my).1 := by
  have htag : ∀ k ∈ o.windows.erase my, k ≤ o.gen := fun k hk =>
    h.tag_le k (List.mem_of_mem_erase hk)
  rcases obsWindowFired_cases o my with ⟨-, -, hstep⟩ | ⟨hother, calls, -, hstep⟩
  · rw [hstep]
    exact ⟨h.nodup.erase my, htag, fun hs => by cases hs⟩
  · rw [hstep]
    refine ⟨h.nodup.erase my, htag, fun hs => ?_⟩
    have hne : o.gen ≠ my := fun heq => hother ⟨heq.symm, hs⟩
    exact (List.mem_erase_of_ne hne).mpr (h.armed hs)

theorem holdInv_presenceObserverReconcile {o : PresenceObserver} (h : HoldInv o) (bt usb : Bool) :
    HoldInv (presenceObserverReconcile o bt usb).1 := by
  rcases presenceObserverReconcile_cases o bt usb with ⟨_, -, hstep⟩ | ⟨s, _, hs, -, hstep⟩
  · rw [hstep]
    exact h
  · rw [hstep]
    exact ⟨h.nodup, h.tag_le, fun hhold => absurd hhold hs⟩

theorem Transport.appearEdge_ne (t : Transport) : t.appearEdge ≠ .removalElapsed := by
  cases t <;> decide

theorem Transport.removeEdge_ne (t : Transport) : t.removeEdge ≠ .removalElapsed := by
  cases t <;> decide

theorem holdInv_observerStep {o : PresenceObserver} (h : HoldInv o) (i : ObserverInput) :
    HoldInv (observerStep o i).1 := by
  cases i with
  | appear t => exact holdInv_obsSmEvent h t.appearEdge_ne
  | remove t => exact holdInv_obsSmEvent h t.removeEdge_ne
  | poll bt usb => exact holdInv_presenceObserverReconcile h bt usb
  | window my =>
    simp only [observerStep]
    split
    · exact holdInv_obsWindowFired h my
    · exact h

theorem holdInv_observerAfter (es : List ObserverInput) : HoldInv (observerAfter es) :=
  Transducer.run_state_induction observerStep (A := fun _ => True) holdInv_create
    (fun _ i _ h => holdInv_observerStep h i) es fun _ _ => trivial

/-! ## One hold, from its removal to its end -/

/-- **One step into or within a hold**: the removal that begins it arms its timer, and within it the
generation stays. -/
theorem observerStep_hold {o : PresenceObserver} {i : ObserverInput}
    (h : (observerStep o i).1.state = .hold) :
    (o.state ≠ .hold ∧ (∃ t, i = .remove t) ∧
        (observerStep o i).1.windows = o.windows ++ [(observerStep o i).1.gen] ∧
        (observerStep o i).1.gen = o.gen + 1) ∨
      (o.state = .hold ∧ (observerStep o i).1.gen = o.gen) := by
  cases i with
  | appear t =>
    simp only [observerStep] at h ⊢
    rcases obsSmEvent_cases o t.appearEdge_ne with
      ⟨-, ⟨t', ht⟩, -⟩ | ⟨s, a, -, hs, -, hstep⟩ | hstep
    · cases t <;> cases t' <;> cases ht
    · rw [hstep] at h
      exact absurd h hs
    · rw [hstep] at h ⊢
      exact .inr ⟨h, rfl⟩
  | remove t =>
    simp only [observerStep] at h ⊢
    rcases obsSmEvent_cases o t.removeEdge_ne with
      ⟨hs, -, hstep⟩ | ⟨s, a, -, hs, -, hstep⟩ | hstep
    · rw [hstep]
      exact .inl ⟨hs, ⟨t, rfl⟩, rfl, rfl⟩
    · rw [hstep] at h
      exact absurd h hs
    · rw [hstep] at h ⊢
      exact .inr ⟨h, rfl⟩
  | poll bt usb =>
    simp only [observerStep] at h ⊢
    rcases presenceObserverReconcile_cases o bt usb with ⟨_, -, hstep⟩ | ⟨s, _, hs, -, hstep⟩
    · rw [hstep] at h ⊢
      exact .inr ⟨h, rfl⟩
    · rw [hstep] at h
      exact absurd h hs
  | window my =>
    by_cases hmem : my ∈ o.windows
    · simp only [observerStep, if_pos hmem] at h ⊢
      rcases obsWindowFired_cases o my with ⟨-, -, hstep⟩ | ⟨-, _, -, hstep⟩
      · rw [hstep] at h
        cases h
      · rw [hstep] at h ⊢
        exact .inr ⟨h, rfl⟩
    · simp only [observerStep, if_neg hmem] at h ⊢
      exact .inr ⟨h, trivial⟩

/-- **The removal of this hold**: it armed the timer tagged with the current generation, and the
observer has been holding ever since. -/
theorem hold_entered (es : List ObserverInput) (h : (observerAfter es).state = .hold) :
    ∃ before t after, es = before ++ .remove t :: after ∧
      (observerAfter before).state ≠ .hold ∧
      (observerAfter before).gen < (observerAfter es).gen ∧
      (observerAfter (before ++ [.remove t])).windows =
        (observerAfter before).windows ++ [(observerAfter es).gen] ∧
      ∀ mid, mid <+: after → (observerAfter (before ++ .remove t :: mid)).state = .hold := by
  induction es using List.reverseRecOn with
  | nil => exact absurd h (by decide)
  | append_singleton es i ih =>
    have hlast := observerAfter_concat es i
    rw [hlast] at h
    rcases observerStep_hold h with ⟨hbefore, ⟨t, rfl⟩, hwindows, hgen⟩ | ⟨hbefore, hgen⟩
    · refine ⟨es, t, [], rfl, hbefore, ?_, ?_, ?_⟩
      · rw [hlast, hgen]
        exact Nat.lt_succ_self _
      · rw [hlast]
        exact hwindows
      · intro mid hmid
        rw [List.prefix_nil.mp hmid, hlast]
        exact h
    · obtain ⟨before, t, after, hes, hentry, hlt, hwindows, hheld⟩ := ih hbefore
      refine ⟨before, t, after ++ [i], ?_, hentry, ?_, ?_, ?_⟩
      · rw [hes, List.append_assoc, List.cons_append]
      · rw [hlast, hgen]
        exact hlt
      · rw [hlast, hgen]
        exact hwindows
      · intro mid hmid
        rcases List.prefix_concat_iff.mp hmid with hall | hprefix
        · rw [hall, ← List.cons_append, ← List.append_assoc, ← hes, hlast]
          exact h
        · exact hheld mid hprefix

/-- An operation that leaves a view, and announces no absence. -/
theorem not_ended {r : PresenceObserver × List PresenceCall} (hs : r.1.state ≠ .none)
    (hcalls : ∀ e, (.absent, e) ∉ r.2) :
    ¬ (r.1.state = .none ∨ ∃ e, (.absent, e) ∈ r.2) := by
  rintro (hnone | ⟨e, habs⟩)
  · exact hs hnone
  · exact hcalls e habs

/-- No edge ends a hold with nothing present. -/
theorem obsSmEvent_not_ended {o : PresenceObserver} (h : o.state = .hold) {e : PresenceEvent}
    (he : e ≠ .removalElapsed) :
    ¬ ((obsSmEvent o e).1.state = .none ∨ ∃ e', (.absent, e') ∈ (obsSmEvent o e).2) := by
  rcases obsSmEvent_cases o he with ⟨hs, -, -⟩ | ⟨s, a, hs, -, ha, hstep⟩ | hstep
  · exact absurd h hs
  · rw [hstep]
    refine not_ended hs fun e' habs => ?_
    exact ha (Prod.mk.inj (List.mem_singleton.mp habs)).1.symm
  · rw [hstep]
    refine not_ended (by simp [h]) fun e' habs => ?_
    cases List.mem_singleton.mp habs

/-- **Nothing but the firing of its own timer ends a hold with nothing present.** -/
theorem hold_ended_by_window {o : PresenceObserver} (h : o.state = .hold) (i : ObserverInput)
    (hend : (observerStep o i).1.state = .none ∨ ∃ e, (.absent, e) ∈ (observerStep o i).2) :
    i = .window o.gen := by
  have hkept : o.state ≠ .none := by simp [h]
  cases i with
  | appear t => exact absurd hend (obsSmEvent_not_ended h t.appearEdge_ne)
  | remove t => exact absurd hend (obsSmEvent_not_ended h t.removeEdge_ne)
  | poll bt usb =>
    simp only [observerStep] at hend
    rcases presenceObserverReconcile_cases o bt usb with
      ⟨calls, hcalls, hstep⟩ | ⟨s, calls, -, hs, hstep⟩
    · rw [hstep] at hend
      exact absurd hend (not_ended hkept hcalls)
    · obtain ⟨hne, hcalls⟩ := hs h
      rw [hstep] at hend
      exact absurd hend (not_ended hne hcalls)
  | window my =>
    by_cases hmem : my ∈ o.windows
    · simp only [observerStep, if_pos hmem] at hend
      rcases obsWindowFired_cases o my with ⟨hmy, -, -⟩ | ⟨-, calls, hcalls, hstep⟩
      · rw [hmy]
      · rw [hstep] at hend
        exact absurd hend (not_ended hkept hcalls)
    · simp only [observerStep, if_neg hmem] at hend
      have hquiet : ∀ e, (.absent, e) ∉ ([] : List PresenceCall) := fun _ => List.not_mem_nil
      exact absurd hend (not_ended (r := (o, [])) hkept hquiet)

/-- **A hold is never stranded and never cut short**: after any history of edges, polls and firings
that leaves the observer holding, exactly one pending timer has the current generation, the one
armed by the removal that began this hold; the view goes to nothing only by its firing, and its
firing takes it there. -/
theorem hold_owned_by_its_timer (es : List ObserverInput) (h : (observerAfter es).state = .hold) :
    (∃ before t after, es = before ++ .remove t :: after ∧
      (observerAfter before).state ≠ .hold ∧
      (observerAfter es).gen ∉ (observerAfter before).windows ∧
      (observerAfter (before ++ [.remove t])).windows =
        (observerAfter before).windows ++ [(observerAfter es).gen] ∧
      ∀ mid, mid <+: after → (observerAfter (before ++ .remove t :: mid)).state = .hold) ∧
    (observerAfter es).windows.count (observerAfter es).gen = 1 ∧
    (∀ i, (observerStep (observerAfter es) i).1.state = .none ∨
        (∃ e, (.absent, e) ∈ (observerStep (observerAfter es) i).2) →
      i = .window (observerAfter es).gen) ∧
    (observerStep (observerAfter es) (.window (observerAfter es).gen)).1.state = .none ∧
    (observerStep (observerAfter es) (.window (observerAfter es).gen)).2 =
      [(.absent, .removalElapsed)] := by
  have hinv := holdInv_observerAfter es
  refine ⟨?_, ?_, fun i => hold_ended_by_window h i, ?_⟩
  · obtain ⟨before, t, after, hes, hentry, hlt, hwindows, hheld⟩ := hold_entered es h
    refine ⟨before, t, after, hes, hentry, fun hmem => ?_, hwindows, hheld⟩
    exact absurd ((holdInv_observerAfter before).tag_le _ hmem) (Nat.not_le_of_gt hlt)
  · exact List.count_eq_one_of_mem hinv.nodup (hinv.armed h)
  · have hfired : observerStep (observerAfter es) (.window (observerAfter es).gen) =
        obsWindowFired (observerAfter es) (observerAfter es).gen := if_pos (hinv.armed h)
    rcases obsWindowFired_cases (observerAfter es) (observerAfter es).gen with
      ⟨-, -, hstep⟩ | ⟨hother, -⟩
    · rw [hfired, hstep]
      exact ⟨rfl, rfl⟩
    · exact absurd ⟨rfl, h⟩ hother

/-- A hold that a poll ended and another removal began again: the first timer is pending, and
stale. -/
theorem hold_owned_by_its_timer_again :
    let o := observerAfter [.appear .bt, .remove .bt, .poll true false, .remove .bt]
    o.state = .hold ∧ o.windows = [2, 3] ∧ o.windows.count o.gen = 1 := by
  have hhold : (observerAfter [.appear .bt, .remove .bt, .poll true false, .remove .bt]).state =
      .hold := rfl
  exact ⟨hhold, rfl, (hold_owned_by_its_timer _ hhold).2.1⟩

end MagicTrackpad
