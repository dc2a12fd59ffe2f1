import MagicTrackpad.Lib.History
import MagicTrackpad.Presence.Hold
import Mathlib.Logic.Function.Basic

/-!
# The view against the truth (`mavericks_presence.c`, `mavericks_presence_observer.c`)

The observer sees the readers only through their edges, and `presence_step` does not count
instances. A run of `readerStep` has up to two Bluetooth readers (the control and the interrupt
channel) and one USB reader, never both transports at once; each appearing and terminating is one
edge, the edges of a transport reach the observer in order, and pending windows fire at any time.

* `shownStep` is the abstract machine: the transport that is shown, after an edge. The observer
  refines it, a hold and no trackpad both showing nothing (`shown_presenceStep`).
* `shown_eq_some_iff`: a transport is shown iff it appeared, and since then neither it was removed
  nor the other one appeared (`LastWord`).
* `view_converges_iff`: at rest, with all edges in and no window pending, the view is the truth iff
  the transport that is present has the last word.
* `lastWord_along`: it has in every run in which a reader terminates only as the last of its class,
  and a transport appears only after the edges of the other are in.
* `half_gone_shows_none`: it has not when one of two Bluetooth readers terminates.
-/

namespace MagicTrackpad

open Lib

/-! ## The readers and their edges -/

def Transport.other : Transport → Transport
  | .usb => .bt
  | .bt => .usb

/-- The instances a reader class can have: the Bluetooth reader binds two channels. -/
def Transport.maxReaders : Transport → Nat
  | .usb => 1
  | .bt => 2

/-- The readers, the edges on their way, and the observer. -/
structure ReaderWorld where
  /-- Instances present. -/
  readers : Transport → Nat
  /-- Edges that are not delivered yet, oldest first. -/
  pending : Transport → List PresenceEvent
  obs : PresenceObserver
  /-- The edges delivered so far, in the order of delivery. -/
  delivered : List PresenceEvent

/-- The observer is created before any reader appears. -/
def ReaderWorld.start : ReaderWorld := ⟨fun _ => 0, fun _ => [], presenceObserverCreate, []⟩

/-- What can happen. -/
inductive ReaderEvent
  | appear (t : Transport)
  | terminate (t : Transport)
  /-- The oldest edge of the transport reaches the observer. -/
  | deliver (t : Transport)
  | window (my : Nat)
  deriving DecidableEq, Repr

/-- An instance appears or terminates, and its edge joins those on their way. -/
def ReaderWorld.change (w : ReaderWorld) (t : Transport) (n : Nat) (e : PresenceEvent) :
    ReaderWorld :=
  { w with readers := Function.update w.readers t n
           pending := Function.update w.pending t (w.pending t ++ [e]) }

/-- One event; an instance appears only while the other transport has none. -/
def readerStep : Transducer ReaderWorld ReaderEvent PresenceCall
  | w, .appear t =>
    if w.readers t < t.maxReaders ∧ w.readers t.other = 0 then
      (w.change t (w.readers t + 1) t.appearEdge, [])
    else (w, [])
  | w, .terminate t =>
    if 0 < w.readers t then (w.change t (w.readers t - 1) t.removeEdge, []) else (w, [])
  | w, .deliver t =>
    match w.pending t with
    | e :: rest =>
      ({ w with pending := Function.update w.pending t rest
                obs := (obsSmEvent w.obs e).1
                delivered := w.delivered ++ [e] }, (obsSmEvent w.obs e).2)
    | [] => (w, [])
  | w, .window my =>
    if my ∈ w.obs.windows then
      ({ w with obs := (obsWindowFired w.obs my).1 }, (obsWindowFired w.obs my).2)
    else (w, [])

/-- The world after a history. -/
def worldAfter (es : List ReaderEvent) : ReaderWorld :=
  (Transducer.run readerStep .start es).1

/-- All edges are in and no window is pending. -/
def ReaderWorld.AtRest (w : ReaderWorld) : Prop :=
  (∀ t, w.pending t = []) ∧ w.obs.windows = []

/-- `presence_view_for` of the truth. -/
def ReaderWorld.truth (w : ReaderWorld) : PresenceState :=
  presenceViewFor (0 < w.readers .bt) (0 < w.readers .usb)

/-! ## The transport that is shown -/

/-- The transport a view shows. -/
def PresenceState.shown : PresenceState → Option Transport
  | .bt => some .bt
  | .usb => some .usb
  | .none => Option.none
  | .hold => Option.none

/-- What an edge does to the transport shown. -/
def shownStep (shown : Option Transport) : PresenceEvent → Option Transport
  | .btAppear => some .bt
  | .usbAppear => some .usb
  | .btRemove => if shown = some .bt then none else shown
  | .usbRemove => if shown = some .usb then none else shown
  | .removalElapsed => shown

/-- **The machine refines the abstract one**: of the view, an edge needs to know only the transport
it shows. -/
theorem shown_presenceStep (s : PresenceState) (e : PresenceEvent) :
    (presenceStep s e).next.shown = shownStep s.shown e := by
  cases e with
  | btAppear => cases s <;> rfl
  | btRemove => cases s <;> rfl
  | usbAppear => cases s <;> rfl
  | usbRemove => cases s <;> rfl
  | removalElapsed => cases s <;> rfl

theorem shown_obsSmEvent (o : PresenceObserver) (e : PresenceEvent) :
    (obsSmEvent o e).1.state.shown = shownStep o.state.shown e := by
  rw [state_obsSmEvent, shown_presenceStep]

theorem shown_obsWindowFired (o : PresenceObserver) (my : Nat) :
    (obsWindowFired o my).1.state.shown = o.state.shown := by
  rcases obsWindowFired_cases o my with ⟨-, hs, hstep⟩ | ⟨-, _, -, hstep⟩
  · rw [hstep, hs]
    rfl
  · rw [hstep]

/-- The transport appeared, and since then neither it was removed nor the other one appeared. -/
def LastWord (t : Transport) (es : List PresenceEvent) : Prop :=
  Since (fun _ e => e = t.appearEdge) (fun e => e ≠ t.removeEdge ∧ e ≠ t.other.appearEdge) es

theorem shownStep_eq_some_iff (shown : Option Transport) (e : PresenceEvent) (t : Transport) :
    shownStep shown e = some t ↔ e = t.appearEdge ∨
      (shown = some t ∧ e ≠ t.removeEdge ∧ e ≠ t.other.appearEdge) := by
  have hremove : ∀ u, (if shown = some u then none else shown) = some t ↔
      shown = some t ∧ u ≠ t := by
    intro u
    split
    · rename_i hu
      simp [hu]
    · rename_i hu
      exact ⟨fun h => ⟨h, fun hut => hu (hut ▸ h)⟩, And.left⟩
  cases e with
  | btAppear => cases t <;> simp [shownStep, Transport.appearEdge, Transport.other]
  | usbAppear => cases t <;> simp [shownStep, Transport.appearEdge, Transport.other]
  | btRemove =>
    rw [shownStep, hremove]
    cases t <;> simp [Transport.appearEdge, Transport.removeEdge, Transport.other]
  | usbRemove =>
    rw [shownStep, hremove]
    cases t <;> simp [Transport.appearEdge, Transport.removeEdge, Transport.other]
  | removalElapsed =>
    cases t <;> simp [shownStep, Transport.appearEdge, Transport.removeEdge, Transport.other]

/-- **The transport shown is the one with the last word.** -/
theorem shown_eq_some_iff (t : Transport) (es : List PresenceEvent) :
    es.foldl shownStep none = some t ↔ LastWord t es := by
  induction es using List.reverseRecOn with
  | nil => exact iff_of_false (fun h => by cases h) (not_since_nil _ _)
  | append_singleton es e ih =>
    rw [List.foldl_append, List.foldl_cons, List.foldl_nil, shownStep_eq_some_iff, ih, LastWord,
      LastWord, since_concat]

/-! ## What the edges of one transport say -/

/-- Whether the last edge of the transport is an appearance. -/
def presentStep (t : Transport) (present : Bool) (e : PresenceEvent) : Bool :=
  if e = t.appearEdge then true else if e = t.removeEdge then false else present

theorem presentStep_eq_true_iff (t : Transport) (present : Bool) (e : PresenceEvent) :
    presentStep t present e = true ↔
      e = t.appearEdge ∨ (present = true ∧ e ≠ t.removeEdge) := by
  unfold presentStep
  by_cases happear : e = t.appearEdge
  · simp [happear]
  · by_cases hremove : e = t.removeEdge
    · rw [if_neg happear, if_pos hremove]
      refine iff_of_false Bool.false_ne_true ?_
      rintro (h | h)
      · exact happear h
      · exact h.2 hremove
    · simp [happear, hremove]

/-- A transport that is shown appeared last and did not go. -/
theorem present_of_shown {t : Transport} {es : List PresenceEvent}
    (h : es.foldl shownStep none = some t) : es.foldl (presentStep t) false = true := by
  induction es using List.reverseRecOn with
  | nil => cases h
  | append_singleton es e ih =>
    rw [List.foldl_append, List.foldl_cons, List.foldl_nil] at h ⊢
    rw [presentStep_eq_true_iff]
    rcases (shownStep_eq_some_iff _ e t).mp h with he | ⟨hshown, hne, -⟩
    · exact .inl he
    · exact .inr ⟨ih hshown, hne⟩

/-- The edges of the other transport say nothing. -/
theorem presentStep_other {t : Transport} {e : PresenceEvent}
    (he : e = t.other.appearEdge ∨ e = t.other.removeEdge) (present : Bool) :
    presentStep t present e = present := by
  cases t <;> rcases he with rfl | rfl <;> rfl

/-! ## The invariant -/

/-- What holds of every reachable world. -/
structure WorldInv (w : ReaderWorld) : Prop where
  hold : HoldInv w.obs
  single : ∀ t, 0 < w.readers t → w.readers t.other = 0
  edges : ∀ t, ∀ e ∈ w.pending t, e = t.appearEdge ∨ e = t.removeEdge
  shown : w.obs.state.shown = w.delivered.foldl shownStep none
  /-- The last edge of a transport that is gone is a removal. -/
  present : ∀ t, (w.delivered ++ w.pending t).foldl (presentStep t) false = true → 0 < w.readers t

theorem worldInv_start : WorldInv .start where
  hold := holdInv_create
  single := fun _ h => absurd h (Nat.lt_irrefl 0)
  edges := fun _ _ h => absurd h List.not_mem_nil
  shown := rfl
  present := fun _ h => by cases h

theorem Transport.eq_other_of_ne {t u : Transport} (h : u ≠ t) : u = t.other := by
  cases t <;> cases u <;> first | rfl | exact absurd rfl h

theorem Transport.other_other (t : Transport) : t.other.other = t := by
  cases t <;> rfl

theorem Transport.other_ne (t : Transport) : t.other ≠ t := by
  cases t <;> decide

/-- An instance that changes leaves the observer alone. -/
theorem WorldInv.change {w : ReaderWorld} (hw : WorldInv w) {t : Transport} {n : Nat}
    {e : PresenceEvent} (he : e = t.appearEdge ∨ e = t.removeEdge)
    (hsingle : 0 < n → w.readers t.other = 0)
    (hpresent : e = t.appearEdge → 0 < n) : WorldInv (w.change t n e) := by
  refine ⟨hw.hold, fun u hu => ?_, fun u => ?_, hw.shown, fun u hu => ?_⟩
  · simp only [ReaderWorld.change] at hu ⊢
    by_cases hut : u = t
    · subst hut
      rw [Function.update_self] at hu
      rw [Function.update_of_ne u.other_ne]
      exact hsingle hu
    · rw [Function.update_of_ne hut] at hu
      rw [Transport.eq_other_of_ne hut] at hu ⊢
      rw [Transport.other_other, Function.update_self]
      by_contra hn
      exact absurd (hsingle (Nat.pos_of_ne_zero hn)) (Nat.ne_of_gt hu)
  · simp only [ReaderWorld.change]
    by_cases hut : u = t
    · subst hut
      rw [Function.update_self]
      intro e' hmem
      rcases List.mem_append.mp hmem with hold | hnew
      · exact hw.edges u e' hold
      · rw [List.mem_singleton.mp hnew]
        exact he
    · rw [Function.update_of_ne hut]
      exact hw.edges u
  · simp only [ReaderWorld.change] at hu ⊢
    by_cases hut : u = t
    · subst hut
      rw [Function.update_self, ← List.append_assoc, List.foldl_append, List.foldl_cons,
        List.foldl_nil, presentStep_eq_true_iff] at hu
      rw [Function.update_self]
      rcases hu with happear | ⟨-, hne⟩
      · exact hpresent happear
      · exact hpresent (he.resolve_right hne)
    · rw [Function.update_of_ne hut] at hu ⊢
      exact hw.present u hu

/-- Delivery moves an edge over to the observer. -/
theorem WorldInv.deliver {w : ReaderWorld} (hw : WorldInv w) {t : Transport} {e : PresenceEvent}
    {rest : List PresenceEvent} (hpending : w.pending t = e :: rest) :
    WorldInv { w with pending := Function.update w.pending t rest
                      obs := (obsSmEvent w.obs e).1
                      delivered := w.delivered ++ [e] } := by
  have he : e = t.appearEdge ∨ e = t.removeEdge :=
    hw.edges t e (hpending ▸ List.mem_cons_self)
  have hne : e ≠ .removalElapsed := by
    rcases he with rfl | rfl
    · exact t.appearEdge_ne
    · exact t.removeEdge_ne
  refine ⟨holdInv_obsSmEvent hw.hold hne, hw.single, fun u => ?_, ?_, fun u hu => ?_⟩
  · dsimp only
    by_cases hut : u = t
    · subst hut
      rw [Function.update_self]
      exact fun e' hmem => hw.edges u e' (hpending ▸ List.mem_cons_of_mem e hmem)
    · rw [Function.update_of_ne hut]
      exact hw.edges u
  · rw [shown_obsSmEvent, hw.shown, List.foldl_append, List.foldl_cons, List.foldl_nil]
  · refine hw.present u ?_
    dsimp only at hu
    by_cases hut : u = t
    · subst hut
      rw [Function.update_self, List.append_assoc, List.singleton_append, ← hpending] at hu
      exact hu
    · rw [Function.update_of_ne hut, List.foldl_append, List.foldl_append, List.foldl_cons,
        List.foldl_nil, presentStep_other] at hu
      · rw [List.foldl_append]
        exact hu
      · rw [← Transport.eq_other_of_ne (Ne.symm hut)]
        exact he

theorem worldInv_readerStep {w : ReaderWorld} (hw : WorldInv w) (e : ReaderEvent) :
    WorldInv (readerStep w e).1 := by
  cases e with
  | appear t =>
    simp only [readerStep]
    split
    · rename_i h
      exact hw.change (.inl rfl) (fun _ => h.2) (fun _ => Nat.succ_pos _)
    · exact hw
  | terminate t =>
    simp only [readerStep]
    split
    · rename_i h
      refine hw.change (.inr rfl) (fun _ => hw.single t h) (fun heq => ?_)
      cases t <;> cases heq
    · exact hw
  | deliver t =>
    simp only [readerStep]
    split
    · rename_i e rest hpending
      exact hw.deliver hpending
    · exact hw
  | window my =>
    simp only [readerStep]
    split
    · exact ⟨holdInv_obsWindowFired hw.hold my, hw.single, hw.edges,
        (shown_obsWindowFired w.obs my).trans hw.shown, hw.present⟩
    · exact hw

theorem worldInv_worldAfter (es : List ReaderEvent) : WorldInv (worldAfter es) :=
  Transducer.run_state_induction readerStep (A := fun _ => True) worldInv_start
    (fun _ e _ h => worldInv_readerStep h e) es fun _ _ => trivial

/-! ## At rest -/

/-- With no window pending there is no hold, so the view is the transport it shows. -/
theorem view_eq_iff {o : PresenceObserver} (ho : HoldInv o) (hwindows : o.windows = []) :
    (o.state = .none ↔ o.state.shown = none) ∧
      (o.state = .bt ↔ o.state.shown = some .bt) ∧
      (o.state = .usb ↔ o.state.shown = some .usb) := by
  have hhold : o.state ≠ .hold := fun h => by
    have hmem := ho.armed h
    rw [hwindows] at hmem
    exact absurd hmem List.not_mem_nil
  cases hs : o.state with
  | hold => exact absurd hs hhold
  | none => simp [PresenceState.shown]
  | bt => simp [PresenceState.shown]
  | usb => simp [PresenceState.shown]

/-- At rest a transport that is shown is present. -/
theorem WorldInv.present_of_shown {w : ReaderWorld} (hw : WorldInv w) (hrest : w.AtRest)
    {t : Transport} (h : w.obs.state.shown = some t) : 0 < w.readers t := by
  rw [hw.shown] at h
  refine hw.present t ?_
  rw [hrest.1 t, List.append_nil]
  exact MagicTrackpad.present_of_shown h

/-- **The view converges to the truth exactly when the transport that is present has the last
word**: in every history of readers, edges and windows, at rest, the state is the view for the
truth iff, of the edges in the order of delivery, the transport with a reader present (if there is
one) appeared, and since then neither it was removed nor the other one appeared. -/
theorem view_converges_iff (es : List ReaderEvent) (hrest : (worldAfter es).AtRest) :
    (worldAfter es).obs.state = (worldAfter es).truth ↔
      ∀ t, 0 < (worldAfter es).readers t → LastWord t (worldAfter es).delivered := by
  have hw := worldInv_worldAfter es
  generalize worldAfter es = w at hw hrest ⊢
  obtain ⟨hnone, hbt, husb⟩ := view_eq_iff hw.hold hrest.2
  have hword : ∀ t, LastWord t w.delivered ↔ w.obs.state.shown = some t := fun t => by
    rw [hw.shown, shown_eq_some_iff]
  by_cases hbtp : 0 < w.readers .bt
  · have husbp : w.readers .usb = 0 := hw.single .bt hbtp
    have htruth : w.truth = .bt := by simp [ReaderWorld.truth, presenceViewFor, hbtp]
    rw [htruth, hbt, ← hword]
    constructor
    · intro h t ht
      cases t with
      | bt => exact h
      | usb => exact absurd husbp (Nat.ne_of_gt ht)
    · exact fun h => h .bt hbtp
  · by_cases husbp : 0 < w.readers .usb
    · have htruth : w.truth = .usb := by simp [ReaderWorld.truth, presenceViewFor, hbtp, husbp]
      rw [htruth, husb, ← hword]
      constructor
      · intro h t ht
        cases t with
        | bt => exact absurd ht hbtp
        | usb => exact h
      · exact fun h => h .usb husbp
    · have htruth : w.truth = .none := by simp [ReaderWorld.truth, presenceViewFor, hbtp, husbp]
      have hgone : ∀ t, ¬ 0 < w.readers t := fun t => by
        cases t
        · exact husbp
        · exact hbtp
      rw [htruth, hnone]
      refine iff_of_true ?_ fun t ht => absurd ht (hgone t)
      cases hshown : w.obs.state.shown with
      | none => rfl
      | some t => exact absurd (hw.present_of_shown hrest hshown) (hgone t)

/-- The cable goes in: Bluetooth goes, USB appears, and the hold window fires last. -/
theorem view_converges_iff_cable :
    (worldAfter [.appear .bt, .deliver .bt, .terminate .bt, .appear .usb, .deliver .bt,
      .deliver .usb, .window 2]).obs.state =
    (worldAfter [.appear .bt, .deliver .bt, .terminate .bt, .appear .usb, .deliver .bt,
      .deliver .usb, .window 2]).truth := by
  refine (view_converges_iff _ ⟨fun t => ?_, rfl⟩).mpr fun t ht => ?_
  · cases t <;> rfl
  · cases t with
    | bt => exact absurd ht (Nat.lt_irrefl 0)
    | usb => exact ⟨[.btAppear, .btRemove], .usbAppear, [], rfl, rfl, fun _ h => by cases h⟩

/-! ## Runs in which the present transport has the last word -/

/-- A reader terminates only as the last of its class, and a transport appears only after the edges
of the other are in. -/
def InTurn (w : ReaderWorld) : ReaderEvent → Prop
  | .appear t => w.pending t.other = []
  | .terminate t => w.readers t ≤ 1
  | _ => True

/-- A transport that is present will be shown once its edges are in, and no others are on their
way. -/
def TurnInv (w : ReaderWorld) : Prop :=
  ∀ t, 0 < w.readers t →
    w.pending t.other = [] ∧ (w.pending t).foldl shownStep w.obs.state.shown = some t

theorem turnInv_readerStep {w : ReaderWorld} (hw : WorldInv w) (hturn : TurnInv w) {e : ReaderEvent}
    (he : InTurn w e) : TurnInv (readerStep w e).1 := by
  cases e with
  | appear t =>
    simp only [readerStep]
    split
    · rename_i h
      intro u hu
      simp only [ReaderWorld.change] at hu ⊢
      by_cases hut : u = t
      · subst hut
        rw [Function.update_of_ne u.other_ne, Function.update_self, List.foldl_append]
        exact ⟨he, (shownStep_eq_some_iff _ _ u).mpr (.inl rfl)⟩
      · rw [Function.update_of_ne hut, Transport.eq_other_of_ne hut, h.2] at hu
        exact absurd hu (Nat.lt_irrefl 0)
    · exact hturn
  | terminate t =>
    simp only [readerStep]
    split
    · rename_i h
      intro u hu
      simp only [ReaderWorld.change] at hu
      by_cases hut : u = t
      · subst hut
        have hone : w.readers u ≤ 1 := he
        rw [Function.update_self] at hu
        omega
      · rw [Function.update_of_ne hut, Transport.eq_other_of_ne hut, hw.single t h] at hu
        exact absurd hu (Nat.lt_irrefl 0)
    · exact hturn
  | deliver t =>
    simp only [readerStep]
    split
    · rename_i e rest hpending
      intro u hu
      dsimp only at hu ⊢
      obtain ⟨hother, hshown⟩ := hturn u hu
      by_cases hut : u = t
      · subst hut
        rw [Function.update_of_ne u.other_ne, Function.update_self, shown_obsSmEvent]
        rw [hpending, List.foldl_cons] at hshown
        exact ⟨hother, hshown⟩
      · rw [Transport.eq_other_of_ne hut, Transport.other_other, hpending] at hother
        cases hother
    · exact hturn
  | window my =>
    simp only [readerStep]
    split
    · intro u hu
      obtain ⟨hother, hshown⟩ := hturn u hu
      exact ⟨hother, (shown_obsWindowFired w.obs my).symm ▸ hshown⟩
    · exact hturn

/-- **In turn, the transport that is present has the last word.** -/
theorem lastWord_along {es : List ReaderEvent}
    (hes : Transducer.Along readerStep InTurn .start es) (t : Transport)
    (ht : 0 < (worldAfter es).readers t) (hin : (worldAfter es).pending t = []) :
    LastWord t (worldAfter es).delivered := by
  have hinv : WorldInv (worldAfter es) ∧ TurnInv (worldAfter es) :=
    Transducer.run_along (m := readerStep) (C := InTurn)
      (I := fun w => WorldInv w ∧ TurnInv w)
      (fun w e hw he => ⟨worldInv_readerStep hw.1 e, turnInv_readerStep hw.1 hw.2 he⟩)
      ⟨worldInv_start, fun _ h => absurd h (Nat.lt_irrefl 0)⟩ hes
  obtain ⟨hw, hturn⟩ := hinv
  have hshown := (hturn t ht).2
  rw [hin, List.foldl_nil, hw.shown] at hshown
  exact (shown_eq_some_iff t _).mp hshown

/-- The one Bluetooth reader that is left is not shown: the other one terminated, and its removal
counted for both. -/
theorem half_gone_shows_none :
    let w := worldAfter [.appear .bt, .deliver .bt, .appear .bt, .deliver .bt, .terminate .bt,
      .deliver .bt, .window 2]
    w.AtRest ∧ w.readers .bt = 1 ∧ w.obs.state = .none ∧ w.truth = .bt := by
  refine ⟨⟨fun t => ?_, rfl⟩, rfl, rfl, rfl⟩
  cases t <;> rfl

end MagicTrackpad
