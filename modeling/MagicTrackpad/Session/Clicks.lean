import MagicTrackpad.Lib.History
import MagicTrackpad.Session.Button

/-!
# Clicks against presses of the device

`mavericks_button_edge` promises "a faithful mapping of that real hardware button", and `emit` to
forward "the device's REAL physical-button bit". The absence frames of a full lift are zeroed,
though, the button with them, so the lift posts a release the device never made; and a frame without
contacts is not emitted, so a press on an empty pad is not posted. The button the sink sees is
`Pad.clicked`: the device's button while there is a contact on the pad.

* `clickCount_run`: a run without a watchdog firing posts one click for each time that rises.
* `clicks_balance`: the clicks and the presses on an empty pad are as many as the presses and the
  landings under a held button.
* `clicks_le_presses_iff`: hence no more clicks than presses exactly if there are no more such
  landings than presses on an empty pad.
* `lifted_press_clicks_twice`: the contact of a click has size 0 for one frame, the button held all
  along, and the press is two clicks.
-/

namespace MagicTrackpad

open Lib

/-! ## What the device says -/

/-- What a frame says of the pad: whether there is a contact on it, and the button. -/
structure Pad where
  touched : Bool
  button : Bool
  deriving DecidableEq, Repr

namespace Pad

/-- The pad before the first frame. -/
def idle : Pad := ⟨false, false⟩

/-- The button as the sink sees it. -/
def clicked (p : Pad) : Bool := p.touched && p.button

/-- A rising edge of the device's button. -/
def presses (p q : Pad) : Bool := !p.button && q.button

/-- A rising edge of the button as the sink sees it. -/
def clicks (p q : Pad) : Bool := !p.clicked && q.clicked

/-- The button is pressed with no contact on the pad. -/
def blindPress (p q : Pad) : Bool := presses p q && !q.touched

/-- Contacts come onto an empty pad under a button that is held already. -/
def landing (p q : Pad) : Bool := p.button && q.button && (!p.touched && q.touched)

end Pad

/-- What a frame says of the pad. -/
def padOf (tf : TouchFrame) : Pad := ⟨!tf.present.isEmpty, pressed tf⟩

/-- A frame that reaches `mavericks_session_frame`, with its source and time. -/
structure Arrival where
  source : Source
  frame : TouchFrame
  nowMs : U32

/-- The call of `mavericks_session_frame`. -/
def Arrival.input (a : Arrival) : SessionInput := .frame a.source a.frame a.nowMs

/-- The accepted frames of a connection, as what they say of the pad. -/
def padsOf (s : Session) (arrivals : List Arrival) : List Pad :=
  (arrivals.filter fun a => Accepts s a.source a.nowMs).map fun a => padOf a.frame

/-- The clicks of a log: the edges with a non-zero mask. -/
def clickCount (calls : List SinkCall) : Nat := (postedMasks calls).countP (· ≠ 0#32)

@[simp] theorem clickCount_append (xs ys : List SinkCall) :
    clickCount (xs ++ ys) = clickCount xs + clickCount ys := by
  rw [clickCount, postedMasks_append, List.countP_append, ← clickCount, ← clickCount]

/-! ## One frame -/

/-- `emit` posts a click iff the button rises. -/
theorem clickCount_emit {s : Session} {held : Bool} (hs : s.lastButton = bitOf held)
    (tf : TouchFrame) :
    clickCount (emit s tf).2 = if !held && pressed tf then 1 else 0 := by
  have hmask := clickMask_ne_zero tf.contactCount
  rw [emit_eq hs]
  cases held <;> cases hp : pressed tf <;>
    simp [clickCount, postedMasks, SinkCall.mask?, hmask]

theorem clickCount_rearm (p : SessionPolicy) (m : U32) : clickCount (rearm p m) = 0 := by
  unfold MagicTrackpad.rearm
  split <;> rfl

/-- The absence pair releases and never clicks. -/
theorem clickCount_absenceCalls (b : U32) : clickCount (absenceCalls b) = 0 := by
  unfold absenceCalls
  split <;> rfl

/-- The session after the frames of a connection, the last of which said `p` of the pad. -/
structure ClickInv (s₀ s : Session) (p : Pad) : Prop where
  config : s.config = s₀.config
  policy : PairPolicy s₀.policy
  below16 : IdsBelow16 s.lifecycle.prevIds
  down : s.lifecycle.prevIds = 0#32 ↔ p.touched = false
  lastButton : s.lastButton = bitOf p.clicked

theorem touched_padOf {tf : TouchFrame} : (padOf tf).touched = false ↔ tf.present = [] := by
  simp [padOf]

theorem clicked_padOf {tf : TouchFrame} (hp : tf.present ≠ []) :
    (padOf tf).clicked = pressed tf := by
  simp [padOf, Pad.clicked, hp]

theorem not_clicked_padOf {tf : TouchFrame} (hp : tf.present = []) :
    (padOf tf).clicked = false := by
  simp [padOf, Pad.clicked, hp]

/-- The mask of an accepted frame says whether there is a contact on the pad. -/
theorem prevIds_stepped_eq_zero_iff {s : Session} {tf : TouchFrame} :
    (steppedLifecycle s tf).prevIds = 0#32 ↔ (padOf tf).touched = false := by
  rw [prevIds_stepped, presentIds_eq_zero_iff, touched_padOf]

/-- **One accepted frame** posts a click iff `Pad.clicked` rises, and one click at most. -/
theorem clickInv_step {s₀ s : Session} {p : Pad} (hinv : ClickInv s₀ s p) {source : Source}
    {nowMs : U32} (h : Accepts s source nowMs) (tf : TouchFrame) :
    ClickInv s₀ (sessionFrame s source tf nowMs).1 (padOf tf) ∧
      clickCount (sessionFrame s source tf nowMs).2 =
        if Pad.clicks p (padOf tf) then 1 else 0 := by
  have hpol : PairPolicy s.policy := by
    rw [policy_of_config hinv.config]
    exact hinv.policy
  have hbelow : IdsBelow16 (steppedLifecycle s tf).prevIds := by
    rw [prevIds_stepped]
    exact idsBelow16_presentIds _
  by_cases hp : tf.present = []
  · have hnone : Pad.clicks p (padOf tf) = false := by
      rw [Pad.clicks, not_clicked_padOf hp, Bool.and_false]
    have hbit : bitOf (padOf tf).clicked = 0#32 := by
      rw [not_clicked_padOf hp]
      rfl
    by_cases hleft : endedIds s.lifecycle.prevIds [] = []
    · -- nobody was down, so the button was up for the sink already
      have htouched := hinv.down.mp ((endedIds_nil_eq_nil hinv.below16).mp hleft)
      have hup : s.lastButton = 0#32 := by
        rw [hinv.lastButton, Pad.clicked, htouched]
        rfl
      rw [sessionFrame_idle h hpol.empties hp hleft, hnone]
      exact ⟨⟨hinv.config, hinv.policy, hbelow, prevIds_stepped_eq_zero_iff, hup.trans hbit.symm⟩,
        rfl⟩
    · rw [sessionFrame_lift h hpol.shape hp hleft, hnone]
      exact ⟨⟨hinv.config, hinv.policy, hbelow, prevIds_stepped_eq_zero_iff, hbit.symm⟩,
        clickCount_absenceCalls _⟩
  · let stepped : Session := { s with lifecycle := steppedLifecycle s tf }
    have hlast : stepped.lastButton = bitOf p.clicked := hinv.lastButton
    have hpressed : pressed (conditioned s tf) = pressed tf := rfl
    have hcalls := clickCount_emit hlast (conditioned s tf)
    rw [sessionFrame_present h hp]
    refine ⟨⟨hinv.config, hinv.policy, hbelow, prevIds_stepped_eq_zero_iff, ?_⟩, ?_⟩
    · rw [emit_eq hlast, hpressed, clicked_padOf hp]
    · rw [clickCount_append, clickCount_rearm, hcalls, hpressed, Pad.clicks, clicked_padOf hp]
      rfl

/-! ## A run -/

theorem clickInv_connect (s : Session) (source : Source) (mode : TransportMode) (nowMs : U32) :
    let s₀ := sessionConnect s source mode policyDefault nowMs
    ClickInv s₀ s₀ .idle :=
  ⟨rfl, pairPolicy_default, idsBelow16_zero, ⟨fun _ => rfl, fun _ => rfl⟩, rfl⟩

/-- **A run posts one click for each time the button rises over a contact**, and leads to the pad of
its last accepted frame. -/
theorem clickCount_run {s₀ s : Session} {p : Pad} (hinv : ClickInv s₀ s p)
    (arrivals : List Arrival) :
    let r := Transducer.run sessionStep s (arrivals.map Arrival.input)
    ClickInv s₀ r.1 ((padsOf s₀ arrivals).getLastD p) ∧
      clickCount r.2 = countSteps Pad.clicks p (padsOf s₀ arrivals) := by
  induction arrivals generalizing s p with
  | nil => exact ⟨hinv, rfl⟩
  | cons a arrivals ih =>
    have hacc : Accepts s a.source a.nowMs ↔ Accepts s₀ a.source a.nowMs :=
      accepts_of_config hinv.config
    simp only [List.map_cons, Transducer.run, Arrival.input, sessionStep]
    by_cases h : Accepts s a.source a.nowMs
    · obtain ⟨hone, hcount⟩ := clickInv_step hinv h a.frame
      obtain ⟨hrest, hcounts⟩ := ih hone
      have hpads : padsOf s₀ (a :: arrivals) = padOf a.frame :: padsOf s₀ arrivals := by
        simp [padsOf, hacc.mp h]
      rw [hpads, List.getLastD_cons, countSteps, clickCount_append, hcount, hcounts]
      exact ⟨hrest, rfl⟩
    · have hrefused : ¬ Accepts s₀ a.source a.nowMs := fun h' => h (hacc.mpr h')
      have hpads : padsOf s₀ (a :: arrivals) = padsOf s₀ arrivals := by
        simp [padsOf, hrefused]
      rw [sessionFrame_refused h, hpads, List.nil_append]
      exact ih hinv

/-- **Clicks and presses on an empty pad balance presses and landings under a held button.** -/
theorem clicks_balance (p : Pad) (pads : List Pad) :
    countSteps Pad.clicks p pads + countSteps Pad.blindPress p pads =
      countSteps Pad.presses p pads + countSteps Pad.landing p pads := by
  refine countSteps_add ?_ p pads
  rintro ⟨t, b⟩ ⟨t', b'⟩
  cases t <;> cases b <;> cases t' <;> cases b' <;> rfl

/-- **When there are no more clicks than presses**, in a connection under the shipped policy while
the watchdog stays silent (`before` empty), and in every stretch of one: exactly if contacts come
onto an empty pad under a held button no more often than the button is pressed on an empty pad. -/
theorem clicks_le_presses_iff (s : Session) (source : Source) (mode : TransportMode) (nowMs : U32)
    (before arrivals : List Arrival) :
    let s₀ := sessionConnect s source mode policyDefault nowMs
    let pad := (padsOf s₀ before).getLastD .idle
    let reached := (Transducer.run sessionStep s₀ (before.map Arrival.input)).1
    let log := (Transducer.run sessionStep reached (arrivals.map Arrival.input)).2
    clickCount log ≤ countSteps Pad.presses pad (padsOf s₀ arrivals) ↔
      countSteps Pad.landing pad (padsOf s₀ arrivals) ≤
        countSteps Pad.blindPress pad (padsOf s₀ arrivals) := by
  intro s₀ pad reached log
  have hbefore := (clickCount_run (clickInv_connect s source mode nowMs) before).1
  have hcount : clickCount log = countSteps Pad.clicks pad (padsOf s₀ arrivals) :=
    (clickCount_run hbefore arrivals).2
  have hbalance := clicks_balance pad (padsOf s₀ arrivals)
  omega

/-- One press over a contact whose record has size 0 for a frame. -/
def liftedPress : List Arrival :=
  [⟨1, .ofContacts [.ofId 3 20] 1, 5⟩, ⟨1, .ofContacts [.ofId 3 0] 1, 9⟩,
    ⟨1, .ofContacts [.ofId 3 20] 1, 13⟩]

/-- The press is two clicks. -/
theorem lifted_press_clicks_twice :
    let s₀ := sessionConnect .zeroed 1 .eventDriven policyDefault 0
    let log := (Transducer.run sessionStep s₀ (liftedPress.map Arrival.input)).2
    countSteps Pad.presses .idle (padsOf s₀ liftedPress) = 1 ∧ clickCount log = 2 := by
  decide

end MagicTrackpad
