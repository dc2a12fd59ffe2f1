import MagicTrackpad.Session

/-!
# The silence watchdog

`mavericks_session_frame` arms the sink's timer at one place, behind two early returns and a test of
the policy; `prev_ids` is written by a connect, a frame and a firing. `Watched` puts the session
next to the one-shot timer its sink drives (`armIdle` and `idleTick` of the terminal backend):

* `arm_timer` makes the timer pending, whether it was or not;
* a pending timer may expire at any later step, which takes it as fired;
* a firing runs `mavericks_session_timer` at any step after that;
* a connect, of any source and policy, may cancel a pending timer.

Results:
* `covered_step`: no step leaves a contact down with neither a pending nor a fired timer.
* `never_down_unwatched`: so it is in every state reached, and there one more firing delivers the
  lift and leaves nothing down and no button held.
-/

namespace MagicTrackpad

open Lib

/-- A session, with its sink's one-shot timer. -/
structure Watched where
  session : Session
  /-- Armed and not yet expired. -/
  pending : Bool
  /-- Firings taken that have not run `mavericks_session_timer` yet. -/
  fired : Nat

/-- What can happen to a watched session. -/
inductive WatchEvent
  | connect (source : Source) (mode : TransportMode) (policy : SessionPolicy) (nowMs : U32)
      (cancel : Bool)
  | frame (source : Source) (tf : TouchFrame) (nowMs : U32)
  | expire
  | fire

/-- A call of `arm_timer`. -/
def SinkCall.isArm : SinkCall → Bool
  | .armTimer _ => true
  | _ => false

/-- One event; a timer that is not pending does not expire, and only a firing taken runs. -/
def watchStep : Transducer Watched WatchEvent SinkCall
  | w, .connect source mode policy nowMs cancel =>
    ({ w with
        session := sessionConnect w.session source mode policy nowMs
        pending := w.pending && !cancel }, [])
  | w, .frame source tf nowMs =>
    let r := sessionFrame w.session source tf nowMs
    ({ w with session := r.1, pending := w.pending || r.2.any SinkCall.isArm }, r.2)
  | w, .expire => (if w.pending then { w with pending := false, fired := w.fired + 1 } else w, [])
  | w, .fire =>
    if 0 < w.fired then
      let r := sessionTimer w.session
      ({ session := r.1
         pending := w.pending || r.2.any SinkCall.isArm
         fired := w.fired - 1 }, r.2)
    else (w, [])

/-- No contact is down without a timer, under a policy that arms it. -/
structure Covered (w : Watched) : Prop where
  below16 : IdsBelow16 w.session.lifecycle.prevIds
  covered : w.session.policy.armWatchdog = true → w.session.lifecycle.prevIds ≠ 0#32 →
    w.pending = true ∨ 0 < w.fired

theorem covered_of_empty {w : Watched} (h : w.session.lifecycle.prevIds = 0#32) : Covered w where
  below16 := by rw [h]; exact idsBelow16_zero
  covered _ hdown := absurd h hdown

/-- **One step** keeps every contact covered. -/
theorem covered_step {w : Watched} (hw : Covered w) (e : WatchEvent) :
    Covered (watchStep w e).1 := by
  cases e with
  | connect source mode policy nowMs cancel => exact covered_of_empty rfl
  | frame source tf nowMs =>
    by_cases h : Accepts w.session source nowMs
    · have hlife := lifecycle_sessionFrame h tf
      have hpol : (sessionFrame w.session source tf nowMs).1.policy = w.session.policy :=
        policy_of_config (config_sessionStep w.session (.frame source tf nowMs))
      refine ⟨?_, fun harm hdown => Or.inl ?_⟩
      · simp only [watchStep]
        rw [hlife, prevIds_stepped]
        exact idsBelow16_presentIds _
      · simp only [watchStep] at harm hdown ⊢
        rw [hpol] at harm
        rw [hlife] at hdown
        rw [Bool.or_eq_true]
        exact Or.inr (List.any_eq_true.mpr ⟨_, armTimer_mem_sessionFrame h harm hdown, rfl⟩)
    · simp only [watchStep, sessionFrame_refused h, List.any_nil, Bool.or_false]
      exact hw
  | expire =>
    simp only [watchStep]
    by_cases hp : w.pending = true
    · rw [if_pos hp]
      exact ⟨hw.below16, fun _ _ => Or.inr (Nat.succ_pos _)⟩
    · rw [if_neg hp]
      exact hw
  | fire =>
    simp only [watchStep]
    by_cases hf : 0 < w.fired
    · rw [if_pos hf]
      refine covered_of_empty ?_
      simp only [lifecycle_sessionTimer]
      rfl
    · rw [if_neg hf]
      exact hw

/-- The events of a silence: the timer expires, unless a firing is already on its way, and runs. -/
def silence (w : Watched) : List WatchEvent := if 0 < w.fired then [.fire] else [.expire, .fire]

/-- A firing that finds contacts down delivers the lift. -/
theorem fire_of_down {w : Watched} (hw : Covered w) (hf : 0 < w.fired)
    (hdown : w.session.lifecycle.prevIds ≠ 0#32) :
    (watchStep w .fire).2 = absenceCalls w.session.lastButton ∧
      (watchStep w .fire).1.session.lifecycle.prevIds = 0#32 ∧
      (watchStep w .fire).1.session.lastButton = 0#32 := by
  have hleft : endedIds w.session.lifecycle.prevIds [] ≠ [] := fun h =>
    hdown ((endedIds_nil_eq_nil hw.below16).mp h)
  simp only [watchStep, if_pos hf, sessionTimer_flush hleft]
  exact ⟨trivial, rfl, trivial⟩

/-- One firing after the input went silent with contacts down. -/
theorem silence_of_down {w : Watched} (hw : Covered w)
    (harm : w.session.policy.armWatchdog = true) (hdown : w.session.lifecycle.prevIds ≠ 0#32) :
    let r := Transducer.run watchStep w (silence w)
    r.2 = absenceCalls w.session.lastButton ∧ r.1.session.lifecycle.prevIds = 0#32 ∧
      r.1.session.lastButton = 0#32 := by
  unfold silence
  by_cases hf : 0 < w.fired
  · rw [if_pos hf]
    obtain ⟨hcalls, hrest⟩ := fire_of_down hw hf hdown
    simp only [Transducer.run, List.append_nil]
    exact ⟨hcalls, hrest⟩
  · rw [if_neg hf]
    have hp : w.pending = true := (hw.covered harm hdown).resolve_right hf
    have hexp : watchStep w .expire = ({ w with pending := false, fired := w.fired + 1 }, []) := by
      simp only [watchStep, if_pos hp]
    have hw' := covered_step hw .expire
    rw [hexp] at hw'
    obtain ⟨hcalls, hrest⟩ := fire_of_down hw' (Nat.succ_pos _) hdown
    simp only [Transducer.run, hexp, List.nil_append, List.append_nil]
    exact ⟨hcalls, hrest⟩

/-- **A contact is never left down with no watchdog**: in every state reached from a connect,
whatever the timer's state was then, and one more firing delivers the lift. -/
theorem never_down_unwatched (s : Session) (source : Source) (mode : TransportMode)
    (policy : SessionPolicy) (nowMs : U32) (pending : Bool) (fired : Nat) (es : List WatchEvent) :
    let w := (Transducer.run watchStep
      ⟨sessionConnect s source mode policy nowMs, pending, fired⟩ es).1
    w.session.policy.armWatchdog = true → w.session.lifecycle.prevIds ≠ 0#32 →
      (w.pending = true ∨ 0 < w.fired) ∧
        let r := Transducer.run watchStep w (silence w)
        r.2 = absenceCalls w.session.lastButton ∧ r.1.session.lifecycle.prevIds = 0#32 ∧
          r.1.session.lastButton = 0#32 := by
  intro w harm hdown
  have hw : Covered w := Transducer.run_state_induction watchStep (A := fun _ => True)
    (covered_of_empty rfl) (fun _ e _ h => covered_step h e) es fun _ _ => trivial
  exact ⟨hw.covered harm hdown, silence_of_down hw harm hdown⟩

theorem never_down_unwatched_after_expiry :
    let es : List WatchEvent := [.frame 1 (.ofContacts [.ofId 3 20, .ofId 7 25] 1) 5,
      .frame 2 (.ofContacts [] 0) 6, .expire, .frame 1 (.ofContacts [.ofId 7 25] 1) 7]
    let w := (Transducer.run watchStep
      ⟨sessionConnect .zeroed 1 .eventDriven policyDefault 0, false, 0⟩ es).1
    (w.pending = true ∨ 0 < w.fired) ∧
      let r := Transducer.run watchStep w (silence w)
      r.2 = absenceCalls w.session.lastButton ∧ r.1.session.lifecycle.prevIds = 0#32 ∧
        r.1.session.lastButton = 0#32 :=
  never_down_unwatched .zeroed 1 .eventDriven policyDefault 0 false 0
    [.frame 1 (.ofContacts [.ofId 3 20, .ofId 7 25] 1) 5, .frame 2 (.ofContacts [] 0) 6, .expire,
      .frame 1 (.ofContacts [.ofId 7 25] 1) 7]
    (by decide) (by decide)

end MagicTrackpad
