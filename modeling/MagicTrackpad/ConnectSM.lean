import MagicTrackpad.Lib.Script
import MagicTrackpad.Lib.Transducer

/-!
# The connect state machine (`src/mavericks_connect_sm.c`)

`csm_step` takes the observed event to the next state and the one action to perform. It follows a
fixed script of seven events, ignores whatever it does not wait for, and starts over on a
DISCONNECT.

Results:
* `csmStep_advance`, `csmStep_disconnect`: one step is one step along the script.
* `csm_run`: so the state of a connection says how much of the script its events contain in order,
  and its actions have been performed in order, each once.
-/

namespace MagicTrackpad

open Lib

/-- `csm_state_t`. -/
inductive CsmState
  | idle
  | controlUp
  | bnbFormed
  | interruptBound
  | interposed
  | mtMode
  | handlerUp
  | steady
  deriving DecidableEq, Repr

/-- `csm_event_t`. -/
inductive CsmEvent
  | controlAttach
  | controlOpen
  | interruptPublished
  | bnbListening
  | interposeOk
  | mtModeConfirmed
  | handlerSpawned
  | frame
  | disconnect
  deriving DecidableEq, Repr

/-- `csm_action_t`. -/
inductive CsmAction
  | none
  | waitControlOpen
  | formBnb
  | installInterpose
  | ensureMtMode
  | injectHandlerTrigger
  | markSteady
  | teardown
  deriving DecidableEq, Repr

/-- `csm_step`. -/
def csmStep (state : CsmState) (event : CsmEvent) : CsmState × CsmAction :=
  -- rule R4: clean slate from any state
  if event = .disconnect then (.idle, .teardown)
  else
    match state with
    | .idle => if event = .controlAttach then (.controlUp, .waitControlOpen) else (.idle, .none)
    | .controlUp => if event = .controlOpen then (.bnbFormed, .formBnb) else (.controlUp, .none)
    | .bnbFormed =>
      if event = .interruptPublished then (.interruptBound, .none) else (.bnbFormed, .none)
    | .interruptBound =>
      if event = .bnbListening then (.interposed, .installInterpose) else (.interruptBound, .none)
    | .interposed =>
      if event = .interposeOk then (.mtMode, .ensureMtMode) else (.interposed, .none)
    | .mtMode =>
      if event = .mtModeConfirmed then (.handlerUp, .injectHandlerTrigger) else (.mtMode, .none)
    | .handlerUp =>
      if event = .handlerSpawned then (.steady, .markSteady) else (.handlerUp, .none)
    | .steady => (.steady, .none)

/-- The actions a caller performs. -/
def performed : CsmAction → List CsmAction
  | .none => []
  | a => [a]

/-- A connection: every event observed, and the actions performed. -/
def csm : Transducer CsmState CsmEvent CsmAction := fun s e =>
  ((csmStep s e).1, performed (csmStep s e).2)

/-- The events waited for, one after the other. -/
def csmScript : List CsmEvent :=
  [.controlAttach, .controlOpen, .interruptPublished, .bnbListening, .interposeOk,
    .mtModeConfirmed, .handlerSpawned]

/-- What each of them makes the caller perform. -/
def csmActions : List (List CsmAction) :=
  [[.waitControlOpen], [.formBnb], [], [.installInterpose], [.ensureMtMode],
    [.injectHandlerTrigger], [.markSteady]]

/-- How far the state is along the script. -/
def CsmState.index : CsmState → Nat
  | .idle => 0
  | .controlUp => 1
  | .bnbFormed => 2
  | .interruptBound => 3
  | .interposed => 4
  | .mtMode => 5
  | .handlerUp => 6
  | .steady => 7

/-- **A step follows the script**: the event waited for moves on, and the actions performed are one
entry more. -/
theorem csmStep_advance (s : CsmState) {e : CsmEvent} (he : e ≠ .disconnect) :
    (csm s e).1.index = Script.advance csmScript s.index e ∧
      (csmActions.take s.index).flatten ++ (csm s e).2 =
        (csmActions.take (csm s e).1.index).flatten := by
  -- one case for each entry of the table
  cases s <;> cases e <;> first | exact absurd rfl he | exact ⟨rfl, rfl⟩

theorem csmStep_disconnect (s : CsmState) : csm s .disconnect = (.idle, [.teardown]) := rfl

/-- The events since the last DISCONNECT. -/
abbrev sinceDisconnect (es : List CsmEvent) : List CsmEvent := Script.since .disconnect es

/-- The state counts the script's events. -/
theorem index_run_csm (es : List CsmEvent) :
    (Transducer.run csm .idle es).1.index = Script.progress csmScript (sinceDisconnect es) := by
  induction es using List.reverseRecOn with
  | nil => rfl
  | append_singleton es e ih =>
    rw [Transducer.run_concat]
    by_cases he : e = .disconnect
    · subst he
      rw [sinceDisconnect, Script.since_concat_reset, csmStep_disconnect]
      rfl
    · rw [sinceDisconnect, Script.since_concat he, Script.progress_concat, ← ih]
      exact (csmStep_advance _ he).1

/-- The actions since the last DISCONNECT are the entries behind. -/
theorem log_run_csm (es : List CsmEvent) :
    (Transducer.run csm .idle es).2 =
      (Transducer.run csm .idle (es.rdropWhile fun e => e ≠ .disconnect)).2 ++
        (csmActions.take (Transducer.run csm .idle es).1.index).flatten := by
  induction es using List.reverseRecOn with
  | nil => rfl
  | append_singleton es e ih =>
    by_cases he : e = .disconnect
    · subst he
      rw [List.rdropWhile_concat_neg _ _ _ (by simp), Transducer.run_concat, csmStep_disconnect]
      exact (List.append_nil _).symm
    · rw [List.rdropWhile_concat_pos _ _ _ (by simpa using he), Transducer.run_concat,
        ← (csmStep_advance _ he).2, ← List.append_assoc, ← ih]

/-- No step but a DISCONNECT tears anything down. -/
theorem count_teardown_step (s : CsmState) (e : CsmEvent) :
    (csm s e).2.count .teardown = if e = .disconnect then 1 else 0 := by
  cases s <;> cases e <;> rfl

theorem count_teardown_run (s : CsmState) (es : List CsmEvent) :
    (Transducer.run csm s es).2.count .teardown = es.count .disconnect := by
  induction es generalizing s with
  | nil => rfl
  | cons e es ih =>
    rw [Transducer.run, List.count_append, ih, count_teardown_step, List.count_cons]
    simp only [beq_iff_eq]
    exact Nat.add_comm _ _

/-- **A connection is as far as its events say**: the state is the longest part of the script that
came in order since the last DISCONNECT, the actions performed since then are the entries of that
part, and each DISCONNECT has torn down once. -/
theorem csm_run (es : List CsmEvent) :
    (∀ k, k ≤ (Transducer.run csm .idle es).1.index ↔
        k ≤ csmScript.length ∧ (csmScript.take k).Sublist (sinceDisconnect es)) ∧
      (Transducer.run csm .idle es).2 =
        (Transducer.run csm .idle (es.rdropWhile fun e => e ≠ .disconnect)).2 ++
          (csmActions.take (Transducer.run csm .idle es).1.index).flatten ∧
      (Transducer.run csm .idle es).2.count .teardown = es.count .disconnect := by
  refine ⟨fun k => ?_, log_run_csm es, count_teardown_run .idle es⟩
  rw [index_run_csm]
  exact Script.progress_spec csmScript (sinceDisconnect es) k

end MagicTrackpad
