/-!
# Transport presence (`src/mavericks_presence.c`) and its observer

`presenceStep` is the machine that turns the appearing and terminating of the readers into one
view: no trackpad, Bluetooth, USB, or `hold` for the window after a removal. `PresenceObserver`
(`mavericks_presence_observer.c`) runs it: each edge is one step, entering `hold` arms a window
timer tagged with a generation, and a resolving step makes the tag stale. A window's length is not
modelled: an armed window may fire at any later moment.

The link daemon asks only whether the view is USB. For that question the machine has one bit:
* `gate_presenceStep`: the bit follows `gateStep`, in which the last USB edge or Bluetooth
  appearance decides and nothing else counts.
* `gate_obsWindowFired`: a window, stale or not, leaves the bit alone.
-/

namespace MagicTrackpad

/-- `presence_state_t`. -/
inductive PresenceState
  | none
  | bt
  | usb
  | hold
  deriving DecidableEq, Repr

/-- `presence_event_t`. -/
inductive PresenceEvent
  | btAppear
  | btRemove
  | usbAppear
  | usbRemove
  | removalElapsed
  deriving DecidableEq, Repr

/-- `presence_action_t`. -/
inductive PresenceAction
  | none
  | absent
  | onBt
  | onUsb
  | hold
  deriving DecidableEq, Repr

/-- `presence_result_t`. -/
structure PresenceResult where
  next : PresenceState
  action : PresenceAction
  deriving DecidableEq, Repr

/-- `presence_step`. -/
def presenceStep (state : PresenceState) (event : PresenceEvent) : PresenceResult :=
  match event with
  | .btAppear => if state ≠ .bt then ⟨.bt, .onBt⟩ else ⟨state, .none⟩
  | .usbAppear => if state ≠ .usb then ⟨.usb, .onUsb⟩ else ⟨state, .none⟩
  | .btRemove => if state = .bt then ⟨.hold, .hold⟩ else ⟨state, .none⟩
  | .usbRemove => if state = .usb then ⟨.hold, .hold⟩ else ⟨state, .none⟩
  | .removalElapsed => if state = .hold then ⟨.none, .absent⟩ else ⟨state, .none⟩

/-- `presence_view_for`: Bluetooth wins if both are present. -/
def presenceViewFor (btPresent usbPresent : Bool) : PresenceState :=
  if btPresent then .bt else if usbPresent then .usb else .none

/-- `render_for`. -/
def renderFor : PresenceState → PresenceAction
  | .bt => .onBt
  | .usb => .onUsb
  | .none => .absent
  | .hold => .none

/-- `presence_reconcile`: the view the truth calls for, except that it never ends a hold with
nothing present. -/
def presenceReconcile (state : PresenceState) (btPresent usbPresent : Bool) : PresenceResult :=
  let target := presenceViewFor btPresent usbPresent
  if state = .hold ∧ target = .none then ⟨state, .none⟩
  else if state = target then ⟨state, .none⟩
  else ⟨target, renderFor target⟩

/-! ## The observer -/

/-- The two transports, each with its reader class. -/
inductive Transport
  | usb
  | bt
  deriving DecidableEq, Repr

/-- `kIOFirstMatchNotification` of the reader class. -/
def Transport.appearEdge : Transport → PresenceEvent
  | .usb => .usbAppear
  | .bt => .btAppear

/-- `kIOTerminatedNotification` of the reader class. -/
def Transport.removeEdge : Transport → PresenceEvent
  | .usb => .usbRemove
  | .bt => .btRemove

/-- `mavericks_presence_observer`. -/
structure PresenceObserver where
  state : PresenceState
  gen : Nat
  /-- The tags of the window timers that have not fired yet. -/
  windows : List Nat
  deriving DecidableEq, Repr

/-- A call of the consumer's callback. -/
abbrev PresenceCall := PresenceAction × PresenceEvent

/-- `presence_observer_create`: the services already there are drained without a step. -/
def presenceObserverCreate : PresenceObserver := ⟨.none, 0, []⟩

/-- `presence_observer_state`: no observer reads as no trackpad. -/
def presenceObserverState : Option PresenceObserver → PresenceState
  | some o => o.state
  | none => .none

/-- `obs_sm_event`. -/
def obsSmEvent (o : PresenceObserver) (e : PresenceEvent) : PresenceObserver × List PresenceCall :=
  let r := presenceStep o.state e
  if r.action = .hold then
    ({ state := r.next, gen := o.gen + 1, windows := o.windows ++ [o.gen + 1] }, [(r.action, e)])
  else if r.action ≠ .none then
    ({ o with state := r.next, gen := o.gen + 1 }, [(r.action, e)])
  else ({ o with state := r.next }, [(r.action, e)])

/-- The block `obs_sm_event` leaves with the timer: a tag that is no longer current is ignored. -/
def obsWindowFired (o : PresenceObserver) (my : Nat) : PresenceObserver × List PresenceCall :=
  let fired := { o with windows := o.windows.erase my }
  if my ≠ o.gen then (fired, [])
  else
    let rr := presenceStep o.state .removalElapsed
    ({ fired with state := rr.next }, [(rr.action, .removalElapsed)])

/-- `presence_observer_reconcile`, given what `service_present` says of each class. -/
def presenceObserverReconcile (o : PresenceObserver) (bt usb : Bool) :
    PresenceObserver × List PresenceCall :=
  let r := presenceReconcile o.state bt usb
  ({ o with state := r.next }, [(r.action, .removalElapsed)])

theorem state_obsSmEvent (o : PresenceObserver) (e : PresenceEvent) :
    (obsSmEvent o e).1.state = (presenceStep o.state e).next := by
  unfold obsSmEvent
  dsimp only
  split
  · rfl
  · split <;> rfl

/-! ## The bit the daemon reads -/

/-- What is left of a step when only "on USB or not" is asked. -/
def gateStep (onUsb : Bool) : PresenceEvent → Bool
  | .usbAppear => true
  | .usbRemove => false
  | .btAppear => false
  | .btRemove => onUsb
  | .removalElapsed => onUsb

/-- **The gate is one bit**: whether the view is USB after an edge depends on whether it was USB
before, and on nothing else of the view. -/
theorem gate_presenceStep (s : PresenceState) (e : PresenceEvent) :
    ((presenceStep s e).next == .usb) = gateStep (s == .usb) e := by
  cases e with
  | btAppear => cases s <;> rfl
  | btRemove => cases s <;> rfl
  | usbAppear => cases s <;> rfl
  | usbRemove => cases s <;> rfl
  | removalElapsed => cases s <;> rfl

theorem gate_obsSmEvent (o : PresenceObserver) (e : PresenceEvent) :
    ((obsSmEvent o e).1.state == .usb) = gateStep (o.state == .usb) e := by
  rw [state_obsSmEvent, gate_presenceStep]

theorem gate_obsWindowFired (o : PresenceObserver) (my : Nat) :
    ((obsWindowFired o my).1.state == .usb) = (o.state == .usb) := by
  unfold obsWindowFired
  dsimp only
  split
  · rfl
  · exact gate_presenceStep o.state .removalElapsed

/-- A fresh observer reconciled once is on USB iff USB is the only transport present. -/
theorem gate_reconcile_create (bt usb : Bool) :
    ((presenceObserverReconcile presenceObserverCreate bt usb).1.state == .usb) =
      (usb && !bt) := by
  cases bt <;> cases usb <;> rfl

end MagicTrackpad
