import MagicTrackpad.LinkState

/-!
# The shutdown quiesce, step by step (`tools/mt2_linkstated.m`, `quiesce_for_shutdown`)

In `LinkState` a block of the paging queue runs as one step, and so does the quiesce. Here both are
taken apart: the worker of the serial queue goes through its device list one device at a time and
`openConnection` is a call with a beginning and an end, while the main thread latches
`g_terminating`, cancels the timer, waits for the barrier it enqueued, and closes the links one by
one. Timer ticks and edges enqueue blocks at any time, also during the quiesce; devices connect and
drop by themselves. The paired devices are a list fixed for the run, of any length;
`closeConnection` succeeds. `kick_hidd` and the marker file are left out.

* `Keeper.unclosed`: the devices the quiesce has not looked at yet, once the barrier is behind it.
* `QuiesceInv`: from the barrier on the worker is idle, and the devices looked at have no link of
  the daemon. `quiesceInv_keeperStep`: every step keeps it.
* `quiesce_is_final`: after the quiesce has returned, nothing the daemon does opens a connection,
  and no link of its own is up.
* `page_refines`: a page that runs without interruption is the `reconnectMatched` of `LinkState`.
-/

namespace MagicTrackpad

open Lib

/-! ## The devices -/

/-- Who opened the link of a device. -/
inductive BtLink
  | down
  | byDaemon
  | byDevice
  deriving DecidableEq, Repr

/-- A paired device with its link. -/
structure BtDevice where
  address : Nat
  cod : U32
  link : BtLink
  deriving DecidableEq, Repr

/-- `isConnected`. -/
def BtDevice.isConnected (d : BtDevice) : Bool := d.link != .down

/-- What the daemon reads of the device. -/
def BtDevice.read (d : BtDevice) : PairedDevice := ⟨d.address, d.cod, d.isConnected⟩

/-- The link of device `i` is set. -/
def setLink (devices : List BtDevice) (i : Nat) (link : BtLink) : List BtDevice :=
  devices.modify i fun d => { d with link := link }

/-- The body of the loop of `do_disconnect_mt2`. -/
def closeAt (devices : List BtDevice) (i : Nat) : List BtDevice × List LinkAction :=
  match devices[i]? with
  | some d =>
    if mt2CodIsMt2 d.cod && d.isConnected then
      (setLink devices i .down, [.closeConnection d.address])
    else (devices, [])
  | none => (devices, [])

/-! ## The daemon -/

/-- A block of the paging queue; `dispatch_sync` enqueues an empty one. -/
inductive QueueBlock
  | job (job : LinkJob)
  | barrier
  deriving DecidableEq, Repr

/-- Where the worker of the paging queue is. -/
inductive Worker
  | idle
  /-- In the loop of `reconnect_matched`, with the devices still to come. -/
  | paging (usbPresent : Bool) (rest : List Nat)
  /-- In the `openConnection` of device `i`. -/
  | opening (usbPresent : Bool) (i : Nat) (rest : List Nat)
  /-- In the loop of `disconnect_matched`. -/
  | yielding (rest : List Nat)
  deriving DecidableEq, Repr

/-- Where the main thread is. -/
inductive MainThread
  | runLoop
  /-- `g_terminating` is set. -/
  | latched
  /-- The timer is cancelled. -/
  | cancelled
  /-- In `dispatch_sync`. -/
  | waiting
  /-- In the loop of `do_disconnect_mt2`. -/
  | closing (rest : List Nat)
  deriving DecidableEq, Repr

/-- The daemon with its two threads and the paired devices. -/
structure Keeper where
  devices : List BtDevice
  /-- `g_obs`. -/
  obs : PresenceObserver
  /-- `reconnect_queue`, oldest first. -/
  queue : List QueueBlock
  worker : Worker
  main : MainThread
  /-- `g_terminating`. -/
  terminating : Bool
  timerCancelled : Bool
  deriving DecidableEq, Repr

/-- `main` up to the run loop, with the readers present then. -/
def Keeper.start (devices : List BtDevice) (bt usb : Bool) : Keeper :=
  { devices := devices
    obs := (presenceObserverReconcile presenceObserverCreate bt usb).1
    queue := []
    worker := .idle
    main := .runLoop
    terminating := false
    timerCancelled := false }

/-- What can happen. -/
inductive KeeperEvent
  /-- The keeper timer. -/
  | tick
  /-- An edge reaches the observer. -/
  | appeared (t : Transport)
  | removed (t : Transport)
  /-- A window of the observer fires. -/
  | window (my : Nat)
  /-- SIGTERM or the power callback, on the main thread. -/
  | callback
  /-- The main thread goes on with its quiesce. -/
  | mainGoesOn
  /-- The worker goes on; an `openConnection` that ends now has succeeded or not. -/
  | workerGoesOn (opened : Bool)
  /-- A device connects by itself. -/
  | connects (i : Nat)
  /-- A link is lost. -/
  | drops (i : Nat)
  deriving DecidableEq, Repr

/-- The block `on_presence` enqueues. -/
def presenceBlocks (call : PresenceCall) : List QueueBlock :=
  match call.2 with
  | .usbRemove => [.job (.reconnect .usbRemove)]
  | .usbAppear => [.job .disconnect]
  | _ => []

/-- The observer moves, and its callbacks run. -/
def Keeper.observe (s : Keeper) (r : PresenceObserver × List PresenceCall) : Keeper :=
  { s with obs := r.1, queue := s.queue ++ r.2.flatMap presenceBlocks }

/-- Every index of the device list. -/
def Keeper.all (s : Keeper) : List Nat := List.range s.devices.length

/-- A block begins: `reconnect_matched` and `disconnect_matched` look at `g_terminating` once,
here. -/
def Keeper.begin (s : Keeper) : LinkJob → Worker
  | .reconnect _ =>
    if s.terminating then .idle
    else .paging (presenceObserverState (some s.obs) == .usb) s.all
  | .disconnect => if s.terminating then .idle else .yielding s.all

/-- The worker of the paging queue. -/
def workerStep (s : Keeper) (opened : Bool) : Keeper × List LinkAction :=
  match s.worker with
  | .idle =>
    match s.queue with
    | [] => (s, [])
    | .job job :: rest => ({ s with queue := rest, worker := s.begin job }, [])
    | .barrier :: rest =>
      -- dispatch_sync returns
      ({ s with queue := rest, main := if s.main = .waiting then .closing s.all else s.main }, [])
  | .paging _ [] => ({ s with worker := .idle }, [])
  | .paging usbPresent (i :: rest) =>
    match s.devices[i]? with
    | some d =>
      if mt2ReconnectShouldPage d.cod d.isConnected usbPresent then
        ({ s with worker := .opening usbPresent i rest }, [.openConnection d.address])
      else ({ s with worker := .paging usbPresent rest }, [])
    | none => ({ s with worker := .paging usbPresent rest }, [])
  | .opening usbPresent i rest =>
    ({ s with
        worker := .paging usbPresent rest
        devices := if opened then setLink s.devices i .byDaemon else s.devices }, [])
  | .yielding [] => ({ s with worker := .idle }, [])
  | .yielding (i :: rest) =>
    ({ s with worker := .yielding rest, devices := (closeAt s.devices i).1 },
      (closeAt s.devices i).2)

/-- `quiesce_for_shutdown` after its latch. -/
def mainStep (s : Keeper) : Keeper × List LinkAction :=
  match s.main with
  | .runLoop => (s, [])
  | .latched => ({ s with timerCancelled := true, main := .cancelled }, [])
  | .cancelled => ({ s with queue := s.queue ++ [.barrier], main := .waiting }, [])
  | .waiting => (s, [])
  | .closing [] => ({ s with main := .runLoop }, [])
  | .closing (i :: rest) =>
    ({ s with main := .closing rest, devices := (closeAt s.devices i).1 }, (closeAt s.devices i).2)

/-- One event. -/
def keeperStep : Transducer Keeper KeeperEvent LinkAction
  | s, .tick =>
    if s.timerCancelled then (s, [])
    else ({ s with queue := s.queue ++ [.job (.reconnect .timer)] }, [])
  | s, .appeared t => (s.observe (obsSmEvent s.obs t.appearEdge), [])
  | s, .removed t => (s.observe (obsSmEvent s.obs t.removeEdge), [])
  | s, .window my =>
    if my ∈ s.obs.windows then (s.observe (obsWindowFired s.obs my), []) else (s, [])
  | s, .callback =>
    if s.terminating then (s, [])
    else ({ s with terminating := true, main := .latched }, [])
  | s, .mainGoesOn => mainStep s
  | s, .workerGoesOn opened => workerStep s opened
  | s, .connects i =>
    match s.devices[i]? with
    | some d =>
      (if d.isConnected then s else { s with devices := setLink s.devices i .byDevice }, [])
    | none => (s, [])
  | s, .drops i => ({ s with devices := setLink s.devices i .down }, [])

/-- `quiesce_for_shutdown` has returned. -/
def Keeper.Quiesced (s : Keeper) : Prop := s.terminating = true ∧ s.main = .runLoop

/-- No link that the daemon opened to a matching device is up. -/
def Keeper.NoLink (s : Keeper) : Prop :=
  ∀ d ∈ s.devices, mt2CodIsMt2 d.cod = true → d.link ≠ .byDaemon

/-! ## The invariant -/

/-- The devices the quiesce has still to look at, once no page can be under way. -/
def Keeper.unclosed (s : Keeper) : Option (List Nat) :=
  match s.main with
  | .runLoop => if s.terminating then some [] else none
  | .closing rest => some rest
  | _ => none

/-- Outside of `rest` no matching device has a link of the daemon. -/
def DaemonFree (devices : List BtDevice) (rest : List Nat) : Prop :=
  ∀ i d, devices[i]? = some d → i ∉ rest → mt2CodIsMt2 d.cod = true → d.link ≠ .byDaemon

/-- What holds of every reachable state. -/
structure QuiesceInv (s : Keeper) : Prop where
  latched : s.main ≠ .runLoop → s.terminating = true
  /-- From the barrier on, the worker is idle. -/
  idle : ∀ rest, s.unclosed = some rest → s.worker = .idle
  free : ∀ rest, s.unclosed = some rest → DaemonFree s.devices rest

theorem quiesceInv_start (devices : List BtDevice) (bt usb : Bool) :
    QuiesceInv (.start devices bt usb) where
  latched := fun h => absurd rfl h
  idle := fun _ h => by cases h
  free := fun _ h => by cases h

theorem QuiesceInv.terminating {s : Keeper} (hs : QuiesceInv s) {rest : List Nat}
    (h : s.unclosed = some rest) : s.terminating = true := by
  by_cases hmain : s.main = .runLoop
  · simp only [Keeper.unclosed, hmain] at h
    by_contra hterm
    rw [if_neg hterm] at h
    cases h
  · exact hs.latched hmain

/-- A step that leaves the main thread alone keeps the invariant if it keeps an idle worker idle and
opens no link after the barrier. -/
theorem QuiesceInv.keep {s s' : Keeper} (hs : QuiesceInv s) (hmain : s'.main = s.main)
    (hterm : s'.terminating = s.terminating)
    (hkeep : ∀ rest, s.unclosed = some rest → s.worker = .idle → DaemonFree s.devices rest →
      s'.worker = .idle ∧ DaemonFree s'.devices rest) : QuiesceInv s' := by
  have hunclosed : s'.unclosed = s.unclosed := by
    unfold Keeper.unclosed
    rw [hmain, hterm]
  refine ⟨fun h => ?_, fun rest h => ?_, fun rest h => ?_⟩
  · rw [hterm]
    exact hs.latched (hmain ▸ h)
  · rw [hunclosed] at h
    exact (hkeep rest h (hs.idle rest h) (hs.free rest h)).1
  · rw [hunclosed] at h
    exact (hkeep rest h (hs.idle rest h) (hs.free rest h)).2

/-- Between the latch and the barrier nothing is promised yet. -/
theorem quiesceInv_of_none {s : Keeper} (hterm : s.terminating = true) (h : s.unclosed = none) :
    QuiesceInv s where
  latched := fun _ => hterm
  idle := fun _ hrest => by rw [h] at hrest; cases hrest
  free := fun _ hrest => by rw [h] at hrest; cases hrest

/-! ## Links -/

theorem getElem?_setLink (devices : List BtDevice) (i j : Nat) (link : BtLink) :
    (setLink devices i link)[j]? =
      (devices[j]?).map fun d => if i = j then { d with link := link } else d := by
  rw [setLink, List.getElem?_modify]
  rfl

/-- A link that is not the daemon's, at a device that need not have been free of it. -/
theorem DaemonFree.setLink_of {devices : List BtDevice} {i : Nat} {rest rest' : List Nat}
    (h : DaemonFree devices rest) (hrest : ∀ j, j ≠ i → j ∉ rest' → j ∉ rest) {link : BtLink}
    (hlink : link ≠ .byDaemon) : DaemonFree (setLink devices i link) rest' := by
  intro j d hd hj hmatch
  rw [getElem?_setLink, Option.map_eq_some_iff] at hd
  obtain ⟨d', hd', rfl⟩ := hd
  by_cases hij : i = j
  · rw [if_pos hij]
    exact hlink
  · rw [if_neg hij] at hmatch ⊢
    exact h j d' hd' (hrest j (Ne.symm hij) hj) hmatch

theorem DaemonFree.setLink {devices : List BtDevice} {rest : List Nat}
    (h : DaemonFree devices rest) (i : Nat) {link : BtLink} (hlink : link ≠ .byDaemon) :
    DaemonFree (setLink devices i link) rest := h.setLink_of (fun _ _ hj => hj) hlink

/-- One turn of the closing loop. -/
theorem DaemonFree.closeAt {devices : List BtDevice} {i : Nat} {rest : List Nat}
    (h : DaemonFree devices (i :: rest)) : DaemonFree (closeAt devices i).1 rest := by
  have hother : ∀ j, j ≠ i → j ∉ rest → j ∉ i :: rest := fun j hij hj hmem =>
    (List.mem_cons.mp hmem).elim hij hj
  unfold MagicTrackpad.closeAt
  cases hi : devices[i]? with
  | none =>
    intro j d hd hj hmatch
    refine h j d hd (hother j ?_ hj) hmatch
    rintro rfl
    rw [hi] at hd
    cases hd
  | some di =>
    dsimp only
    by_cases hclose : (mt2CodIsMt2 di.cod && di.isConnected) = true
    · rw [if_pos hclose]
      exact h.setLink_of hother BtLink.noConfusion
    · rw [if_neg hclose]
      intro j d hd hj hmatch
      by_cases hij : j = i
      · -- A matching device that is skipped is not connected.
        subst hij
        obtain rfl := Option.some.inj (hi.symm.trans hd)
        rintro hlink
        exact hclose (by simp [hmatch, BtDevice.isConnected, hlink])
      · exact h j d hd (hother j hij hj) hmatch

theorem daemonFree_all (s : Keeper) : DaemonFree s.devices s.all := by
  intro i d hd hi _
  have hlt : i < s.devices.length := (List.getElem?_eq_some_iff.mp hd).1
  exact absurd (List.mem_range.mpr hlt) hi

theorem noLink_of_daemonFree {s : Keeper} (h : DaemonFree s.devices []) : s.NoLink := by
  intro d hd hmatch
  obtain ⟨i, hi⟩ := List.getElem?_of_mem hd
  exact h i d hi List.not_mem_nil hmatch

/-! ## One step -/

theorem quiesceInv_observe {s : Keeper} (hs : QuiesceInv s)
    (r : PresenceObserver × List PresenceCall) : QuiesceInv (s.observe r) :=
  hs.keep rfl rfl fun _ _ hidle hfree => ⟨hidle, hfree⟩

/-- **The worker**: behind the barrier it starts nothing, and the barrier finds it idle. -/
theorem quiesceInv_workerStep {s : Keeper} (hs : QuiesceInv s) (opened : Bool) :
    QuiesceInv (workerStep s opened).1 := by
  cases hworker : s.worker with
  | idle =>
    cases hqueue : s.queue with
    | nil =>
      simp only [workerStep, hworker, hqueue]
      exact hs
    | cons block rest =>
      cases block with
      | job job =>
        simp only [workerStep, hworker, hqueue]
        refine hs.keep rfl rfl fun left h _ hfree => ⟨?_, hfree⟩
        cases job <;> simp [Keeper.begin, hs.terminating h]
      | barrier =>
        simp only [workerStep, hworker, hqueue]
        by_cases hmain : s.main = .waiting
        · rw [if_pos hmain]
          have hterm : s.terminating = true :=
            hs.latched (by rw [hmain]; exact MainThread.noConfusion)
          refine ⟨fun _ => hterm, fun _ _ => rfl, fun left h => ?_⟩
          obtain rfl : s.all = left := Option.some.inj h
          exact daemonFree_all s
        · rw [if_neg hmain]
          exact hs.keep rfl rfl fun _ _ _ hfree => ⟨rfl, hfree⟩
  | paging usbPresent left =>
    have hbusy : s.worker ≠ .idle := by rw [hworker]; exact Worker.noConfusion
    cases left with
    | nil =>
      simp only [workerStep, hworker]
      exact hs.keep rfl rfl fun _ _ hidle => absurd hidle hbusy
    | cons i rest =>
      simp only [workerStep, hworker]
      split
      · split <;> exact hs.keep rfl rfl fun _ _ hidle => absurd hidle hbusy
      · exact hs.keep rfl rfl fun _ _ hidle => absurd hidle hbusy
  | opening usbPresent i rest =>
    have hbusy : s.worker ≠ .idle := by rw [hworker]; exact Worker.noConfusion
    simp only [workerStep, hworker]
    exact hs.keep rfl rfl fun _ _ hidle => absurd hidle hbusy
  | yielding left =>
    have hbusy : s.worker ≠ .idle := by rw [hworker]; exact Worker.noConfusion
    cases left with
    | nil =>
      simp only [workerStep, hworker]
      exact hs.keep rfl rfl fun _ _ hidle => absurd hidle hbusy
    | cons i rest =>
      simp only [workerStep, hworker]
      exact hs.keep rfl rfl fun _ _ hidle => absurd hidle hbusy

/-- **The main thread**: it looks at one device after another. -/
theorem quiesceInv_mainStep {s : Keeper} (hs : QuiesceInv s) : QuiesceInv (mainStep s).1 := by
  have hlatched : s.main ≠ .runLoop → s.terminating = true := hs.latched
  cases hmain : s.main with
  | runLoop =>
    simp only [mainStep, hmain]
    exact hs
  | latched =>
    simp only [mainStep, hmain]
    exact quiesceInv_of_none (hlatched (by rw [hmain]; exact MainThread.noConfusion)) rfl
  | cancelled =>
    simp only [mainStep, hmain]
    exact quiesceInv_of_none (hlatched (by rw [hmain]; exact MainThread.noConfusion)) rfl
  | waiting =>
    simp only [mainStep, hmain]
    exact hs
  | closing left =>
    have hterm : s.terminating = true := hlatched (by rw [hmain]; exact MainThread.noConfusion)
    have hleft : s.unclosed = some left := by simp only [Keeper.unclosed, hmain]
    cases left with
    | nil =>
      simp only [mainStep, hmain]
      have hdone : ({ s with main := .runLoop } : Keeper).unclosed = some [] := by
        simp only [Keeper.unclosed, hterm, if_true]
      refine ⟨fun h => absurd rfl h, fun _ _ => hs.idle _ hleft, fun rest h => ?_⟩
      rw [hdone] at h
      obtain rfl := Option.some.inj h
      exact hs.free _ hleft
    | cons i rest =>
      simp only [mainStep, hmain]
      refine ⟨fun _ => hterm, fun _ _ => hs.idle _ hleft, fun rest' h => ?_⟩
      obtain rfl : rest = rest' := Option.some.inj h
      exact (hs.free _ hleft).closeAt

theorem quiesceInv_keeperStep {s : Keeper} (hs : QuiesceInv s) (e : KeeperEvent) :
    QuiesceInv (keeperStep s e).1 := by
  cases e with
  | tick =>
    simp only [keeperStep]
    split
    · exact hs
    · exact hs.keep rfl rfl fun _ _ hidle hfree => ⟨hidle, hfree⟩
  | appeared t => exact quiesceInv_observe hs _
  | removed t => exact quiesceInv_observe hs _
  | window my =>
    simp only [keeperStep]
    split
    · exact quiesceInv_observe hs _
    · exact hs
  | callback =>
    simp only [keeperStep]
    split
    · exact hs
    · exact quiesceInv_of_none rfl rfl
  | mainGoesOn => exact quiesceInv_mainStep hs
  | workerGoesOn opened => exact quiesceInv_workerStep hs opened
  | connects i =>
    simp only [keeperStep]
    split
    · split
      · exact hs
      · exact hs.keep rfl rfl fun _ _ hidle hfree => ⟨hidle, hfree.setLink i BtLink.noConfusion⟩
    · exact hs
  | drops i =>
    exact hs.keep rfl rfl fun _ _ hidle hfree => ⟨hidle, hfree.setLink i BtLink.noConfusion⟩

/-! ## A page without interruption -/

theorem drop_setLink (devices : List BtDevice) (k : Nat) (link : BtLink) :
    (setLink devices k link).drop (k + 1) = devices.drop (k + 1) := by
  refine List.ext_getElem? fun j => ?_
  rw [List.getElem?_drop, List.getElem?_drop, getElem?_setLink]
  cases devices[k + 1 + j]? with
  | none => rfl
  | some d => rw [Option.map_some, if_neg (by omega)]

/-- The connections a page opens to the devices it has still to look at. -/
def pageActions (usbPresent : Bool) (devices : List BtDevice) : List LinkAction :=
  ((devices.map BtDevice.read).filter fun d =>
    mt2ReconnectShouldPage d.cod d.isConnected usbPresent).map fun d => .openConnection d.address

theorem pageActions_cons (usbPresent : Bool) (d : BtDevice) (devices : List BtDevice) :
    pageActions usbPresent (d :: devices) =
      (if mt2ReconnectShouldPage d.cod d.isConnected usbPresent then [.openConnection d.address]
        else []) ++ pageActions usbPresent devices := by
  by_cases hpage : mt2ReconnectShouldPage d.cod d.isConnected usbPresent = true
  · simp [pageActions, BtDevice.read, hpage]
  · simp [pageActions, BtDevice.read, hpage]

section Paging

variable {s : Keeper} {usbPresent : Bool} {k : Nat} {rest : List Nat} {d : BtDevice}
  (hworker : s.worker = .paging usbPresent (k :: rest)) (hget : s.devices[k]? = some d)

include hworker hget

/-- The loop comes to a device it does not page. -/
theorem keeperStep_skip (hpage : ¬ mt2ReconnectShouldPage d.cod d.isConnected usbPresent = true) :
    keeperStep s (.workerGoesOn false) = ({ s with worker := .paging usbPresent rest }, []) := by
  simp only [keeperStep, workerStep, hworker, hget, if_neg hpage]

/-- It comes to a device it pages: the call begins, and then it ends with its outcome. -/
theorem run_page (hpage : mt2ReconnectShouldPage d.cod d.isConnected usbPresent = true)
    (opened : Bool) :
    Transducer.run keeperStep s [.workerGoesOn false, .workerGoesOn opened] =
      ({ s with
          worker := .paging usbPresent rest
          devices := if opened then setLink s.devices k .byDaemon else s.devices },
        [.openConnection d.address]) := by
  simp only [Transducer.run, keeperStep, workerStep, hworker, hget, if_pos hpage, List.append_nil]

end Paging

/-- A call changes nothing for the devices after its own. -/
theorem drop_devices_opened (opened : Bool) (devices : List BtDevice) (k : Nat) :
    (if opened then setLink devices k .byDaemon else devices).drop (k + 1) =
      devices.drop (k + 1) := by
  split
  · exact drop_setLink devices k .byDaemon
  · rfl

theorem length_devices_opened (opened : Bool) (devices : List BtDevice) (k : Nat) :
    (if opened then setLink devices k .byDaemon else devices).length = devices.length := by
  split
  · exact List.length_modify ..
  · rfl

/-- The loop of `reconnect_matched` from device `k` on, whatever its calls come to. -/
theorem paging_run (opened : Nat → Bool) (usbPresent : Bool) (n : Nat) :
    ∀ (k : Nat) (s : Keeper), s.worker = .paging usbPresent (List.range' k n) →
      k + n = s.devices.length → ∃ es : List KeeperEvent,
        (∀ e ∈ es, ∃ b, e = .workerGoesOn b) ∧
          (Transducer.run keeperStep s es).1.worker = .idle ∧
          (Transducer.run keeperStep s es).2 = pageActions usbPresent (s.devices.drop k) := by
  induction n with
  | zero =>
    intro k s hworker hlen
    have hstep : keeperStep s (.workerGoesOn false) = ({ s with worker := .idle }, []) := by
      simp only [keeperStep, workerStep, hworker, List.range'_zero]
    refine ⟨[.workerGoesOn false], by simp, ?_, ?_⟩
    · rw [Transducer.run, Transducer.run, hstep]
    · rw [Transducer.run, Transducer.run, hstep, List.drop_of_length_le (by omega)]
      rfl
  | succ n ih =>
    intro k s hworker hlen
    have hlt : k < s.devices.length := by omega
    rw [List.range'_succ] at hworker
    have hdrop : s.devices.drop k = s.devices[k] :: s.devices.drop (k + 1) :=
      List.drop_eq_getElem_cons hlt
    have hget : s.devices[k]? = some s.devices[k] := List.getElem?_eq_getElem hlt
    generalize s.devices[k] = d at hdrop hget
    rw [hdrop, pageActions_cons]
    by_cases hpage : mt2ReconnectShouldPage d.cod d.isConnected usbPresent = true
    · have hstep := run_page hworker hget hpage (opened k)
      obtain ⟨es, hes, hidle, hout⟩ := ih (k + 1)
        { s with
          worker := .paging usbPresent (List.range' (k + 1) n)
          devices := if opened k then setLink s.devices k .byDaemon else s.devices } rfl (by
            rw [length_devices_opened]
            omega)
      rw [drop_devices_opened] at hout
      refine ⟨[.workerGoesOn false, .workerGoesOn (opened k)] ++ es, ?_, ?_, ?_⟩
      · simpa using hes
      · rw [Transducer.run_append, hstep]
        exact hidle
      · rw [Transducer.run_append, hstep, if_pos hpage]
        exact congrArg ([.openConnection d.address] ++ ·) hout
    · obtain ⟨es, hes, hidle, hout⟩ := ih (k + 1)
        { s with worker := .paging usbPresent (List.range' (k + 1) n) } rfl (by
          show k + 1 + n = s.devices.length
          omega)
      refine ⟨.workerGoesOn false :: es, ?_, ?_, ?_⟩
      · simpa using hes
      · rw [Transducer.run, keeperStep_skip hworker hget hpage]
        exact hidle
      · rw [Transducer.run, keeperStep_skip hworker hget hpage, if_neg hpage]
        exact hout

/-- **A reconnect block that is not interrupted is the `reconnectMatched` of the atomic model**,
whatever its calls come to. -/
theorem page_refines (opened : Nat → Bool) {s : Keeper} (hidle : s.worker = .idle)
    {why : ReconnectWhy} {rest : List QueueBlock} (hq : s.queue = .job (.reconnect why) :: rest) :
    ∃ es : List KeeperEvent, (∀ e ∈ es, ∃ b, e = .workerGoesOn b) ∧
      (Transducer.run keeperStep s es).1.worker = .idle ∧
      (Transducer.run keeperStep s es).2 =
        reconnectMatched s.terminating (some s.obs) (s.devices.map BtDevice.read) := by
  have hstep : keeperStep s (.workerGoesOn false) =
      ({ s with queue := rest, worker := s.begin (.reconnect why) }, []) := by
    simp only [keeperStep, workerStep, hidle, hq]
  by_cases hterm : s.terminating = true
  · refine ⟨[.workerGoesOn false], by simp, ?_, ?_⟩
    · rw [Transducer.run, Transducer.run, hstep]
      simp only [Keeper.begin, hterm, if_true]
    · rw [Transducer.run, Transducer.run, hstep]
      simp [reconnectMatched, hterm]
  · obtain ⟨es, hes, hdone, hout⟩ := paging_run opened (presenceObserverState (some s.obs) == .usb)
      s.devices.length 0 { s with queue := rest, worker := s.begin (.reconnect why) } (by
        simp only [Keeper.begin, if_neg hterm, Keeper.all, List.range_eq_range']) (Nat.zero_add _)
    refine ⟨.workerGoesOn false :: es, ?_, ?_, ?_⟩
    · simpa using hes
    · rw [Transducer.run, hstep]
      exact hdone
    · rw [Transducer.run, hstep]
      refine Eq.trans hout ?_
      rw [reconnectMatched, if_neg hterm]
      rfl

/-! ## After the quiesce -/

/-- **A quiesced daemon stays so and opens nothing**: its worker starts no block, and its main
thread is back in the run loop. -/
theorem quiesced_keeperStep {s : Keeper} (hs : QuiesceInv s) (hq : s.Quiesced) (e : KeeperEvent) :
    (keeperStep s e).1.Quiesced ∧ ∀ a, .openConnection a ∉ (keeperStep s e).2 := by
  obtain ⟨hterm, hmain⟩ := hq
  have hidle : s.worker = .idle := hs.idle [] (by simp [Keeper.unclosed, hmain, hterm])
  cases e with
  | tick =>
    simp only [keeperStep]
    split
    · exact ⟨⟨hterm, hmain⟩, fun _ => List.not_mem_nil⟩
    · exact ⟨⟨hterm, hmain⟩, fun _ => List.not_mem_nil⟩
  | appeared t => exact ⟨⟨hterm, hmain⟩, fun _ => List.not_mem_nil⟩
  | removed t => exact ⟨⟨hterm, hmain⟩, fun _ => List.not_mem_nil⟩
  | window my =>
    simp only [keeperStep]
    split
    · exact ⟨⟨hterm, hmain⟩, fun _ => List.not_mem_nil⟩
    · exact ⟨⟨hterm, hmain⟩, fun _ => List.not_mem_nil⟩
  | callback =>
    simp only [keeperStep, hterm, if_true]
    exact ⟨⟨hterm, hmain⟩, fun _ => List.not_mem_nil⟩
  | mainGoesOn =>
    simp only [keeperStep, mainStep, hmain]
    exact ⟨⟨hterm, hmain⟩, fun _ => List.not_mem_nil⟩
  | workerGoesOn opened =>
    cases hqueue : s.queue with
    | nil =>
      simp only [keeperStep, workerStep, hidle, hqueue]
      exact ⟨⟨hterm, hmain⟩, fun _ => List.not_mem_nil⟩
    | cons block rest =>
      cases block with
      | job job =>
        simp only [keeperStep, workerStep, hidle, hqueue]
        exact ⟨⟨hterm, hmain⟩, fun _ => List.not_mem_nil⟩
      | barrier =>
        simp only [keeperStep, workerStep, hidle, hqueue, hmain]
        exact ⟨⟨hterm, rfl⟩, fun _ => List.not_mem_nil⟩
  | connects i =>
    simp only [keeperStep]
    split
    · split
      · exact ⟨⟨hterm, hmain⟩, fun _ => List.not_mem_nil⟩
      · exact ⟨⟨hterm, hmain⟩, fun _ => List.not_mem_nil⟩
    · exact ⟨⟨hterm, hmain⟩, fun _ => List.not_mem_nil⟩
  | drops i => exact ⟨⟨hterm, hmain⟩, fun _ => List.not_mem_nil⟩

/-- The daemon after a history. -/
def keeperAfter (devices : List BtDevice) (bt usb : Bool) (es : List KeeperEvent) : Keeper :=
  (Transducer.run keeperStep (.start devices bt usb) es).1

theorem quiesceInv_keeperAfter (devices : List BtDevice) (bt usb : Bool) (es : List KeeperEvent) :
    QuiesceInv (keeperAfter devices bt usb es) :=
  Transducer.run_state_induction keeperStep (A := fun _ => True) (quiesceInv_start devices bt usb)
    (fun _ e _ h => quiesceInv_keeperStep h e) es fun _ _ => trivial

/-- **The quiesce leaves the controller idle for good**: whatever ticks, edges, blocks and callbacks
interleave before and during it, once it has returned no continuation opens a connection, and
throughout it no link of the daemon to a matching device is up and a further callback changes
nothing. -/
theorem quiesce_is_final (devices : List BtDevice) (bt usb : Bool) (es : List KeeperEvent)
    (h : (keeperAfter devices bt usb es).Quiesced) (es' : List KeeperEvent) :
    let r := Transducer.run keeperStep (keeperAfter devices bt usb es) es'
    (∀ a, .openConnection a ∉ r.2) ∧ r.1.NoLink ∧ keeperStep r.1 .callback = (r.1, []) := by
  have hall := Transducer.run_induction keeperStep (A := fun _ => True)
    (I := fun s log => QuiesceInv s ∧ s.Quiesced ∧ ∀ a, .openConnection a ∉ log)
    ⟨quiesceInv_keeperAfter devices bt usb es, h, fun _ => List.not_mem_nil⟩
    (fun s log e _ hI => by
      obtain ⟨hs, hq, hlog⟩ := hI
      obtain ⟨hq', hnone⟩ := quiesced_keeperStep hs hq e
      refine ⟨quiesceInv_keeperStep hs e, hq', fun a hmem => ?_⟩
      exact (List.mem_append.mp hmem).elim (hlog a) (hnone a)) es' fun _ _ => trivial
  obtain ⟨hs, ⟨hterm, hmain⟩, hlog⟩ := hall
  refine ⟨hlog, ?_, ?_⟩
  · exact noLink_of_daemonFree (hs.free [] (by simp [Keeper.unclosed, hmain, hterm]))
  · simp only [keeperStep, hterm, if_true]

/-- A page is in the `openConnection` of its first device when SIGTERM comes, and goes on to the
second one before the quiesce closes both. -/
def midPage : Keeper :=
  keeperAfter [⟨0, 0x594#32, .down⟩, ⟨1, 0x594#32, .down⟩] false false
    [.tick, .workerGoesOn true, .workerGoesOn true, .callback, .mainGoesOn, .mainGoesOn,
      .workerGoesOn true, .workerGoesOn true, .workerGoesOn true, .workerGoesOn true,
      .workerGoesOn true, .mainGoesOn, .mainGoesOn, .mainGoesOn]

theorem quiesce_is_final_mid_page :
    midPage.Quiesced ∧ ∀ a, .openConnection a ∉
      (Transducer.run keeperStep midPage [.removed .usb, .workerGoesOn true, .callback]).2 := by
  have hq : midPage.Quiesced := ⟨by decide, by decide⟩
  exact ⟨hq, (quiesce_is_final _ _ _ _ hq _).1⟩

end MagicTrackpad
