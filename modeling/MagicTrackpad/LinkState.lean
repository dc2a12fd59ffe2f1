import MagicTrackpad.Frame
import MagicTrackpad.Lib.Transducer
import MagicTrackpad.Presence

/-!
# The link daemon (`tools/mt2_linkstated.m`) and its gate against paging on USB

The daemon pages the paired trackpad over Bluetooth whenever it is off, and must not do so while
the trackpad is on its cable: a page that succeeds then takes it off USB. What it asks is not
whether a USB reader is present but the view of its presence observer.

A run of `linkStep` interleaves the readers of both transports, which come and go by themselves
and leave an edge each time, the delivery of these edges in order, window timers, the jobs of the
serial paging queue, and the shutdown. The answers of `[IOBluetoothDevice pairedDevices]` come with
the job that asks. A job runs as one step, and so does the quiesce.

* `usbTracked_step`: while a USB reader is present, the observer will read USB once the edges on
  their way are in. Every step that does not overlap the transports (`SingleTransport`) keeps this.
* `never_pages_on_usb`: so in every run without such an overlap, a reconnect that runs with all
  edges delivered opens a connection only if no USB reader is present.
* `overlap_pages`, `start_overlap_pages`: after any overlap, some continuation pages with the USB
  reader present. The reader of a page already in flight is such an overlap
  (`page_in_flight_pages_again`).
-/

namespace MagicTrackpad

open Lib

/-! ## The policy (`tools/mt2_reconnect_policy.h`, `tools/mt2_cod_match.h`) -/

/-- `mt2_cod_is_mt2`: the device-class field, service bits masked off. -/
def mt2CodIsMt2 (cod : U32) : Bool := cod &&& 0x1FFF#32 == 0x594#32

/-- `mt2_reconnect_should_page`. -/
def mt2ReconnectShouldPage (cod : U32) (isConnected usbPresent : Bool) : Bool :=
  mt2CodIsMt2 cod && !isConnected && !usbPresent

/-- What the daemon reads of an `IOBluetoothDevice`. -/
structure PairedDevice where
  /-- `addressString`. -/
  address : Nat
  /-- `getClassOfDevice`. -/
  cod : U32
  isConnected : Bool
  deriving DecidableEq, Repr

/-- What the daemon does to the outside. -/
inductive LinkAction
  | openConnection (address : Nat)
  | closeConnection (address : Nat)
  | kickHidd
  deriving DecidableEq, Repr

/-- `reconnect_matched`. -/
def reconnectMatched (terminating : Bool) (obs : Option PresenceObserver)
    (devs : List PairedDevice) : List LinkAction :=
  if terminating then []
  else
    let usbPresent := presenceObserverState obs == .usb
    (devs.filter fun d => mt2ReconnectShouldPage d.cod d.isConnected usbPresent).map
      fun d => .openConnection d.address

/-- `do_disconnect_mt2`. -/
def doDisconnectMt2 (devs : List PairedDevice) : List LinkAction :=
  (devs.filter fun d => mt2CodIsMt2 d.cod && d.isConnected).map fun d => .closeConnection d.address

/-- `disconnect_matched`. -/
def disconnectMatched (terminating : Bool) (devs : List PairedDevice) : List LinkAction :=
  if terminating then [] else doDisconnectMt2 devs

/-! ## The daemon and its world -/

/-- What asked for a reconnect: the keeper timer or the USB-removal edge. -/
inductive ReconnectWhy
  | timer
  | usbRemove
  deriving DecidableEq, Repr

/-- A block on `reconnect_queue`. -/
inductive LinkJob
  | reconnect (why : ReconnectWhy)
  /-- The yield of the USB-appear edge. -/
  | disconnect
  deriving DecidableEq, Repr

/-- The daemon, with the readers and the edges it has not been told of yet. -/
structure LinkDaemon where
  /-- `MT2USBReader` instances present. -/
  usbReaders : Nat
  /-- `MT2BTReader` instances present. -/
  btReaders : Nat
  /-- Edges that are not delivered yet, oldest first. -/
  edges : List PresenceEvent
  /-- `g_obs`. -/
  obs : PresenceObserver
  /-- `reconnect_queue`, oldest first. -/
  queue : List LinkJob
  /-- Pending `kick_hidd` blocks. -/
  kicks : Nat
  /-- `g_terminating`; the keeper's source is cancelled when it is set. -/
  terminating : Bool
  deriving DecidableEq, Repr

/-- The instances of a reader class. -/
def LinkDaemon.readers (w : LinkDaemon) : Transport → Nat
  | .usb => w.usbReaders
  | .bt => w.btReaders

def LinkDaemon.setReaders (w : LinkDaemon) (t : Transport) (n : Nat) : LinkDaemon :=
  match t with
  | .usb => { w with usbReaders := n }
  | .bt => { w with btReaders := n }

/-- `on_presence`. -/
def onPresence (w : LinkDaemon) (call : PresenceCall) : LinkDaemon :=
  match call.2 with
  | .usbRemove => { w with queue := w.queue ++ [.reconnect .usbRemove] }
  | .usbAppear => { w with queue := w.queue ++ [.disconnect], kicks := w.kicks + 1 }
  | _ => w

/-- The observer moves, and its callbacks run. -/
def LinkDaemon.observe (w : LinkDaemon) (r : PresenceObserver × List PresenceCall) : LinkDaemon :=
  r.2.foldl onPresence { w with obs := r.1 }

/-- `main` up to the run loop: the observer is created and reconciled once. -/
def LinkDaemon.start (usbReaders btReaders : Nat) : LinkDaemon :=
  LinkDaemon.observe
    { usbReaders := usbReaders
      btReaders := btReaders
      edges := []
      obs := presenceObserverCreate
      queue := []
      kicks := 0
      terminating := false }
    (presenceObserverReconcile presenceObserverCreate (0 < btReaders) (0 < usbReaders))

/-- What can happen. -/
inductive LinkEvent
  | appear (t : Transport)
  | terminate (t : Transport)
  /-- The oldest edge reaches the observer. -/
  | deliver
  /-- An armed window timer fires. -/
  | window (my : Nat)
  /-- The keeper timer. -/
  | tick
  /-- The oldest block of the paging queue runs. -/
  | runJob (devs : List PairedDevice)
  /-- A `kick_hidd` block runs. -/
  | kick
  /-- SIGTERM, or the power callback. -/
  | quiesce (devs : List PairedDevice)
  deriving DecidableEq, Repr

/-- A block of the paging queue. -/
def LinkJob.run (w : LinkDaemon) (devs : List PairedDevice) : LinkJob → List LinkAction
  | .reconnect _ => reconnectMatched w.terminating (some w.obs) devs
  | .disconnect => disconnectMatched w.terminating devs

/-- `quiesce_for_shutdown`: the blocks still queued find `g_terminating` set and do nothing. -/
def quiesceForShutdown (w : LinkDaemon) (devs : List PairedDevice) :
    LinkDaemon × List LinkAction :=
  if w.terminating then (w, [])
  else ({ w with terminating := true, queue := [] }, doDisconnectMt2 devs)

/-- One event. -/
def linkStep : Transducer LinkDaemon LinkEvent LinkAction
  | w, .appear t =>
    ({ w.setReaders t (w.readers t + 1) with edges := w.edges ++ [t.appearEdge] }, [])
  | w, .terminate t =>
    if 0 < w.readers t then
      ({ w.setReaders t (w.readers t - 1) with edges := w.edges ++ [t.removeEdge] }, [])
    else (w, [])
  | w, .deliver =>
    match w.edges with
    | e :: rest => (LinkDaemon.observe { w with edges := rest } (obsSmEvent w.obs e), [])
    | [] => (w, [])
  | w, .window my =>
    if my ∈ w.obs.windows then (w.observe (obsWindowFired w.obs my), []) else (w, [])
  | w, .tick =>
    if w.terminating then (w, []) else ({ w with queue := w.queue ++ [.reconnect .timer] }, [])
  | w, .runJob devs =>
    match w.queue with
    | job :: rest => ({ w with queue := rest }, job.run w devs)
    | [] => (w, [])
  | w, .kick =>
    if 0 < w.kicks then
      ({ w with kicks := w.kicks - 1 }, if w.terminating then [] else [.kickHidd])
    else (w, [])
  | w, .quiesce devs => quiesceForShutdown w devs

/-! ## The property and the condition -/

/-- A reconnect that runs with all edges delivered opens a connection only if no USB reader is
present. -/
def OffCable (w : LinkDaemon) : LinkEvent → Prop
  | .runJob devs => w.edges = [] →
    (∃ a, .openConnection a ∈ (linkStep w (.runJob devs)).2) → w.usbReaders = 0
  | _ => True

/-- No Bluetooth reader appears beside a USB reader, and no USB reader leaves another one behind;
after the shutdown began it no longer matters. -/
def SingleTransport (w : LinkDaemon) : LinkEvent → Prop
  | .appear .bt => w.terminating = false → w.usbReaders = 0
  | .terminate .usb => w.terminating = false → w.usbReaders ≤ 1
  | _ => True

/-- The answer the gate will give once the edges on their way are in. -/
def LinkDaemon.gateAhead (w : LinkDaemon) : Bool :=
  w.edges.foldl gateStep (w.obs.state == .usb)

/-- While a USB reader is present, the gate is closed or about to be. -/
def UsbTracked (w : LinkDaemon) : Prop :=
  w.terminating = false → 0 < w.usbReaders → w.gateAhead = true

/-! ## One event -/

/-- What `on_presence` leaves alone: all but the paging queue and the pending kicks. -/
structure SameLink (w v : LinkDaemon) : Prop where
  usbReaders : v.usbReaders = w.usbReaders
  edges : v.edges = w.edges
  obs : v.obs = w.obs
  terminating : v.terminating = w.terminating

theorem sameLink_onPresence (w : LinkDaemon) (call : PresenceCall) :
    SameLink w (onPresence w call) := by
  obtain ⟨action, event⟩ := call
  cases event <;> exact ⟨rfl, rfl, rfl, rfl⟩

theorem SameLink.trans {u v w : LinkDaemon} (huv : SameLink u v) (hvw : SameLink v w) :
    SameLink u w where
  usbReaders := hvw.usbReaders.trans huv.usbReaders
  edges := hvw.edges.trans huv.edges
  obs := hvw.obs.trans huv.obs
  terminating := hvw.terminating.trans huv.terminating

/-- The callbacks of the observer leave its own state alone. -/
theorem sameLink_observe (w : LinkDaemon) (r : PresenceObserver × List PresenceCall) :
    SameLink { w with obs := r.1 } (w.observe r) := by
  unfold LinkDaemon.observe
  generalize { w with obs := r.1 } = v
  induction r.2 generalizing v with
  | nil => exact ⟨rfl, rfl, rfl, rfl⟩
  | cons call calls ih => exact (sameLink_onPresence v call).trans (ih _)

theorem SameLink.gateAhead {w v : LinkDaemon} (h : SameLink w v) : v.gateAhead = w.gateAhead := by
  unfold LinkDaemon.gateAhead
  rw [h.edges, h.obs]

theorem SameLink.usbTracked {w v : LinkDaemon} (h : SameLink w v) (hw : UsbTracked w) :
    UsbTracked v := by
  intro hterm husb
  rw [h.terminating] at hterm
  rw [h.usbReaders] at husb
  rw [h.gateAhead]
  exact hw hterm husb

/-- An edge joins the ones on their way. -/
theorem gateAhead_edge {w v : LinkDaemon} {e : PresenceEvent} (hobs : v.obs = w.obs)
    (hedges : v.edges = w.edges ++ [e]) : v.gateAhead = gateStep w.gateAhead e := by
  unfold LinkDaemon.gateAhead
  rw [hobs, hedges, List.foldl_append, List.foldl_cons, List.foldl_nil]

theorem gateAhead_appear (w : LinkDaemon) (t : Transport) :
    (linkStep w (.appear t)).1.gateAhead = gateStep w.gateAhead t.appearEdge := by
  cases t <;> exact gateAhead_edge rfl rfl

theorem gateAhead_terminate {w : LinkDaemon} {t : Transport} (h : 0 < w.readers t) :
    (linkStep w (.terminate t)).1.gateAhead = gateStep w.gateAhead t.removeEdge := by
  simp only [linkStep, if_pos h]
  cases t <;> exact gateAhead_edge rfl rfl

/-- Delivery does not change what the gate will read. -/
theorem deliver_spec {w : LinkDaemon} {e : PresenceEvent} {rest : List PresenceEvent}
    (h : w.edges = e :: rest) :
    ((linkStep w .deliver).1.edges = rest ∧
      (linkStep w .deliver).1.usbReaders = w.usbReaders ∧
      (linkStep w .deliver).1.terminating = w.terminating) ∧
      (linkStep w .deliver).1.gateAhead = w.gateAhead := by
  have hstep : (linkStep w .deliver).1 =
      LinkDaemon.observe { w with edges := rest } (obsSmEvent w.obs e) := by
    simp only [linkStep, h]
  have hsame := sameLink_observe { w with edges := rest } (obsSmEvent w.obs e)
  rw [hstep]
  refine ⟨⟨hsame.edges, hsame.usbReaders, hsame.terminating⟩, ?_⟩
  rw [hsame.gateAhead]
  simp only [LinkDaemon.gateAhead, h, List.foldl_cons, gate_obsSmEvent]

/-! ## The invariant -/

/-- The daemon starts with the gate closed iff USB is the only transport present. -/
theorem gateAhead_start (usbReaders btReaders : Nat) :
    (LinkDaemon.start usbReaders btReaders).gateAhead =
      (decide (0 < usbReaders) && !decide (0 < btReaders)) :=
  gate_reconcile_create _ _

theorem usbTracked_start {usbReaders btReaders : Nat} (h : ¬ (0 < usbReaders ∧ 0 < btReaders)) :
    UsbTracked (LinkDaemon.start usbReaders btReaders) := by
  intro _ husb
  have husb' : 0 < usbReaders := husb
  have hbt : btReaders = 0 := Nat.eq_zero_of_not_pos fun hbt => h ⟨husb', hbt⟩
  rw [gateAhead_start]
  simp [husb', hbt]

/-- **One step without an overlap** keeps the gate closed, or about to be, while a USB reader is
present. -/
theorem usbTracked_step {w : LinkDaemon} (hw : UsbTracked w) {e : LinkEvent}
    (he : SingleTransport w e) : UsbTracked (linkStep w e).1 := by
  cases e with
  | appear t =>
    intro hterm husb
    rw [gateAhead_appear]
    cases t with
    | usb => rfl
    | bt => exact absurd (he hterm) (Nat.ne_of_gt husb)
  | terminate t =>
    by_cases hr : 0 < w.readers t
    · intro hterm husb
      rw [gateAhead_terminate hr]
      simp only [linkStep, if_pos hr] at hterm husb
      cases t with
      | usb =>
        -- The reader that left was the only one.
        have hone : w.usbReaders ≤ 1 := he hterm
        exact absurd husb (by
          show ¬ 0 < w.usbReaders - 1
          omega)
      | bt => exact hw hterm husb
    · simp only [linkStep, if_neg hr]
      exact hw
  | deliver =>
    cases hedges : w.edges with
    | nil =>
      simp only [linkStep, hedges]
      exact hw
    | cons e rest =>
      obtain ⟨⟨-, hreaders, hterm'⟩, hahead⟩ := deliver_spec hedges
      intro hterm husb
      rw [hterm'] at hterm
      rw [hreaders] at husb
      rw [hahead]
      exact hw hterm husb
  | window my =>
    by_cases hmem : my ∈ w.obs.windows
    · simp only [linkStep, if_pos hmem]
      refine (sameLink_observe _ _).usbTracked fun hterm husb => ?_
      rw [LinkDaemon.gateAhead, gate_obsWindowFired]
      exact hw hterm husb
    · simp only [linkStep, if_neg hmem]
      exact hw
  | tick =>
    simp only [linkStep]
    split
    · exact hw
    · exact hw
  | runJob devs =>
    simp only [linkStep]
    split
    · exact hw
    · exact hw
  | kick =>
    simp only [linkStep]
    split
    · exact hw
    · exact hw
  | quiesce devs =>
    simp only [linkStep, quiesceForShutdown]
    split
    · exact hw
    · exact fun hterm => absurd hterm (by simp)

/-! ## Paging -/

/-- With the gate closed nothing is paged. -/
theorem reconnectMatched_gated {o : PresenceObserver} (ho : o.state = .usb) (terminating : Bool)
    (devs : List PairedDevice) : reconnectMatched terminating (some o) devs = [] := by
  simp [reconnectMatched, presenceObserverState, ho, mt2ReconnectShouldPage]

theorem not_openConnection_disconnectMatched (terminating : Bool) (devs : List PairedDevice)
    (a : Nat) : .openConnection a ∉ disconnectMatched terminating devs := by
  simp [disconnectMatched, doDisconnectMt2]

/-- A connection is opened only by a reconnect that found the gate open, before the shutdown. -/
theorem gate_open_of_openConnection {w : LinkDaemon} {devs : List PairedDevice} {a : Nat}
    (h : .openConnection a ∈ (linkStep w (.runJob devs)).2) :
    w.terminating = false ∧ w.obs.state ≠ .usb := by
  cases hq : w.queue with
  | nil => simp [linkStep, hq] at h
  | cons job rest =>
    simp only [linkStep, hq] at h
    cases job with
    | disconnect => exact absurd h (not_openConnection_disconnectMatched _ _ a)
    | reconnect why =>
      constructor
      · by_contra hterm
        rw [Bool.not_eq_false] at hterm
        simp [LinkJob.run, reconnectMatched, hterm] at h
      · intro hstate
        rw [LinkJob.run, reconnectMatched_gated hstate] at h
        exact absurd h List.not_mem_nil

/-- With all edges delivered the gate reads what it will read. -/
theorem gateAhead_of_delivered {w : LinkDaemon} (h : w.edges = []) :
    w.gateAhead = (w.obs.state == .usb) := by
  rw [LinkDaemon.gateAhead, h, List.foldl_nil]

/-- **The daemon never pages Bluetooth while the trackpad is on USB**, in a run without an overlap
of the transports. -/
theorem never_pages_on_usb (usbReaders btReaders : Nat) (h : ¬ (0 < usbReaders ∧ 0 < btReaders))
    (es : List LinkEvent)
    (hes : Transducer.Along linkStep SingleTransport (LinkDaemon.start usbReaders btReaders) es) :
    Transducer.Along linkStep OffCable (LinkDaemon.start usbReaders btReaders) es := by
  refine Transducer.along_of_invariant (I := UsbTracked)
    (fun w e hw he => ⟨usbTracked_step hw he, ?_⟩) (usbTracked_start h) hes
  cases e with
  | runJob devs =>
    rintro hedges ⟨a, ha⟩
    obtain ⟨hterm, hopen⟩ := gate_open_of_openConnection ha
    by_contra husb
    have hahead := hw hterm (Nat.pos_of_ne_zero husb)
    rw [gateAhead_of_delivered hedges, beq_iff_eq] at hahead
    exact hopen hahead
  | appear t => trivial
  | terminate t => trivial
  | deliver => trivial
  | window my => trivial
  | tick => trivial
  | kick => trivial
  | quiesce devs => trivial

/-! ## The condition is exact -/

/-- The trackpad as the daemon finds it while it is on its cable. -/
def cabledMt2 : PairedDevice := ⟨0, 0x594#32, false⟩

/-- An open gate pages the cabled trackpad. -/
theorem openConnection_reconnectMatched {o : PresenceObserver} (ho : o.state ≠ .usb) :
    .openConnection 0 ∈ reconnectMatched false (some o) [cabledMt2] := by
  have hgate : (o.state == .usb) = false := beq_eq_false_iff_ne.mpr ho
  simp [reconnectMatched, presenceObserverState, hgate, mt2ReconnectShouldPage, cabledMt2,
    mt2CodIsMt2]

/-- Once the edges are in, a queue that holds a reconnect pages with the USB reader present. -/
theorem queue_pages {w : LinkDaemon} (hterm : w.terminating = false) (husb : 0 < w.usbReaders)
    (hedges : w.edges = []) (hopen : w.obs.state ≠ .usb) {why : ReconnectWhy}
    {queue : List LinkJob} (hq : w.queue = queue) (hmem : .reconnect why ∈ queue) :
    ∃ es, ¬ Transducer.Along linkStep OffCable w es := by
  induction queue generalizing w with
  | nil => exact absurd hmem List.not_mem_nil
  | cons job rest ih =>
    have hstep : linkStep w (.runJob [cabledMt2]) =
        ({ w with queue := rest }, job.run w [cabledMt2]) := by
      simp only [linkStep, hq]
    cases job with
    | reconnect why =>
      refine ⟨[.runJob [cabledMt2]], fun h => ?_⟩
      have hpage : .openConnection 0 ∈ (linkStep w (.runJob [cabledMt2])).2 := by
        rw [hstep, LinkJob.run, hterm]
        exact openConnection_reconnectMatched hopen
      exact absurd (h.1 hedges ⟨0, hpage⟩) (Nat.ne_of_gt husb)
    | disconnect =>
      have hrest : .reconnect why ∈ rest := by
        rcases List.mem_cons.mp hmem with h | h
        · cases h
        · exact h
      obtain ⟨es, hes⟩ := ih (w := { w with queue := rest }) hterm husb hedges hopen rfl hrest
      refine ⟨.runJob [cabledMt2] :: es, fun h => hes ?_⟩
      have htail := h.2
      rwa [hstep] at htail

/-- **A gate that will read open while a USB reader is present pages in some continuation**: the
edges come in, and the next tick runs. -/
theorem stray_gate_pages {w : LinkDaemon} (hterm : w.terminating = false)
    (husb : 0 < w.usbReaders) (hstray : w.gateAhead = false) :
    ∃ es, ¬ Transducer.Along linkStep OffCable w es := by
  generalize hedges : w.edges = edges
  induction edges generalizing w with
  | nil =>
    have hopen : w.obs.state ≠ .usb := by
      rw [gateAhead_of_delivered hedges] at hstray
      exact beq_eq_false_iff_ne.mp hstray
    have htick : (linkStep w .tick).1 = { w with queue := w.queue ++ [.reconnect .timer] } := by
      simp [linkStep, hterm]
    have hmem : .reconnect .timer ∈ w.queue ++ [.reconnect .timer] :=
      List.mem_append_right _ List.mem_cons_self
    obtain ⟨es, hes⟩ := queue_pages (w := { w with queue := w.queue ++ [.reconnect .timer] })
      hterm husb hedges hopen rfl hmem
    refine ⟨.tick :: es, fun h => hes ?_⟩
    have htail := h.2
    rwa [htick] at htail
  | cons e rest ih =>
    obtain ⟨⟨hrest, hreaders, hterm'⟩, hahead⟩ := deliver_spec hedges
    obtain ⟨es, hes⟩ := ih (w := (linkStep w .deliver).1) (hterm'.trans hterm)
      (by rw [hreaders]; exact husb) (hahead.trans hstray) hrest
    exact ⟨.deliver :: es, fun h => hes h.2⟩

/-- **Every overlap is paid for**: after it, some continuation pages with a USB reader present. -/
theorem overlap_pages {w : LinkDaemon} {e : LinkEvent} (h : ¬ SingleTransport w e) :
    ∃ es, ¬ Transducer.Along linkStep OffCable w (e :: es) := by
  suffices hpages : ∃ es, ¬ Transducer.Along linkStep OffCable (linkStep w e).1 es by
    obtain ⟨es, hes⟩ := hpages
    exact ⟨es, fun hall => hes hall.2⟩
  cases e with
  | appear t =>
    cases t with
    | usb => exact absurd trivial h
    | bt =>
      obtain ⟨hterm, husb⟩ := Classical.not_imp.mp h
      exact stray_gate_pages hterm (Nat.pos_of_ne_zero husb) (gateAhead_appear w .bt)
  | terminate t =>
    cases t with
    | bt => exact absurd trivial h
    | usb =>
      obtain ⟨hterm, husb⟩ := Classical.not_imp.mp h
      have hpos : 0 < w.readers .usb := by
        show 0 < w.usbReaders
        omega
      have hahead := gateAhead_terminate hpos
      simp only [linkStep, if_pos hpos] at hahead ⊢
      refine stray_gate_pages hterm ?_ hahead
      show 0 < w.usbReaders - 1
      omega
  | _ => exact absurd trivial h

/-- Both transports present at the start: the observer takes Bluetooth, and the gate is open. -/
theorem start_overlap_pages {usbReaders btReaders : Nat} (husb : 0 < usbReaders)
    (hbt : 0 < btReaders) :
    ∃ es, ¬ Transducer.Along linkStep OffCable (LinkDaemon.start usbReaders btReaders) es := by
  refine stray_gate_pages rfl husb ?_
  rw [gateAhead_start]
  simp [hbt]

/-- The trackpad is plugged in, unplugged, and picked up over Bluetooth. -/
theorem never_pages_on_usb_unplugged :
    Transducer.Along linkStep OffCable (LinkDaemon.start 0 0)
      [.appear .usb, .deliver, .tick, .runJob [cabledMt2], .runJob [cabledMt2], .terminate .usb,
        .deliver, .appear .bt, .runJob [cabledMt2]] :=
  never_pages_on_usb 0 0 (by decide)
    [.appear .usb, .deliver, .tick, .runJob [cabledMt2], .runJob [cabledMt2], .terminate .usb,
      .deliver, .appear .bt, .runJob [cabledMt2]]
    ⟨trivial, trivial, trivial, trivial, trivial, fun _ => by decide, trivial, fun _ => by decide,
      trivial, trivial⟩

/-- The cable goes in during a page, the page wins, the yield closes the link again, and the next
tick pages the trackpad off its cable. -/
theorem page_in_flight_pages_again :
    ¬ Transducer.Along linkStep OffCable (LinkDaemon.start 0 0)
      [.appear .usb, .deliver, .appear .bt, .deliver,
        .runJob [{ cabledMt2 with isConnected := true }], .terminate .bt, .deliver, .window 3,
        .tick, .runJob [cabledMt2]] := by
  intro h
  have hpage := h.2.2.2.2.2.2.2.2.2.1
  exact absurd (hpage (by decide) ⟨0, by decide⟩) (by decide)

end MagicTrackpad
