import MagicTrackpad.Session
import MagicTrackpad.Lib.History

/-!
# The transport nub (`kext-gesture/MavericksVoodooInputHost.cpp`)

`Host` is the session next to `fXport`, the sink that the active reader registered, and the one-shot
timer. Every entry point takes the session lock first and leaves it last, so that one event is one
call. The kernel may run `idleTimeout` at any moment, also for a timer armed in an earlier
connection, and any reader may call any entry point at any moment.

* A sink is three function pointers and a context, with 0 for NULL; a call is recorded with the
  pointer and the context it is made with (`HostCall.callee`).
* `Readers` is any family of readers with different non-null sources, of which no two share a
  callback: a function together with its context.

Results:
* `callee_hostStep`: a step calls functions of `fXport` only.
* `registered_step`: `fXport` and `active_source` always change together, and name the reader that
  was the last to connect and has not closed since.
* `called_only_while_registered`: so no callback of a reader runs outside its own registration, and
  a close or a frame from anyone else does nothing at all.
-/

namespace MagicTrackpad

open Lib

/-- `mavericks_transport_sink_t`. -/
structure TransportSink where
  feedFrame : Addr
  postButtonEdge : Addr
  injectEncoded : Addr
  ctx : Addr
  deriving DecidableEq

/-- The sink with every field cleared. -/
def TransportSink.cleared : TransportSink := ⟨0, 0, 0, 0⟩

/-- The callbacks of a sink: its functions that are there, each with the context. -/
def TransportSink.callbacks (x : TransportSink) : List (Addr × Addr) :=
  ([x.feedFrame, x.postButtonEdge, x.injectEncoded].filter (· ≠ 0)).map fun fn => (fn, x.ctx)

/-- What an entry point does to the outside. -/
inductive HostCall
  | feedFrame (fn ctx : Addr) (frame : TouchFrame)
  | postButtonEdge (fn ctx : Addr) (mask : U32)
  | injectEncoded (fn ctx : Addr) (bytes : List U8)
  | setTimeoutMS (ms : U32)
  | cancelTimeout

/-- The function and the context of a sink call. -/
def HostCall.callee : HostCall → Option (Addr × Addr)
  | .feedFrame fn ctx _ => some (fn, ctx)
  | .postButtonEdge fn ctx _ => some (fn, ctx)
  | .injectEncoded fn ctx _ => some (fn, ctx)
  | .setTimeoutMS _ => none
  | .cancelTimeout => none

/-- `MavericksVoodooInputHost`; `fIdleTimer` says whether the timer was allocated. -/
structure Host where
  fSession : Session
  fXport : TransportSink
  fIdleTimer : Bool

/-- `sink_feed_frame`, `sink_post_button_edge` and `sink_arm_timer`. -/
def trampoline (h : Host) : SinkCall → List HostCall
  | .feedFrame frame =>
    if h.fXport.feedFrame ≠ 0 then [.feedFrame h.fXport.feedFrame h.fXport.ctx frame] else []
  | .postButtonEdge mask =>
    if h.fXport.postButtonEdge ≠ 0 then
      [.postButtonEdge h.fXport.postButtonEdge h.fXport.ctx mask] else []
  | .armTimer ms => if h.fIdleTimer then [.setTimeoutMS ms] else []

/-- The calls `fIdleTimer->cancelTimeout()` makes. -/
def cancelIdle (h : Host) : List HostCall := if h.fIdleTimer then [.cancelTimeout] else []

/-- The fields `start` sets, in memory that held `mem`. -/
def hostStart (mem : Session) (fIdleTimer : Bool) : Host :=
  { fSession :=
      { activeSource := 0
        mode := .eventDriven
        settleUntilMs := 0#32
        lastButton := 0#32
        policy := policyDefault
        lifecycle := lifecycleReset mem.lifecycle }
    fXport := .cleared
    fIdleTimer := fIdleTimer }

/-- `connectionEstablished`. -/
def connectionEstablished (h : Host) (source : Source) (mode : TransportMode)
    (policy : SessionPolicy) (sink : TransportSink) (nowMs : U32) : Host × List HostCall :=
  ({ h with
      fXport := sink
      fSession := sessionConnect h.fSession source mode policy nowMs }, cancelIdle h)

/-- `connectionClosed`. -/
def connectionClosed (h : Host) (source : Source) : Host × List HostCall :=
  if source = h.fSession.activeSource then
    ({ h with
        fXport := .cleared
        fSession :=
          { h.fSession with
            activeSource := 0
            lifecycle := lifecycleReset h.fSession.lifecycle } }, cancelIdle h)
  else (h, [])

/-- `submitFrame`. -/
def submitFrame (h : Host) (source : Source) (tf : TouchFrame) (nowMs : U32) :
    Host × List HostCall :=
  let r := sessionFrame h.fSession source tf nowMs
  ({ h with fSession := r.1 }, r.2.flatMap (trampoline h))

/-- `kIOReturnNotReady`. -/
def kIOReturnNotReady : U32 := 0xe00002d8#32

/-- `feedFrame`; `answer` is what the sink's `inject_encoded` returns, if it is called. -/
def feedFrame (h : Host) (bytes : List U8) (answer : U32) : U32 × List HostCall :=
  if h.fXport.injectEncoded ≠ 0 then
    (answer, [.injectEncoded h.fXport.injectEncoded h.fXport.ctx bytes])
  else (kIOReturnNotReady, [])

/-- `idleTimeout`. -/
def idleTimeout (h : Host) : Host × List HostCall :=
  let r := sessionTimer h.fSession
  ({ h with fSession := r.1 }, r.2.flatMap (trampoline h))

/-- The readers, any number of them. -/
structure Readers (ρ : Type) where
  source : ρ → Source
  sink : ρ → TransportSink
  source_ne_zero : ∀ r, source r ≠ 0
  source_injective : ∀ r q, source r = source q → r = q
  /-- A callback belongs to one reader. -/
  callbacks_disjoint : ∀ r q c, c ∈ (sink r).callbacks → c ∈ (sink q).callbacks → r = q

/-- One call of an entry point, by a reader, the user client or the kernel. -/
inductive HostEvent (ρ : Type)
  | established (r : ρ) (mode : TransportMode) (policy : SessionPolicy) (nowMs : U32)
  | closed (r : ρ)
  | submit (r : ρ) (tf : TouchFrame) (nowMs : U32)
  | feed (bytes : List U8) (answer : U32)
  | idle

variable {ρ : Type}

/-- One event. -/
def hostStep (R : Readers ρ) : Transducer Host (HostEvent ρ) HostCall
  | h, .established r mode policy nowMs =>
    connectionEstablished h (R.source r) mode policy (R.sink r) nowMs
  | h, .closed r => connectionClosed h (R.source r)
  | h, .submit r tf nowMs => submitFrame h (R.source r) tf nowMs
  | h, .feed bytes answer => (h, (feedFrame h bytes answer).2)
  | h, .idle => idleTimeout h

/-! ## What a step calls -/

theorem mem_callbacks {x : TransportSink} {c : Addr × Addr} :
    c ∈ x.callbacks ↔ c.1 ≠ 0 ∧ c.2 = x.ctx ∧
      (c.1 = x.feedFrame ∨ c.1 = x.postButtonEdge ∨ c.1 = x.injectEncoded) := by
  obtain ⟨fn, ctx⟩ := c
  rw [TransportSink.callbacks, List.mem_map]
  constructor
  · rintro ⟨f, hf, heq⟩
    obtain ⟨rfl, rfl⟩ := Prod.mk.inj heq
    simpa [and_comm] using hf
  · rintro ⟨hne, rfl, hfn⟩
    have hmem : fn ∈ [x.feedFrame, x.postButtonEdge, x.injectEncoded] := by simpa using hfn
    exact ⟨fn, List.mem_filter.mpr ⟨hmem, by simpa using hne⟩, rfl⟩

/-- A trampoline calls a callback of the sink, or sets the timer. -/
theorem callee_trampoline {h : Host} {sc : SinkCall} {call : HostCall}
    (hcall : call ∈ trampoline h sc) {c : Addr × Addr} (hc : call.callee = some c) :
    c ∈ h.fXport.callbacks := by
  cases sc with
  | feedFrame frame =>
    by_cases hne : h.fXport.feedFrame ≠ 0
    · rw [trampoline, if_pos hne, List.mem_singleton] at hcall
      subst hcall
      obtain rfl := Option.some.inj hc
      exact mem_callbacks.mpr ⟨hne, rfl, Or.inl rfl⟩
    · rw [trampoline, if_neg hne] at hcall
      exact absurd hcall List.not_mem_nil
  | postButtonEdge mask =>
    by_cases hne : h.fXport.postButtonEdge ≠ 0
    · rw [trampoline, if_pos hne, List.mem_singleton] at hcall
      subst hcall
      obtain rfl := Option.some.inj hc
      exact mem_callbacks.mpr ⟨hne, rfl, Or.inr (Or.inl rfl)⟩
    · rw [trampoline, if_neg hne] at hcall
      exact absurd hcall List.not_mem_nil
  | armTimer ms =>
    rw [trampoline] at hcall
    split at hcall
    · rw [List.mem_singleton.mp hcall] at hc
      exact absurd hc (Option.some_ne_none c).symm
    · exact absurd hcall List.not_mem_nil

theorem callee_cancelIdle {h : Host} {call : HostCall} (hcall : call ∈ cancelIdle h) :
    call.callee = none := by
  rw [cancelIdle] at hcall
  split at hcall
  · rw [List.mem_singleton.mp hcall]
    rfl
  · exact absurd hcall List.not_mem_nil

/-- A step that reads the sink calls callbacks of it only; it registers and clears without a
call. -/
theorem callee_hostStep {R : Readers ρ} {h : Host} {e : HostEvent ρ} {call : HostCall}
    (hcall : call ∈ (hostStep R h e).2) {c : Addr × Addr} (hc : call.callee = some c) :
    c ∈ h.fXport.callbacks := by
  cases e with
  | established r mode policy nowMs =>
    rw [callee_cancelIdle hcall] at hc
    exact absurd hc (Option.some_ne_none c).symm
  | closed r =>
    simp only [hostStep, connectionClosed] at hcall
    split at hcall
    · rw [callee_cancelIdle hcall] at hc
      exact absurd hc (Option.some_ne_none c).symm
    · exact absurd hcall List.not_mem_nil
  | submit r tf nowMs =>
    obtain ⟨sc, -, hsc⟩ := List.mem_flatMap.mp hcall
    exact callee_trampoline hsc hc
  | feed bytes answer =>
    simp only [hostStep, feedFrame] at hcall
    split at hcall
    · next hne =>
      rw [List.mem_singleton] at hcall
      subst hcall
      obtain rfl := Option.some.inj hc
      exact mem_callbacks.mpr ⟨hne, rfl, Or.inr (Or.inr rfl)⟩
    · exact absurd hcall List.not_mem_nil
  | idle =>
    obtain ⟨sc, -, hsc⟩ := List.mem_flatMap.mp hcall
    exact callee_trampoline hsc hc

/-! ## Who is registered -/

/-- `connectionEstablished` by `r`. -/
def HostEvent.Registers (r : ρ) : HostEvent ρ → Prop
  | .established q _ _ _ => q = r
  | _ => False

/-- `connectionClosed` by `r`, or `connectionEstablished` by anyone. -/
def HostEvent.Ends (r : ρ) : HostEvent ρ → Prop
  | .established _ _ _ _ => True
  | .closed q => q = r
  | _ => False

/-- After the history `es` the reader's registration is on: it connected, and since then it has not
closed and nobody has connected. -/
def RegisteredSince (r : ρ) (es : List (HostEvent ρ)) : Prop :=
  Since (fun _ e => e.Registers r) (fun e => ¬ e.Ends r) es

/-- The sink and the source of the reader whose registration is on, or neither. -/
inductive Registered (R : Readers ρ) (es : List (HostEvent ρ)) (h : Host) : Prop
  | nobody (hsource : h.fSession.activeSource = 0) (hxport : h.fXport = .cleared)
      (hsince : ∀ r, ¬ RegisteredSince r es)
  | reader (r : ρ) (hsource : h.fSession.activeSource = R.source r) (hxport : h.fXport = R.sink r)
      (hsince : ∀ q, RegisteredSince q es ↔ q = r)

theorem activeSource_sessionStep (s : Session) (i : SessionInput) :
    (sessionStep s i).1.activeSource = s.activeSource :=
  congrArg Prod.fst (config_sessionStep s i)

/-- An event that neither connects nor closes leaves every registration as it is. -/
theorem registeredSince_concat_other {es : List (HostEvent ρ)} {e : HostEvent ρ}
    (hreg : ∀ r, ¬ e.Registers r) (hend : ∀ r, ¬ e.Ends r) (r : ρ) :
    RegisteredSince r (es ++ [e]) ↔ RegisteredSince r es := by
  rw [RegisteredSince, since_concat]
  exact ⟨fun h => (h.resolve_left (hreg r)).1, fun h => Or.inr ⟨h, hend r⟩⟩

theorem Registered.other {R : Readers ρ} {es : List (HostEvent ρ)} {h h' : Host}
    {e : HostEvent ρ} (hr : Registered R es h) (hreg : ∀ r, ¬ e.Registers r)
    (hend : ∀ r, ¬ e.Ends r) (hsource : h'.fSession.activeSource = h.fSession.activeSource)
    (hxport : h'.fXport = h.fXport) : Registered R (es ++ [e]) h' := by
  cases hr with
  | nobody hs hx hsince =>
    refine .nobody (hsource.trans hs) (hxport.trans hx) fun r => ?_
    rw [registeredSince_concat_other hreg hend]
    exact hsince r
  | reader r hs hx hsince =>
    refine .reader r (hsource.trans hs) (hxport.trans hx) fun q => ?_
    rw [registeredSince_concat_other hreg hend]
    exact hsince q

/-- A close ends the registration of its reader, if that is on, and nothing else. -/
theorem Registered.closed {R : Readers ρ} {es : List (HostEvent ρ)} {h : Host}
    (hr : Registered R es h) (r : ρ) :
    Registered R (es ++ [.closed r]) (hostStep R h (.closed r)).1 := by
  simp only [hostStep, connectionClosed]
  by_cases hsrc : R.source r = h.fSession.activeSource
  · rw [if_pos hsrc]
    refine .nobody rfl rfl fun q => ?_
    rw [RegisteredSince, since_concat]
    rintro (hq | ⟨hsince, hends⟩)
    · exact hq
    · cases hr with
      | nobody hs hx hnone => exact hnone q hsince
      | reader p hs hx honly =>
        have hp : r = p := R.source_injective r p (hsrc.trans hs)
        exact hends (hp.trans ((honly q).mp hsince).symm)
  · rw [if_neg hsrc]
    cases hr with
    | nobody hs hx hnone =>
      refine .nobody hs hx fun q => ?_
      rw [RegisteredSince, since_concat]
      rintro (hq | ⟨hsince, -⟩)
      · exact hq
      · exact hnone q hsince
    | reader p hs hx honly =>
      refine .reader p hs hx fun q => ?_
      rw [RegisteredSince, since_concat]
      constructor
      · rintro (hq | ⟨hsince, -⟩)
        · exact absurd hq id
        · exact (honly q).mp hsince
      · rintro rfl
        refine Or.inr ⟨(honly q).mpr rfl, fun hq => hsrc ?_⟩
        rw [hs, show r = q from hq]

/-- **One event** keeps `fXport` and `active_source` on the reader whose registration is on. -/
theorem registered_step {R : Readers ρ} {es : List (HostEvent ρ)} {h : Host}
    (hr : Registered R es h) (e : HostEvent ρ) : Registered R (es ++ [e]) (hostStep R h e).1 := by
  cases e with
  | established r mode policy nowMs =>
    refine .reader r rfl rfl fun q => ?_
    rw [RegisteredSince, since_concat]
    -- a connect ends every registration and starts its own
    constructor
    · rintro (hq | ⟨-, hends⟩)
      · exact Eq.symm hq
      · exact absurd trivial hends
    · rintro rfl
      exact Or.inl rfl
  | closed r => exact hr.closed r
  | submit r tf nowMs =>
    exact hr.other (fun _ => id) (fun _ => id)
      (activeSource_sessionStep h.fSession (.frame (R.source r) tf nowMs)) rfl
  | feed bytes answer => exact hr.other (fun _ => id) (fun _ => id) rfl rfl
  | idle =>
    exact hr.other (fun _ => id) (fun _ => id) (activeSource_sessionStep h.fSession .timer) rfl

/-- Every history since `start`. -/
theorem registered_run (R : Readers ρ) (mem : Session) (fIdleTimer : Bool)
    (es : List (HostEvent ρ)) :
    Registered R es (Transducer.run (hostStep R) (hostStart mem fIdleTimer) es).1 :=
  Transducer.run_history_induction (hostStep R) (I := Registered R)
    (.nobody rfl rfl fun _ => not_since_nil _ _) (fun _ _ e hr => registered_step hr e) es

/-- The sink that is called is the one of the reader whose registration is on. -/
theorem Registered.called {R : Readers ρ} {es : List (HostEvent ρ)} {h : Host}
    (hr : Registered R es h) {e : HostEvent ρ} {call : HostCall} (hcall : call ∈ (hostStep R h e).2)
    {c : Addr × Addr} (hc : call.callee = some c) {r : ρ} (hmem : c ∈ (R.sink r).callbacks) :
    RegisteredSince r es := by
  have hx := callee_hostStep hcall hc
  cases hr with
  | nobody hs hxport hnone =>
    rw [hxport] at hx
    exact absurd hx List.not_mem_nil
  | reader p hs hxport honly =>
    rw [hxport] at hx
    exact (honly r).mpr (R.callbacks_disjoint r p c hmem hx)

theorem connectionClosed_other {h : Host} {source : Source}
    (hsrc : source ≠ h.fSession.activeSource) : connectionClosed h source = (h, []) :=
  if_neg hsrc

theorem submitFrame_other {h : Host} {source : Source} (hsrc : source ≠ h.fSession.activeSource)
    (tf : TouchFrame) (nowMs : U32) : submitFrame h source tf nowMs = (h, []) := by
  unfold submitFrame
  rw [sessionFrame_refused fun hacc => hsrc hacc.1]
  rfl

/-- **No callback of a reader runs outside its registration**: after any history since `start`, the
next event calls a function of a reader's sink only if that reader connected and, since then, has
not closed and nobody has connected; and a close or a frame from a source that is not the active one
changes nothing and calls nothing. -/
theorem called_only_while_registered (R : Readers ρ) (mem : Session) (fIdleTimer : Bool)
    (es : List (HostEvent ρ)) :
    let h := (Transducer.run (hostStep R) (hostStart mem fIdleTimer) es).1
    (∀ e, ∀ call ∈ (hostStep R h e).2, ∀ c, call.callee = some c → ∀ r,
      c ∈ (R.sink r).callbacks → RegisteredSince r es) ∧
      (∀ r, R.source r ≠ h.fSession.activeSource → hostStep R h (.closed r) = (h, [])) ∧
      (∀ r tf nowMs, R.source r ≠ h.fSession.activeSource →
        hostStep R h (.submit r tf nowMs) = (h, [])) := by
  intro h
  have hr : Registered R es h := registered_run R mem fIdleTimer es
  refine ⟨fun e call hcall c hc r hmem => hr.called hcall hc hmem, fun r hsrc => ?_,
    fun r tf nowMs hsrc => ?_⟩
  · exact connectionClosed_other hsrc
  · exact submitFrame_other hsrc tf nowMs

/-- The sinks of two readers, the first without `inject_encoded`. -/
def twoSinks (r : Bool) : TransportSink := if r then ⟨20, 21, 22, 2⟩ else ⟨10, 11, 0, 1⟩

/-- Two readers. -/
def twoReaders : Readers Bool where
  source r := if r then 2 else 1
  sink := twoSinks
  source_ne_zero := by decide
  source_injective := by decide
  callbacks_disjoint r q c hr hq := by
    have hctx : ∀ b d : Bool, (twoSinks b).ctx = (twoSinks d).ctx → b = d := by decide
    exact hctx r q ((mem_callbacks.mp hr).2.1.symm.trans (mem_callbacks.mp hq).2.1)

/-- The first reader is replaced by the second while a contact is down, and closes late. -/
theorem called_only_while_registered_replaced :
    let es : List (HostEvent Bool) := [.established false .eventDriven policyDefault 0,
      .submit false (.ofContacts [.ofId 3 20] 1) 5000,
      .established true .streaming policyDefault 6000]
    let h := (Transducer.run (hostStep twoReaders) (hostStart .zeroed true) es).1
    hostStep twoReaders h (.closed false) = (h, []) :=
  (called_only_while_registered twoReaders .zeroed true _).2.1 false (by decide)

end MagicTrackpad
