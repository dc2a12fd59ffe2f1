import MagicTrackpad.NameReport

/-!
# Reads of the name that overlap (`MT2BTReader.cpp`)

A read clears `gNameRespPending`, sends its GET and waits for the flag. Nothing ties the reply to
the request, so a read that times out leaves a reply on its way that the next read may take for its
own.

* `NameLink` is the control channel with both ends of it: the globals, the one reader, the requests
  and the replies in flight, oldest first, and what the device holds. `calls`, `source` and `held`
  are not in the code; they say whose reply was captured, and what the device has held since the
  last read started.
* `nameStep` takes one event: a read starts, looks at the flag (`look`), a name is written, the
  device is renamed by others, it processes its oldest request, its oldest reply reaches the shim,
  other traffic does. Reads are issued one at a time, and the device answers in order.
* `FreshReturn` is what a successful return should mean, `StartsAlone` the condition under which it
  does: a read starts when no GET is unanswered.

Results:
* `run_readDeviceName`: a read of the link returns what `readDeviceName` does with what reaches the
  shim, whatever else happens between its looks.
* `read_fresh`: in a run where every read starts alone, every successful return is fresh.
* `stale_reply`: from any reachable state, a read that does not start alone can return the answer to
  an earlier one.
-/

namespace MagicTrackpad

open Lib

/-- A PDU on its way, with the number of the read whose GET it is or answers; `none` for others. -/
structure InFlight where
  pdu : List U8
  call : Option Nat

/-- The control channel and both ends of it. -/
structure NameLink where
  resp : NameResp
  /-- A read waits and has slept this often. -/
  reader : Option Nat
  requests : List InFlight
  replies : List InFlight
  /-- What the device holds. -/
  payload : NamePayload
  /-- The reads so far that sent a GET. -/
  calls : Nat
  /-- The read whose GET the bytes in `gNameResp` answer. -/
  source : Option Nat
  /-- What the device has held since the last of these reads started. -/
  held : List NamePayload

/-- What happens. -/
inductive NameEvent
  | read (ch : ControlChannel)
  | look
  | write (ch : ControlChannel) (name : List U8)
  | rename (p : NamePayload)
  | process
  | deliver
  | traffic (pdu : List U8) (h : ¬ IsNameReply pdu)

/-- A read returns. -/
structure Returned where
  ret : U32
  name : List U8
  deriving DecidableEq

namespace NameLink

/-- A read starts: it waits, or returns at once. -/
def beginRead (s : NameLink) (ch : ControlChannel) : NameLink × List Returned :=
  let started := startRead ch s.resp
  if started.1 = kIOReturnSuccess then
    ({ s with
        resp := started.2.1
        reader := some 0
        requests := s.requests ++ started.2.2.map (⟨·, some (s.calls + 1)⟩)
        calls := s.calls + 1
        held := [s.payload] }, [])
  else ({ s with resp := started.2.1 }, [⟨started.1, []⟩])

/-- A read that has slept `i` times looks at the flag: it sleeps again, or returns. -/
def look (s : NameLink) (i : Nat) : NameLink × List Returned :=
  if s.resp.gNameRespPending = false ∧ i < 50 then ({ s with reader := some (i + 1) }, [])
  else ({ s with reader := none }, [⟨(finishRead 64 s.resp).1, (finishRead 64 s.resp).2⟩])

/-- The device holds another payload. -/
def setPayload (s : NameLink) (p : NamePayload) : NameLink :=
  { s with payload := p, held := s.held ++ [p] }

/-- The device processes the request `m`. -/
def process (wire : WireForm) (s : NameLink) (m : InFlight) (rest : List InFlight) : NameLink :=
  let answer := deviceRequest wire s.payload m.pdu
  { s.setPayload answer.1 with
    requests := rest
    replies := s.replies ++ answer.2.map (⟨·, m.call⟩) }

/-- The reply `m` reaches the shim. -/
def deliver (s : NameLink) (m : InFlight) (rest : List InFlight) : NameLink :=
  { s with
    replies := rest
    resp := btControlShim s.resp m.pdu
    source := if IsNameReply m.pdu then m.call else s.source }

theorem beginRead_of_up (s : NameLink) {ch : ControlChannel} (hch : ch.Up) :
    s.beginRead ch =
      ({ s with
          resp := s.resp.clear
          reader := some 0
          requests := s.requests ++ [⟨kGetName, some (s.calls + 1)⟩]
          calls := s.calls + 1
          held := [s.payload] }, []) := by
  rw [beginRead, startRead_of_up hch]
  rfl

theorem beginRead_of_not_up (s : NameLink) {ch : ControlChannel} (hch : ¬ ch.Up) :
    s.beginRead ch =
      ({ s with resp := (startRead ch s.resp).2.1 }, [⟨(startRead ch s.resp).1, []⟩]) :=
  if_neg fun hstarted => hch (up_of_startRead hstarted)

/-- A reply that is taken for a name is the source of what `gNameResp` holds. -/
theorem source_deliver (s : NameLink) (name : List U8) (call : Option Nat)
    (rest : List InFlight) : (s.deliver ⟨nameReply name, call⟩ rest).source = call := by
  show (if IsNameReply (nameReply name) then call else s.source) = call
  rw [if_pos (isNameReply_nameReply name)]

end NameLink

/-- One event. -/
def nameStep (wire : WireForm) : Transducer NameLink NameEvent Returned
  | s, .read ch => if s.reader = none then s.beginRead ch else (s, [])
  | s, .look =>
    match s.reader with
    | none => (s, [])
    | some i => s.look i
  | s, .write ch name =>
    ({ s with requests := s.requests ++ (writeDeviceName ch name).2.map (⟨·, none⟩) }, [])
  | s, .rename p => (s.setPayload p, [])
  | s, .process =>
    match s.requests with
    | [] => (s, [])
    | m :: rest => (s.process wire m rest, [])
  | s, .deliver =>
    match s.replies with
    | [] => (s, [])
    | m :: rest => (s.deliver m rest, [])
  | s, .traffic pdu _ => ({ s with resp := btControlShim s.resp pdu }, [])

/-- Nothing in flight, and a device that holds `p`. -/
def nameStart (p : NamePayload) : NameLink := ⟨noResp, none, [], [], p, 0, none, [p]⟩

/-- A read that returns successfully returns the answer to its own GET, and a name that the device
has held since the read started. -/
def FreshReturn (wire : WireForm) (s : NameLink) (e : NameEvent) : Prop :=
  ∀ name, ⟨kIOReturnSuccess, name⟩ ∈ (nameStep wire s e).2 →
    s.source = some s.calls ∧ ∃ p ∈ s.held, name = wire.bytes p

/-- A read that sends a GET starts only when no earlier one is unanswered. -/
def StartsAlone (s : NameLink) (e : NameEvent) : Prop :=
  ∀ ch, e = .read ch → s.reader = none → ch.Up → ∀ m ∈ s.requests ++ s.replies, m.call = none

/-! ## The read, look by look -/

/-- What an event brings to the shim. -/
def reachesShim (s : NameLink) : NameEvent → List (List U8)
  | .deliver => (s.replies.take 1).map InFlight.pdu
  | .traffic pdu _ => [pdu]
  | _ => []

/-- What reaches the shim in a run. -/
def reached (wire : WireForm) : NameLink → List NameEvent → List (List U8)
  | _, [] => []
  | s, e :: es => reachesShim s e ++ reached wire (nameStep wire s e).1 es

/-- What reaches the shim before each look, the events between the looks given. -/
def looksOf (wire : WireForm) : NameLink → List (List NameEvent) → List (List (List U8))
  | _, [] => []
  | s, es :: rounds =>
    reached wire s es ::
      looksOf wire (Transducer.run (nameStep wire) s (es ++ [.look])).1 rounds

section Looks

variable {wire : WireForm}

theorem length_looksOf (s : NameLink) (rounds : List (List NameEvent)) :
    (looksOf wire s rounds).length = rounds.length := by
  induction rounds generalizing s with
  | nil => rfl
  | cons es rounds ih => rw [looksOf, List.length_cons, List.length_cons, ih]

/-- An event that is not a look leaves a read that waits alone, but for the shim. -/
theorem waits_step (wire : WireForm) {s : NameLink} {i : Nat} (hreader : s.reader = some i)
    {e : NameEvent} (he : e ≠ .look) :
    (nameStep wire s e).1.reader = some i ∧ (nameStep wire s e).2 = [] ∧
      (nameStep wire s e).1.resp = (reachesShim s e).foldl btControlShim s.resp := by
  cases e with
  | read ch =>
    have hbusy : s.reader ≠ none := by simp [hreader]
    rw [nameStep, if_neg hbusy]
    exact ⟨hreader, rfl, rfl⟩
  | look => exact absurd rfl he
  | process =>
    rw [nameStep]
    split <;> exact ⟨hreader, rfl, rfl⟩
  | deliver =>
    rw [nameStep, reachesShim]
    split
    · rename_i hs
      rw [hs]
      exact ⟨hreader, rfl, rfl⟩
    · rename_i m rest hs
      rw [hs]
      exact ⟨hreader, rfl, rfl⟩
  | _ => exact ⟨hreader, rfl, rfl⟩

theorem waits_run (wire : WireForm) {s : NameLink} {i : Nat} (hreader : s.reader = some i)
    {es : List NameEvent} (hes : ∀ e ∈ es, e ≠ .look) :
    (Transducer.run (nameStep wire) s es).1.reader = some i ∧
      (Transducer.run (nameStep wire) s es).2 = [] ∧
      (Transducer.run (nameStep wire) s es).1.resp =
        (reached wire s es).foldl btControlShim s.resp := by
  induction es generalizing s with
  | nil => exact ⟨hreader, rfl, rfl⟩
  | cons e es ih =>
    obtain ⟨hwaits, hlog, hresp⟩ := waits_step wire hreader (hes e List.mem_cons_self)
    obtain ⟨hwaits', hlog', hresp'⟩ := ih hwaits fun x hx => hes x (List.mem_cons_of_mem e hx)
    refine ⟨hwaits', ?_, ?_⟩
    · rw [Transducer.run, hlog, hlog']
      rfl
    · rw [Transducer.run, reached, List.foldl_append, ← hresp]
      exact hresp'

/-- **A read that waits returns what `waitName` makes** of what reaches the shim before each of its
looks, whatever else happens. -/
theorem run_looks {s : NameLink} {i : Nat} (hreader : s.reader = some i)
    {rounds : List (List NameEvent)} (hlooks : i + rounds.length = 51) (hi : i ≤ 50)
    (hrounds : ∀ es ∈ rounds, ∀ e ∈ es, e ≠ .look) :
    (Transducer.run (nameStep wire) s (rounds.flatMap (· ++ [.look]))).2.head? =
      some ⟨(finishRead 64 (waitName (looksOf wire s rounds) s.resp)).1,
        (finishRead 64 (waitName (looksOf wire s rounds) s.resp)).2⟩ := by
  induction rounds generalizing s i with
  | nil => exact absurd hlooks (by rw [List.length_nil]; omega)
  | cons es rounds ih =>
    obtain ⟨hwaits, hlog, hresp⟩ := waits_run wire hreader (hrounds es List.mem_cons_self)
    rw [List.length_cons] at hlooks
    rw [List.flatMap_cons, looksOf, waitName, ← hresp, Transducer.run_append,
      Transducer.run_concat, hlog, List.nil_append]
    generalize (Transducer.run (nameStep wire) s es).1 = t at hwaits
    have hlook : nameStep wire t .look = t.look i := by rw [nameStep, hwaits]
    rw [hlook]
    by_cases hpending : t.resp.gNameRespPending = true
    · have hreturns : ¬ (t.resp.gNameRespPending = false ∧ i < 50) := by simp [hpending]
      rw [if_pos hpending, NameLink.look, if_neg hreturns]
      rfl
    · rw [if_neg hpending]
      rw [Bool.not_eq_true] at hpending
      by_cases hlast : i < 50
      · rw [NameLink.look, if_pos ⟨hpending, hlast⟩]
        have hrest := ih (s := { t with reader := some (i + 1) }) rfl (by omega) (by omega)
          fun qs hqs => hrounds qs (List.mem_cons_of_mem es hqs)
        exact hrest
      · -- The 51st look: `rounds` is empty, and so is what is left of the wait.
        obtain rfl := List.length_eq_zero_iff.mp (show rounds.length = 0 by omega)
        have hreturns : ¬ (t.resp.gNameRespPending = false ∧ i < 50) := fun h => hlast h.2
        rw [NameLink.look, if_neg hreturns]
        rfl

/-- **A read of the link** returns what `readDeviceName` does. -/
theorem run_readDeviceName {s : NameLink} (hreader : s.reader = none) (ch : ControlChannel)
    {rounds : List (List NameEvent)} (hlooks : rounds.length = 51)
    (hrounds : ∀ es ∈ rounds, ∀ e ∈ es, e ≠ .look) :
    let looks := looksOf wire (nameStep wire s (.read ch)).1 rounds
    (Transducer.run (nameStep wire) s (.read ch :: rounds.flatMap (· ++ [.look]))).2.head? =
      some ⟨(readDeviceName ch 64 looks s.resp).ret, (readDeviceName ch 64 looks s.resp).name⟩ := by
  intro looks
  have hall : looks.take 51 = looks :=
    List.take_of_length_le (by rw [length_looksOf, hlooks])
  have hread : nameStep wire s (.read ch) = s.beginRead ch := if_pos hreader
  simp only [Transducer.run, readDeviceName, hall, looks]
  rw [hread]
  by_cases hch : ch.Up
  · rw [s.beginRead_of_up hch, List.nil_append, startRead_of_up hch]
    exact run_looks rfl (by omega) (by omega) hrounds
  · have hfailed : (startRead ch s.resp).1 ≠ kIOReturnSuccess := fun h => hch (up_of_startRead h)
    rw [s.beginRead_of_not_up hch, if_pos hfailed]
    rfl

end Looks

/-! ## What is in flight -/

/-- A request of the reads numbered by T, or of a write. -/
inductive Request (T : Nat → Prop) : InFlight → Prop
  | get {c : Nat} (hc : T c) : Request T ⟨kGetName, some c⟩
  | set {name : List U8} (h : name.length ≤ 63) :
      Request T ⟨0x53#8 :: nameReportId :: padTo 64 name, none⟩

/-- The answer to a GET of the reads numbered by T, given when the device held a payload in H, or
another reply. -/
inductive Reply (wire : WireForm) (T : Nat → Prop) (H : NamePayload → Prop) : InFlight → Prop
  | name {c : Nat} {p : NamePayload} (hc : T c) (hp : H p) :
      Reply wire T H ⟨nameReply (wire.bytes p), some c⟩
  | other {pdu : List U8} (h : ¬ IsNameReply pdu) : Reply wire T H ⟨pdu, none⟩

/-- Everything in flight is a request or a reply. -/
structure Carries (wire : WireForm) (T : Nat → Prop) (H : NamePayload → Prop)
    (requests replies : List InFlight) : Prop where
  requests : ∀ m ∈ requests, Request T m
  replies : ∀ m ∈ replies, Reply wire T H m

theorem Request.mono {T T' : Nat → Prop} {m : InFlight} (h : Request T m)
    (hT : ∀ c, m.call = some c → T c → T' c) : Request T' m := by
  cases h with
  | get hc => exact .get (hT _ rfl hc)
  | set hlen => exact .set hlen

theorem Reply.mono {wire : WireForm} {T T' : Nat → Prop} {H H' : NamePayload → Prop} {m : InFlight}
    (h : Reply wire T H m) (hT : ∀ c, m.call = some c → T c → T' c)
    (hH : ∀ c, m.call = some c → ∀ p, H p → H' p) : Reply wire T' H' m := by
  cases h with
  | name hc hp => exact .name (hT _ rfl hc) (hH _ rfl _ hp)
  | other hpdu => exact .other hpdu

/-- **What the device answers**: a GET with the payload it holds, a write with no name. -/
theorem Request.answer {wire : WireForm} {T : Nat → Prop} {H : NamePayload → Prop} {m : InFlight}
    (h : Request T m) {p : NamePayload} (hp : H p) :
    ∀ a ∈ (deviceRequest wire p m.pdu).2.map (⟨·, m.call⟩), Reply wire T H a := by
  cases h with
  | get hc =>
    intro a ha
    obtain rfl := List.mem_singleton.mp ha
    exact .name hc hp
  | @set name hlen =>
    intro a ha
    have hstored : (padTo 64 name).length = 64 := length_padTo (Nat.le_succ_of_le hlen)
    have hanswer : deviceRequest wire p (0x53#8 :: nameReportId :: padTo 64 name) =
        (⟨padTo 64 name, hstored⟩, [[0x00#8]]) := dif_pos hstored
    rw [hanswer] at ha
    obtain rfl := List.mem_singleton.mp ha
    exact .other (by decide)

/-- What a write sends. -/
theorem request_write {T : Nat → Prop} (ch : ControlChannel) (name : List U8) :
    ∀ m ∈ (writeDeviceName ch name).2.map (⟨·, none⟩), Request T m := by
  intro m hm
  unfold writeDeviceName sendNameInGate at hm
  split_ifs at hm with hlen hdown hinactive
  · exact absurd hm List.not_mem_nil
  · exact absurd hm List.not_mem_nil
  · exact absurd hm List.not_mem_nil
  · obtain rfl := List.mem_singleton.mp hm
    exact .set (by omega)

section Carries

variable {wire : WireForm} {T T' : Nat → Prop} {H H' : NamePayload → Prop}
  {requests replies : List InFlight}

theorem Carries.mono (h : Carries wire T H requests replies) (hT : ∀ c, T c → T' c)
    (hH : ∀ p, H p → H' p) : Carries wire T' H' requests replies where
  requests m hm := (h.requests m hm).mono fun c _ => hT c
  replies m hm := (h.replies m hm).mono (fun c _ => hT c) fun _ _ => hH

/-- Without a tag in flight the tags are of any kind. -/
theorem Carries.of_untagged (h : Carries wire T H requests replies)
    (hnone : ∀ m ∈ requests ++ replies, m.call = none) : Carries wire T' H' requests replies := by
  have hno : ∀ m ∈ requests ++ replies, ∀ c, m.call ≠ some c := by
    intro m hm c hc
    rw [hnone m hm] at hc
    cases hc
  refine ⟨fun m hm => ?_, fun m hm => ?_⟩
  · have hm' := hno m (List.mem_append_left _ hm)
    exact (h.requests m hm).mono fun c hc => absurd hc (hm' c)
  · have hm' := hno m (List.mem_append_right _ hm)
    exact (h.replies m hm).mono (fun c hc => absurd hc (hm' c)) fun c hc => absurd hc (hm' c)

theorem Carries.request (h : Carries wire T H requests replies) {new : List InFlight}
    (hnew : ∀ m ∈ new, Request T m) : Carries wire T H (requests ++ new) replies where
  requests m hm := by
    rcases List.mem_append.mp hm with hold | hm
    · exact h.requests m hold
    · exact hnew m hm
  replies := h.replies

theorem Carries.process {m : InFlight} (h : Carries wire T H (m :: requests) replies)
    {p : NamePayload} (hp : H p) :
    Carries wire T H requests
      (replies ++ (deviceRequest wire p m.pdu).2.map (⟨·, m.call⟩)) where
  requests n hn := h.requests n (List.mem_cons_of_mem m hn)
  replies n hn := by
    rcases List.mem_append.mp hn with hold | hnew
    · exact h.replies n hold
    · exact (h.requests m List.mem_cons_self).answer hp n hnew

theorem Carries.deliver {m : InFlight} (h : Carries wire T H requests (m :: replies)) :
    Carries wire T H requests replies where
  requests := h.requests
  replies n hn := h.replies n (List.mem_cons_of_mem m hn)

end Carries

/-! ## Reads that start alone -/

/-- What is in flight belongs to the last read, and so does what was captured while it waits. -/
structure Fresh (wire : WireForm) (s : NameLink) : Prop where
  carries : Carries wire (· = s.calls) (· ∈ s.held) s.requests s.replies
  held : s.payload ∈ s.held
  captured : s.reader ≠ none → s.resp.gNameRespPending = true →
    s.source = some s.calls ∧ ∃ p ∈ s.held, s.resp.captured = wire.bytes p

section Events

variable {wire : WireForm} {s : NameLink}

theorem fresh_beginRead (h : Fresh wire s) (hreader : s.reader = none) {ch : ControlChannel}
    (halone : ch.Up → ∀ m ∈ s.requests ++ s.replies, m.call = none) :
    Fresh wire (s.beginRead ch).1 := by
  by_cases hch : ch.Up
  · rw [s.beginRead_of_up hch]
    refine ⟨(h.carries.of_untagged (halone hch)).request fun m hm => ?_,
      List.mem_singleton_self _, fun _ hpending => absurd hpending Bool.false_ne_true⟩
    obtain rfl := List.mem_singleton.mp hm
    exact .get rfl
  · rw [s.beginRead_of_not_up hch]
    exact ⟨h.carries, h.held, fun hwaits => absurd hreader hwaits⟩

theorem fresh_look (h : Fresh wire s) {i : Nat} (hreader : s.reader = some i) :
    Fresh wire (s.look i).1 := by
  have hwaits : s.reader ≠ none := by simp [hreader]
  unfold NameLink.look
  split
  · exact ⟨h.carries, h.held, fun _ => h.captured hwaits⟩
  · exact ⟨h.carries, h.held, fun hwaits' => absurd rfl hwaits'⟩

/-- More names held. -/
theorem fresh_setPayload (h : Fresh wire s) (p : NamePayload) : Fresh wire (s.setPayload p) := by
  have hgrows : ∀ q, q ∈ s.held → q ∈ (s.setPayload p).held := fun q => List.mem_append_left _
  refine ⟨h.carries.mono (fun _ hc => hc) hgrows, ?_, fun hwaits hpending => ?_⟩
  · exact List.mem_append_right _ (List.mem_singleton_self p)
  · obtain ⟨hsource, q, hq, hbytes⟩ := h.captured hwaits hpending
    exact ⟨hsource, q, hgrows q hq, hbytes⟩

theorem fresh_process (h : Fresh wire s) {m : InFlight} {rest : List InFlight}
    (hs : s.requests = m :: rest) : Fresh wire (s.process wire m rest) := by
  have hset := fresh_setPayload h (deviceRequest wire s.payload m.pdu).1
  have hcarries := hset.carries
  simp only [NameLink.setPayload, hs] at hcarries
  exact ⟨hcarries.process (List.mem_append_left _ h.held), hset.held, hset.captured⟩

theorem fresh_deliver (h : Fresh wire s) {m : InFlight} {rest : List InFlight}
    (hs : s.replies = m :: rest) : Fresh wire (s.deliver m rest) := by
  have hcarries := h.carries
  rw [hs] at hcarries
  refine ⟨hcarries.deliver, h.held, fun hwaits hpending => ?_⟩
  have hm := hcarries.replies m List.mem_cons_self
  cases hm with
  | @name c p hc hp =>
    refine ⟨?_, p, hp, captured_nameReply s.resp (wire.length_le p)⟩
    rw [NameLink.source_deliver, hc]
    rfl
  | @other pdu hpdu =>
    have hresp : btControlShim s.resp pdu = s.resp := btControlShim_of_not hpdu s.resp
    simp only [NameLink.deliver, hresp, if_neg hpdu] at hpending ⊢
    exact h.captured hwaits hpending

/-- **One event** that does not start a read behind another keeps everything fresh. -/
theorem fresh_step (h : Fresh wire s) {e : NameEvent} (halone : StartsAlone s e) :
    Fresh wire (nameStep wire s e).1 := by
  cases e with
  | read ch =>
    rw [nameStep]
    split
    · rename_i hreader
      exact fresh_beginRead h hreader (halone ch rfl hreader)
    · exact h
  | look =>
    rw [nameStep]
    split
    · exact h
    · exact fresh_look h ‹_›
  | write ch name =>
    exact ⟨h.carries.request (request_write ch name), h.held, h.captured⟩
  | rename p => exact fresh_setPayload h p
  | process =>
    rw [nameStep]
    split
    · exact h
    · exact fresh_process h ‹_›
  | deliver =>
    rw [nameStep]
    split
    · exact h
    · exact fresh_deliver h ‹_›
  | traffic pdu hpdu =>
    rw [nameStep, btControlShim_of_not hpdu]
    exact h

/-- A successful return comes from a look that finds the flag set. -/
theorem returned_success {e : NameEvent} {name : List U8}
    (h : ⟨kIOReturnSuccess, name⟩ ∈ (nameStep wire s e).2) :
    s.reader ≠ none ∧ s.resp.gNameRespPending = true ∧ name = s.resp.captured := by
  cases e with
  | read ch =>
    rw [nameStep, NameLink.beginRead] at h
    split_ifs at h with hreader hstarted
    · exact absurd h List.not_mem_nil
    · rw [List.mem_singleton, Returned.mk.injEq] at h
      exact absurd h.1.symm hstarted
    · exact absurd h List.not_mem_nil
  | look =>
    rw [nameStep] at h
    cases hreader : s.reader with
    | none =>
      rw [hreader] at h
      exact absurd h List.not_mem_nil
    | some i =>
      rw [hreader] at h
      simp only [NameLink.look] at h
      split_ifs at h with hsleeps
      · exact absurd h List.not_mem_nil
      · rw [List.mem_singleton, Returned.mk.injEq] at h
        by_cases hpending : s.resp.gNameRespPending = true
        · rw [finishRead_of_pending hpending] at h
          exact ⟨Option.some_ne_none i, hpending, h.2⟩
        · rw [Bool.not_eq_true] at hpending
          rw [finishRead, if_pos hpending] at h
          exact absurd h.1 (by decide)
  | process =>
    rw [nameStep] at h
    split at h <;> exact absurd h List.not_mem_nil
  | deliver =>
    rw [nameStep] at h
    split at h <;> exact absurd h List.not_mem_nil
  | _ => exact absurd h List.not_mem_nil

end Events

theorem fresh_nameStart (wire : WireForm) (p : NamePayload) : Fresh wire (nameStart p) where
  carries := ⟨fun _ h => absurd h List.not_mem_nil, fun _ h => absurd h List.not_mem_nil⟩
  held := List.mem_singleton_self p
  captured h := absurd rfl h

/-- **A successful read is fresh** in every run whose reads start alone: it returns the answer to
its own GET, which is what the device held at some moment since the read started. -/
theorem read_fresh (wire : WireForm) (p : NamePayload) {es : List NameEvent}
    (hes : Transducer.Along (nameStep wire) StartsAlone (nameStart p) es) :
    Transducer.Along (nameStep wire) (FreshReturn wire) (nameStart p) es := by
  refine Transducer.along_of_invariant (I := Fresh wire) (fun s e h halone => ?_)
    (fresh_nameStart wire p) hes
  refine ⟨fresh_step h halone, fun name hname => ?_⟩
  obtain ⟨hwaits, hpending, rfl⟩ := returned_success hname
  exact h.captured hwaits hpending

/-- Two letters, as the device holds them. -/
def oldName : NamePayload := shortDeviceName.payload

/-- Three others. -/
def newName : NamePayload := ⟨padTo 64 [0x4D, 0x54, 0x32], by decide⟩

theorem read_fresh_answered :
    Transducer.Along (nameStep verbatim) (FreshReturn verbatim) (nameStart oldName)
      [.read channelUp, .process, .deliver, .look] := by
  refine read_fresh verbatim oldName ⟨fun _ _ _ _ m hm => absurd hm List.not_mem_nil, ?_⟩
  refine ⟨fun _ h => ?_, fun _ h => ?_, fun _ h => ?_, trivial⟩ <;> cases h

/-- The first read times out. Its GET is processed, the device is renamed, and the second read takes
the reply for its own. -/
def staleRun : List NameEvent :=
  .read channelUp :: List.replicate 51 .look ++
    [.process, .rename newName, .read channelUp, .deliver]

theorem not_fresh_stale :
    (let r := Transducer.run (nameStep verbatim) (nameStart oldName) staleRun
     r.2 = [⟨kIOReturnTimeout, []⟩] ∧
       (nameStep verbatim r.1 .look).2 = [⟨kIOReturnSuccess, oldName.val⟩] ∧
       oldName ∉ r.1.held) ∧
      ¬ Transducer.Along (nameStep verbatim) (FreshReturn verbatim) (nameStart oldName)
        (staleRun ++ [.look]) := by
  refine ⟨by decide, ?_⟩
  rw [Transducer.along_append]
  rintro ⟨-, hfresh, -⟩
  have hsource := (hfresh oldName.val (by decide)).1
  exact absurd hsource (by decide)

/-! ## A read that does not start alone -/

/-- Every reply in flight answers a GET that was sent. -/
theorem carries_step {wire : WireForm} {s : NameLink}
    (h : Carries wire (· ≤ s.calls) (fun _ => True) s.requests s.replies) (e : NameEvent) :
    Carries wire (· ≤ (nameStep wire s e).1.calls) (fun _ => True) (nameStep wire s e).1.requests
      (nameStep wire s e).1.replies := by
  cases e with
  | read ch =>
    rw [nameStep]
    split
    · by_cases hch : ch.Up
      · rw [s.beginRead_of_up hch]
        have hmore := h.mono (fun c (hc : c ≤ s.calls) => Nat.le_succ_of_le hc) fun _ hp => hp
        refine hmore.request fun m hm => ?_
        obtain rfl := List.mem_singleton.mp hm
        exact .get (Nat.le_refl _)
      · rw [s.beginRead_of_not_up hch]
        exact h
    · exact h
  | look =>
    rw [nameStep]
    split
    · exact h
    · rw [NameLink.look]
      split <;> exact h
  | write ch name => exact h.request (request_write ch name)
  | process =>
    rw [nameStep]
    split
    · exact h
    · rename_i m rest hs
      rw [hs] at h
      exact h.process trivial
  | deliver =>
    rw [nameStep]
    split
    · exact h
    · rename_i m rest hs
      rw [hs] at h
      exact h.deliver
  | _ => exact h

theorem length_deviceRequest_le (wire : WireForm) (p : NamePayload) (pdu : List U8) :
    (deviceRequest wire p pdu).2.length ≤ 1 := by
  unfold deviceRequest
  split
  · exact Nat.le_refl 1
  · split <;> exact Nat.le_refl 1
  · exact Nat.zero_le 1

/-- An unanswered GET stays one when the oldest request is processed. -/
theorem Carries.stale_process {wire : WireForm} {T : Nat → Prop} {H : NamePayload → Prop}
    {m : InFlight} {requests : List InFlight} (h : Carries wire T H (m :: requests) [])
    (hstale : ∃ n ∈ m :: requests ++ [], n.call ≠ none) (p : NamePayload) :
    ∃ n ∈ requests ++ ([] ++ (deviceRequest wire p m.pdu).2.map (⟨·, m.call⟩)), n.call ≠ none := by
  obtain ⟨n, hn, hcall⟩ := hstale
  rw [List.append_nil] at hn
  rcases List.mem_cons.mp hn with rfl | hn
  · have hm := h.requests n List.mem_cons_self
    cases hm with
    | get hc => exact ⟨_, List.mem_append_right _ (List.mem_singleton_self _), hcall⟩
    | set hlen => exact absurd rfl hcall
  · exact ⟨n, List.mem_append_left _ hn, hcall⟩

/-- A look that finds the flag set returns what was captured. -/
theorem returns_of_pending {wire : WireForm} {s : NameLink} {i : Nat} (hreader : s.reader = some i)
    (hpending : s.resp.gNameRespPending = true) :
    ⟨kIOReturnSuccess, s.resp.captured⟩ ∈ (nameStep wire s .look).2 := by
  have hreturns : ¬ (s.resp.gNameRespPending = false ∧ i < 50) := by simp [hpending]
  rw [nameStep, hreader]
  simp only [NameLink.look, if_neg hreturns, finishRead_of_pending hpending]
  exact List.mem_singleton_self _

/-- A read waits, and a GET older than its own is unanswered. The requests before its own are
`old`. -/
structure Behind (wire : WireForm) (old : List InFlight) (s : NameLink) : Prop where
  waits : ∃ i, s.reader = some i
  clear : s.resp.gNameRespPending = false
  requests : ∃ own, s.requests = old ++ own
  carries : Carries wire (· ≠ s.calls) (fun _ => True) old s.replies
  stale : ∃ m ∈ old ++ s.replies, m.call ≠ none

/-- With no reply in flight, the device processes the oldest request. -/
theorem Behind.process {wire : WireForm} {m : InFlight} {old : List InFlight} {s : NameLink}
    (h : Behind wire (m :: old) s) (hreplies : s.replies = []) :
    Behind wire old (nameStep wire s .process).1 := by
  obtain ⟨own, hrequests⟩ := h.requests
  have hcarries := h.carries
  have hstale := h.stale
  rw [hreplies] at hcarries hstale
  rw [nameStep, hrequests]
  refine ⟨h.waits, h.clear, ⟨own, rfl⟩, ?_, ?_⟩
  · simp only [NameLink.process, hreplies]
    exact hcarries.process trivial
  · simp only [NameLink.process, hreplies]
    exact hcarries.stale_process hstale s.payload

/-- A reply that answers no GET reaches the shim. -/
theorem Behind.deliver {wire : WireForm} {pdu : List U8} {old replies : List InFlight}
    {s : NameLink} (h : Behind wire old s) (hreplies : s.replies = ⟨pdu, none⟩ :: replies)
    (hpdu : ¬ IsNameReply pdu) : Behind wire old (nameStep wire s .deliver).1 := by
  have hcarries := h.carries
  have hresp : btControlShim s.resp pdu = s.resp := btControlShim_of_not hpdu s.resp
  obtain ⟨m, hm, hcall⟩ := h.stale
  rw [hreplies] at hcarries hm
  rw [nameStep, hreplies]
  refine ⟨h.waits, ?_, h.requests, hcarries.deliver, m, ?_, hcall⟩
  · show (btControlShim s.resp pdu).gNameRespPending = false
    rw [hresp]
    exact h.clear
  · rcases List.mem_append.mp hm with hold | hm
    · exact List.mem_append_left _ hold
    · rcases List.mem_cons.mp hm with rfl | hm
      · exact absurd rfl hcall
      · exact List.mem_append_right _ hm

/-- The answer to an older GET reaches the shim, and the read returns it. -/
theorem Behind.returns {wire : WireForm} {p : NamePayload} {c : Nat} {old replies : List InFlight}
    {s : NameLink} (h : Behind wire old s)
    (hreplies : s.replies = ⟨nameReply (wire.bytes p), some c⟩ :: replies) (hc : c ≠ s.calls) :
    ¬ Transducer.Along (nameStep wire) (FreshReturn wire) s [.deliver, .look] := by
  rintro ⟨-, hlook, -⟩
  obtain ⟨i, hreader⟩ := h.waits
  have hstep : nameStep wire s .deliver =
      (s.deliver ⟨nameReply (wire.bytes p), some c⟩ replies, []) := by
    rw [nameStep, hreplies]
  rw [hstep] at hlook
  have hreturn := (hlook _ (returns_of_pending hreader rfl)).1
  rw [NameLink.source_deliver] at hreturn
  exact hc (Option.some.inj hreturn)

/-- **Where a read waits behind an older GET**, it can return the answer to that one: the older
requests are processed and the replies delivered until the first answer to a GET is. -/
theorem stale_of_behind {wire : WireForm} {n : Nat} {old : List InFlight} {s : NameLink}
    (h : Behind wire old s) (hn : 2 * old.length + s.replies.length ≤ n) :
    ∃ es, ¬ Transducer.Along (nameStep wire) (FreshReturn wire) s es := by
  induction n generalizing s old with
  | zero =>
    obtain ⟨m, hm, -⟩ := h.stale
    rw [List.length_eq_zero_iff.mp (show old.length = 0 by omega),
      List.length_eq_zero_iff.mp (show s.replies.length = 0 by omega)] at hm
    exact absurd hm List.not_mem_nil
  | succ n ih =>
    cases hreplies : s.replies with
    | nil =>
      cases old with
      | nil =>
        obtain ⟨m, hm, -⟩ := h.stale
        rw [hreplies] at hm
        exact absurd hm List.not_mem_nil
      | cons m old =>
        have hanswers := length_deviceRequest_le wire s.payload m.pdu
        have hlen : (nameStep wire s .process).1.replies.length =
            (deviceRequest wire s.payload m.pdu).2.length := by
          obtain ⟨own, hrequests⟩ := h.requests
          rw [nameStep, hrequests]
          simp [NameLink.process, hreplies]
        rw [List.length_cons] at hn
        obtain ⟨es, hes⟩ := ih (h.process hreplies) (by omega)
        exact ⟨.process :: es, fun hfresh => hes hfresh.2⟩
    | cons m rest =>
      have hm := h.carries.replies m (by rw [hreplies]; exact List.mem_cons_self)
      cases hm with
      | name hc hp => exact ⟨[.deliver, .look], h.returns hreplies hc⟩
      | other hpdu =>
        have hlen : (nameStep wire s .deliver).1.replies.length = rest.length := by
          rw [nameStep, hreplies]
          rfl
        rw [hreplies, List.length_cons] at hn
        obtain ⟨es, hes⟩ := ih (h.deliver hreplies hpdu) (by omega)
        exact ⟨.deliver :: es, fun hfresh => hes hfresh.2⟩

/-- **From any state a run reaches, a read that does not start alone** can return the answer to an
earlier read. -/
theorem stale_reply (wire : WireForm) (p : NamePayload) (before : List NameEvent)
    {ch : ControlChannel} (hch : ch.Up) :
    let s := (Transducer.run (nameStep wire) (nameStart p) before).1
    s.reader = none → (∃ m ∈ s.requests ++ s.replies, m.call ≠ none) →
      ∃ after, ¬ Transducer.Along (nameStep wire) (FreshReturn wire) (nameStart p)
        (before ++ .read ch :: after) := by
  intro s hreader hstale
  have hcarries : Carries wire (· ≤ s.calls) (fun _ => True) s.requests s.replies :=
    Transducer.run_state_induction (nameStep wire) (A := fun _ => True)
      (I := fun s => Carries wire (· ≤ s.calls) (fun _ => True) s.requests s.replies)
      ⟨fun _ h => absurd h List.not_mem_nil, fun _ h => absurd h List.not_mem_nil⟩
      (fun t e _ ht => carries_step ht e) before fun _ _ => trivial
  have hbehind : Behind wire s.requests (nameStep wire s (.read ch)).1 := by
    rw [nameStep, if_pos hreader, s.beginRead_of_up hch]
    refine ⟨⟨0, rfl⟩, rfl, ⟨_, rfl⟩, ?_, hstale⟩
    exact hcarries.mono (fun c hc => Nat.ne_of_lt (Nat.lt_succ_of_le hc)) fun _ hp => hp
  obtain ⟨es, hes⟩ := stale_of_behind hbehind (Nat.le_refl _)
  refine ⟨es, fun hfresh => hes ?_⟩
  rw [Transducer.along_append] at hfresh
  exact hfresh.2.2

end MagicTrackpad
