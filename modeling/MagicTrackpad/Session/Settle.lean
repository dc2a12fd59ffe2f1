import MagicTrackpad.Session

/-!
# The settle gate and the 32-bit clock

The kernel shells hand the session `uptime_ms`, the uptime in milliseconds cut to 32 bits
(`kext-gesture/MavericksTerminalBackend.cpp`). The connect stores `uptime_ms + MAVERICKS_SETTLE_MS`
and `mavericks_settle_passed` compares the two readings as plain unsigned numbers. The clock wraps
every 2³² ms (49.7 days), so the comparison is right only while both readings come from one period
of the clock:

* `accepts_run_iff`: along a connection the gate of its source compares the two readings mod 2³².
* `gate_correct_iff_no_wrap`: the gate does what its window says iff the clock has not wrapped
  between the connect and the frame.
* `gate_closed_after_wrap`: a connect 1 ms before the wrap, a frame 1 ms later, and the frame is
  dropped although the window is empty.
-/

namespace MagicTrackpad

open Lib

/-- With the window at zero the stored deadline is the reading of the connect itself. -/
theorem settlePassed_uptimeMs (t t' : Nat) :
    settlePassed (uptimeMs t') (uptimeMs t + settleMs) = true ↔ t % 2 ^ 32 ≤ t' % 2 ^ 32 := by
  have hdeadline : uptimeMs t + settleMs = uptimeMs t := BitVec.add_zero _
  rw [settlePassed, hdeadline, decide_eq_true_eq, BitVec.le_def, toNat_uptimeMs, toNat_uptimeMs]

/-- The gate of the connected source, after any inputs of the connection. -/
theorem accepts_run_iff (s : Session) (source : Source) (mode : TransportMode)
    (policy : SessionPolicy) (is : List SessionInput) (t t' : Nat) :
    Accepts (Transducer.run sessionStep (sessionConnect s source mode policy (uptimeMs t)) is).1
        source (uptimeMs t') ↔
      t % 2 ^ 32 ≤ t' % 2 ^ 32 := by
  have hconfig := config_run (sessionConnect s source mode policy (uptimeMs t)) is
  simp only [Session.config, sessionConnect, Prod.mk.injEq] at hconfig
  obtain ⟨hsource, -, hsettle, -⟩ := hconfig
  rw [Accepts, sessionConnect, hsource, hsettle, settlePassed_uptimeMs]
  exact and_iff_right rfl

/-- Two uptimes less than half a period apart lie in one period of the clock iff the later one has
the larger reading. -/
theorem mod_le_mod_iff {t t' m : Nat} (hle : t ≤ t') (hlt : t' - t < m) :
    t % m ≤ t' % m ↔ t / m = t' / m := by
  have ht := Nat.div_add_mod t m
  have ht' := Nat.div_add_mod t' m
  have hdiv : t / m ≤ t' / m := Nat.div_le_div_right hle
  constructor
  · intro hmod
    by_contra hne
    have hsucc : t / m + 1 ≤ t' / m := by omega
    have hmul : m * (t / m + 1) ≤ m * (t' / m) := Nat.mul_le_mul_left m hsucc
    rw [Nat.mul_add, Nat.mul_one] at hmul
    omega
  · intro heq
    rw [heq] at ht
    omega

/-- **The gate meets its window iff the clock has not wrapped since the connect.** -/
theorem gate_correct_iff_no_wrap (s : Session) (source : Source) (mode : TransportMode)
    (policy : SessionPolicy) (is : List SessionInput) (t t' : Nat) (hle : t ≤ t')
    (hlt : t' - t < 2 ^ 31) :
    (Accepts (Transducer.run sessionStep (sessionConnect s source mode policy (uptimeMs t)) is).1
        source (uptimeMs t') ↔ settleMs.toNat ≤ t' - t) ↔ t / 2 ^ 32 = t' / 2 ^ 32 := by
  have hwindow : settleMs.toNat ≤ t' - t := Nat.zero_le _
  rw [accepts_run_iff, iff_true_right hwindow]
  exact mod_le_mod_iff hle (Nat.lt_trans hlt (by decide))

theorem gate_correct_iff_no_wrap_at_boot :
    (Accepts (Transducer.run sessionStep
        (sessionConnect .zeroed 1 .eventDriven policyDefault (uptimeMs 1000)) []).1 1
        (uptimeMs 1500) ↔ settleMs.toNat ≤ 1500 - 1000) ↔ 1000 / 2 ^ 32 = 1500 / 2 ^ 32 :=
  gate_correct_iff_no_wrap .zeroed 1 .eventDriven policyDefault [] 1000 1500 (by decide) (by decide)

/-- Connected at the last millisecond of a clock period, a frame of the next millisecond is
dropped. -/
theorem gate_closed_after_wrap :
    ¬ (Accepts (sessionConnect .zeroed 1 .eventDriven policyDefault (uptimeMs 4294967295)) 1
        (uptimeMs 4294967296) ↔ settleMs.toNat ≤ 4294967296 - 4294967295) := by
  decide

end MagicTrackpad
