import MagicTrackpad.Lib.Transducer

/-!
# The boot guard (`dist/voodooinputmavericks-run`)

The launchd wrapper loads the kext unless the state file says `trying`: it writes `trying` before
the `kextload` and `ok` after the settle window, so that a load that panics the machine is not tried
again until `voodooinputmavericks-run --reset`. The writes are `echo ... > "$STATE_FILE" || true`: a
write that fails is ignored, the shell truncates the file before `echo` writes, and nothing syncs
it.

A run of `guardStep` is any sequence of launches, panics, syncs, clean restarts and resets. The file
is kept twice, as the running system reads it and as it is on the disk; a panic leaves the latter.
A launch has read and written by the time of its step; the settle window and what follows the final
`ok` (`recover_full`, which rewrites it) are not modelled.

* `locked_step`: where the panic of a load finds `trying` on the disk, and until the reset no read
  fails and no reset stops at the truncation (`Recorded`), the file stays `trying`.
* `one_panicking_load`: in every such run a load that panicked is not repeated before a reset.
* `unrecorded_reloads`: any other panic, read or reset has a continuation that repeats it.
* `unsynced_sentinel_reloads`: a panic before the first sync is one.
-/

namespace MagicTrackpad

open Lib

/-- What the state file holds. -/
inductive Sentinel
  | missing
  | empty
  | ok
  | trying
  deriving DecidableEq, Repr

/-- What comes of `echo word > "$STATE_FILE"`. -/
inductive WriteOutcome
  /-- The file cannot be opened. -/
  | failed
  /-- The file is truncated, and `echo` fails. -/
  | truncated
  | written
  deriving DecidableEq, Repr

/-- `echo word > "$STATE_FILE" 2>/dev/null || true`. -/
def echoTo (file word : Sentinel) : WriteOutcome → Sentinel
  | .failed => file
  | .truncated => .empty
  | .written => word

/-- `STATE="$(cat "$STATE_FILE" 2>/dev/null || echo ok)"`. -/
def readState (file : Sentinel) (readable : Bool) : Sentinel :=
  if !readable || file == .missing then .ok else file

/-- How far a launch has come. -/
inductive RunPhase
  | idle
  /-- Past the sentinel, before the `kextload`. -/
  | attempting
  /-- Past the `kextload`, before the final `ok`. -/
  | loading
  deriving DecidableEq, Repr

/-- The state file and the launch under way. -/
structure BootGuard where
  /-- The file as it reads now. -/
  file : Sentinel
  /-- The file as it is on the disk. -/
  disk : Sentinel
  phase : RunPhase
  /-- A load panicked, and no reset has succeeded since. -/
  locked : Bool
  deriving DecidableEq, Repr

/-- A machine whose state file holds `file`. -/
def BootGuard.start (file : Sentinel) : BootGuard := ⟨file, file, .idle, false⟩

/-- What can happen. -/
inductive GuardEvent
  /-- A launch, with a GUI user or without, up to its `trying`. -/
  | launch (session readable : Bool) (write : WriteOutcome)
  | kextload
  /-- The settle window is over. -/
  | settled (write : WriteOutcome)
  | panic
  /-- The file system flushes. -/
  | sync
  /-- A clean restart. -/
  | restart
  /-- `--reset`. -/
  | reset (write : WriteOutcome)
  deriving DecidableEq, Repr

/-- What a launch does to the kernel. -/
inductive GuardAction
  | load
  deriving DecidableEq, Repr

/-- One event. -/
def guardStep : Transducer BootGuard GuardEvent GuardAction
  | s, .launch session readable write =>
    if s.phase = .idle ∧ session = true ∧ readState s.file readable ≠ .trying then
      ({ s with file := echoTo s.file .trying write, phase := .attempting }, [])
    else (s, [])
  | s, .kextload =>
    if s.phase = .attempting then ({ s with phase := .loading }, [.load]) else (s, [])
  | s, .settled write =>
    if s.phase = .loading then ({ s with file := echoTo s.file .ok write, phase := .idle }, [])
    else (s, [])
  | s, .panic =>
    ({ s with file := s.disk, phase := .idle, locked := s.locked || s.phase == .loading }, [])
  | s, .sync => ({ s with disk := s.file }, [])
  | s, .restart => ({ s with disk := s.file, phase := .idle }, [])
  | s, .reset write =>
    ({ s with
        file := echoTo s.file .ok write
        locked := if write = .written then false else s.locked }, [])

/-! ## The property and the condition -/

/-- A load that panicked is not repeated before a reset has succeeded. -/
def NoReload (s : BootGuard) (e : GuardEvent) : Prop :=
  s.locked = true → .load ∉ (guardStep s e).2

/-- The panic of a load finds `trying` on the disk, and until the reset no read fails and no reset
stops at the truncation. -/
def Recorded (s : BootGuard) : GuardEvent → Prop
  | .panic => s.phase = .loading → s.disk = .trying
  | .launch session readable _ => s.locked = true → session = true → readable = true
  | .reset write => s.locked = true → write ≠ .truncated
  | _ => True

/-- While it is locked no launch is under way, and the file says so, on the disk too. -/
def LockedInv (s : BootGuard) : Prop :=
  s.locked = true → s.phase = .idle ∧ s.file = .trying ∧ s.disk = .trying

/-! ## One event -/

/-- A guard with a launch under way is not locked. -/
theorem not_locked_of_phase {s : BootGuard} (hs : LockedInv s) {phase : RunPhase}
    (h : s.phase = phase) (hphase : phase ≠ .idle) : s.locked ≠ true := fun hlocked =>
  hphase (h.symm.trans (hs hlocked).1)

/-- **One recorded event** keeps a locked guard locked, and loads nothing. -/
theorem locked_step {s : BootGuard} (hs : LockedInv s) {e : GuardEvent} (he : Recorded s e) :
    LockedInv (guardStep s e).1 ∧ NoReload s e := by
  unfold LockedInv at hs ⊢
  unfold NoReload
  cases e with
  | launch session readable write =>
    simp only [guardStep]
    split
    · rename_i h
      have hopen : s.locked ≠ true := fun hlocked => by
        obtain ⟨-, hfile, -⟩ := hs hlocked
        refine h.2.2 ?_
        rw [readState, hfile, he hlocked h.2.1]
        rfl
      exact ⟨fun hlocked => absurd hlocked hopen, fun _ => List.not_mem_nil⟩
    · exact ⟨hs, fun _ => List.not_mem_nil⟩
  | kextload =>
    simp only [guardStep]
    split
    · rename_i h
      have hopen := not_locked_of_phase hs h RunPhase.noConfusion
      exact ⟨fun hlocked => absurd hlocked hopen, fun hlocked => absurd hlocked hopen⟩
    · exact ⟨hs, fun _ => List.not_mem_nil⟩
  | settled write =>
    simp only [guardStep]
    split
    · rename_i h
      have hopen := not_locked_of_phase hs h RunPhase.noConfusion
      exact ⟨fun hlocked => absurd hlocked hopen, fun _ => List.not_mem_nil⟩
    · exact ⟨hs, fun _ => List.not_mem_nil⟩
  | panic =>
    refine ⟨fun hlocked => ?_, fun _ => List.not_mem_nil⟩
    have hdisk : s.disk = .trying := by
      rcases Bool.or_eq_true_iff.mp hlocked with hold | hnow
      · exact (hs hold).2.2
      · exact he (beq_iff_eq.mp hnow)
    exact ⟨rfl, hdisk, hdisk⟩
  | sync =>
    refine ⟨fun hlocked => ?_, fun _ => List.not_mem_nil⟩
    obtain ⟨hidle, hfile, -⟩ := hs hlocked
    exact ⟨hidle, hfile, hfile⟩
  | restart =>
    refine ⟨fun hlocked => ?_, fun _ => List.not_mem_nil⟩
    obtain ⟨-, hfile, -⟩ := hs hlocked
    exact ⟨rfl, hfile, hfile⟩
  | reset write =>
    refine ⟨fun hlocked => ?_, fun _ => List.not_mem_nil⟩
    cases write with
    | written => cases hlocked
    | truncated => exact absurd rfl (he hlocked)
    | failed => exact hs hlocked

/-- **At most one panicking load**: where every panic of a load finds `trying` on the disk, and
until the reset no read fails and no reset stops at the truncation, no launch loads the kext between
a load that panicked and the next successful reset. -/
theorem one_panicking_load (file : Sentinel) (es : List GuardEvent)
    (hes : Transducer.Along guardStep Recorded (.start file) es) :
    Transducer.Along guardStep NoReload (.start file) es :=
  Transducer.along_of_invariant (I := LockedInv) (fun _ _ hs he => locked_step hs he)
    (fun h => by cases h) hes

/-! ## The condition is exact -/

/-- A locked guard whose file no longer says `trying` loads again. -/
theorem unlocked_file_loads {s : BootGuard} (hlocked : s.locked = true) (hidle : s.phase = .idle)
    (hfile : s.file ≠ .trying) :
    ¬ Transducer.Along guardStep NoReload s [.launch true true .written, .kextload] := by
  have hread : readState s.file true ≠ .trying := by
    unfold readState
    split
    · exact Sentinel.noConfusion
    · exact hfile
  intro h
  have hload := h.2.1
  simp [NoReload, guardStep, hidle, hread, hlocked] at hload

/-- **Every unrecorded event is paid for**: some continuation repeats a load that panicked. -/
theorem unrecorded_reloads {s : BootGuard} (hs : LockedInv s) {e : GuardEvent}
    (h : ¬ Recorded s e) : ∃ es, ¬ Transducer.Along guardStep NoReload s (e :: es) := by
  cases e with
  | panic =>
    obtain ⟨hloading, hdisk⟩ := Classical.not_imp.mp h
    refine ⟨_, fun hall => unlocked_file_loads ?_ ?_ ?_ hall.2⟩
    · simp [guardStep, hloading]
    · rfl
    · exact hdisk
  | launch session readable write =>
    obtain ⟨hlocked, hlaunch⟩ := Classical.not_imp.mp h
    obtain ⟨hsession, hread⟩ := Classical.not_imp.mp hlaunch
    obtain ⟨hidle, -, -⟩ := hs hlocked
    refine ⟨[.kextload], fun hall => ?_⟩
    have hload := hall.2.1
    simp [NoReload, guardStep, readState, hidle, hsession, hread, hlocked] at hload
  | reset write =>
    obtain ⟨hlocked, hwrite⟩ := Classical.not_imp.mp h
    obtain ⟨hidle, -, -⟩ := hs hlocked
    obtain rfl := Classical.not_not.mp hwrite
    refine ⟨_, fun hall => unlocked_file_loads ?_ ?_ ?_ hall.2⟩
    · exact hlocked
    · exact hidle
    · exact Sentinel.noConfusion
  | _ => exact absurd trivial h

/-- A synced `trying` survives the panic, and the next launch leaves the kext alone. -/
theorem one_panicking_load_synced :
    Transducer.Along guardStep NoReload (.start .missing)
      [.launch true true .written, .kextload, .sync, .panic, .launch true true .written,
        .kextload] := by
  refine one_panicking_load .missing _ ⟨?_, trivial, trivial, ?_, ?_, trivial, trivial⟩
  · intro hlocked
    cases hlocked
  · exact fun _ => rfl
  · exact fun _ _ => rfl

/-- The kext panics the machine before the file system has flushed `trying`: the next launch finds
no file and loads it again. -/
theorem unsynced_sentinel_reloads :
    ¬ Transducer.Along guardStep NoReload (.start .missing)
      [.launch true true .written, .kextload, .panic, .launch true true .written, .kextload] := by
  intro h
  have hload := h.2.2.2.2.1 rfl
  exact hload List.mem_cons_self

end MagicTrackpad
