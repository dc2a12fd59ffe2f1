import MagicTrackpad.Frame
import MagicTrackpad.Lib.Protocol

/-!
# Hosting a genuine driver (`src/mavericks_genuine_host.c`)

`gh_start` allocates one of Apple's drivers, verifies its class, attaches it, patches its vtable and
starts it; `gh_stop` undoes what was done, in an order that depends on how far it got. The IOKit
calls are the adapter's: here they are entries of a log, with what they answered (`GhAnswers`, any
at all).

* `hostRules` is what IOKit and the patched object ask for: nothing is done to a service before its
  class is verified, a patched table is put back before the service is torn down, a service that was
  started is terminated and one that was not is detached, and nothing is released that is still held
  by anyone. `returned` is the return of `gh_start`, under the contract of its header.

Results:
* `ghStart_obeys`, `ghStop_obeys`: one call.
* `gh_obeys_iff`: a run of calls obeys the rules iff no `gh_start` comes while a driver is hosted;
  it would forget that driver.
-/

namespace MagicTrackpad

open Lib

/-- `gh_state_t`. -/
inductive GhState
  | idle
  | alloced
  | attached
  | interposed
  | started
  deriving DecidableEq, Repr

/-- `gh_host_t`: the state and the hosted service. -/
structure GhHost where
  state : GhState
  obj : Addr
  deriving DecidableEq

/-- What the adapter's callbacks answer in one `gh_start`. -/
structure GhAnswers where
  alloc : Addr
  classOk : Bool
  initAttach : Bool
  interpose : Int
  start : Bool

/-- A call of the adapter, with its answer, or the return of `gh_start`. -/
inductive GhOp
  | alloc (obj : Addr)
  | classOk (obj : Addr) (ok : Bool)
  | initAttach (obj : Addr) (ok : Bool)
  | interpose (obj : Addr) (rc : Int)
  | start (obj : Addr) (ok : Bool)
  | restore (obj : Addr)
  | detach (obj : Addr)
  | terminate (obj : Addr)
  | release (obj : Addr)
  | returned (code : Int)

/-- `gh_stop`. -/
def ghStop (h : GhHost) : GhHost × List GhOp :=
  (⟨.idle, 0⟩,
    match h.state with
    | .started => [.restore h.obj, .terminate h.obj, .release h.obj]
    | .interposed => [.restore h.obj, .detach h.obj, .release h.obj]
    | .attached => [.detach h.obj, .release h.obj]
    | .alloced => [.release h.obj]
    | .idle => [])

/-- The way out of `gh_start` where a step failed. -/
def ghFail (code : Int) (h : GhHost) (log : List GhOp) : GhHost × List GhOp :=
  ((ghStop h).1, log ++ (ghStop h).2 ++ [.returned code])

/-- `gh_start`. -/
def ghStart (a : GhAnswers) : GhHost × List GhOp :=
  let obj := a.alloc
  if obj = 0 then (⟨.idle, 0⟩, [.alloc obj, .returned (-1)])
  else if !a.classOk then ghFail (-3) ⟨.alloced, obj⟩ [.alloc obj, .classOk obj false]
  else if !a.initAttach then
    ghFail (-2) ⟨.alloced, obj⟩ [.alloc obj, .classOk obj true, .initAttach obj false]
  else if a.interpose ≠ 0 then
    ghFail (-4) ⟨.attached, obj⟩
      [.alloc obj, .classOk obj true, .initAttach obj true, .interpose obj a.interpose]
  else if !a.start then
    ghFail (-5) ⟨.interposed, obj⟩
      [.alloc obj, .classOk obj true, .initAttach obj true, .interpose obj 0, .start obj false]
  else
    (⟨.started, obj⟩,
      [.alloc obj, .classOk obj true, .initAttach obj true, .interpose obj 0, .start obj true,
        .returned 0])

/-- A call of the host's owner. -/
inductive GhCall
  | start (a : GhAnswers)
  | stop

/-- One call. -/
def ghStep : Transducer GhHost GhCall GhOp
  -- `gh_start` sets every field of the host before it calls anything
  | _, .start a => ghStart a
  | h, .stop => ghStop h

/-! ## The rules -/

/-- A service as IOKit and its vtable see it; `obj` is NULL where there is none. -/
structure Hosted where
  obj : Addr
  verified : Bool
  attached : Bool
  patched : Bool
  started : Bool
  deriving DecidableEq

/-- No service at all. -/
def Hosted.nothing : Hosted := ⟨0, false, false, false, false⟩

/-- What may be done to a service. -/
def hostRules : Protocol Hosted GhOp
  -- a service that nobody gave back would be lost
  | s, .alloc obj => if s.obj = 0 then some { Hosted.nothing with obj := obj } else none
  | s, .classOk obj ok =>
    if s.obj = obj ∧ obj ≠ 0 ∧ s.attached = false then some { s with verified := ok } else none
  | s, .initAttach obj ok =>
    if s.obj = obj ∧ s.verified ∧ s.attached = false then some { s with attached := ok } else none
  -- no vtable write before the class is known; all or nothing
  | s, .interpose obj rc =>
    if s.obj = obj ∧ s.verified ∧ s.attached ∧ s.patched = false then
      some { s with patched := rc = 0 }
    else none
  | s, .start obj ok =>
    if s.obj = obj ∧ s.attached ∧ s.patched ∧ s.started = false then
      some { s with started := ok }
    else none
  | s, .restore obj =>
    if s.obj = obj ∧ s.patched then some { s with patched := false } else none
  | s, .detach obj =>
    if s.obj = obj ∧ s.attached ∧ s.patched = false ∧ s.started = false then
      some { s with attached := false }
    else none
  -- terminate drives the stop and the detach itself
  | s, .terminate obj =>
    if s.obj = obj ∧ s.started ∧ s.patched = false then
      some { s with attached := false, started := false }
    else none
  | s, .release obj =>
    if s.obj = obj ∧ obj ≠ 0 ∧ s.attached = false ∧ s.patched = false ∧ s.started = false then
      some Hosted.nothing
    else none
  | s, .returned code =>
    if code = 0 ∧ s.started ∨ code ≠ 0 ∧ s = Hosted.nothing then some s else none

/-- The host's fields say what is hosted. -/
def GhFits (h : GhHost) (s : Hosted) : Prop :=
  (h.state = .idle ∧ h.obj = 0 ∧ s = Hosted.nothing) ∨
    (h.state = .started ∧ h.obj ≠ 0 ∧ s = ⟨h.obj, true, true, true, true⟩)

/-- A `gh_start` comes where nothing is hosted. -/
def StartsIdle (h : GhHost) : GhCall → Prop
  | .start _ => h.state = .idle
  | .stop => True

/-- A start from nothing: hosted in the end, or all undone. -/
theorem ghStart_obeys (a : GhAnswers) :
    ∃ s, Protocol.obeys hostRules Hosted.nothing (ghStart a).2 = some s ∧
      GhFits (ghStart a).1 s := by
  unfold ghStart
  simp only
  by_cases halloc : a.alloc = 0
  · rw [if_pos halloc]
    refine ⟨Hosted.nothing, ?_, Or.inl ⟨rfl, rfl, rfl⟩⟩
    simp [Protocol.obeys, hostRules, Hosted.nothing, halloc]
  rw [if_neg halloc]
  have hobj : ¬a.alloc = 0#64 := halloc
  cases a.classOk with
  | false =>
    refine ⟨Hosted.nothing, ?_, Or.inl ⟨rfl, rfl, rfl⟩⟩
    simp [ghFail, ghStop, Protocol.obeys, hostRules, Hosted.nothing, hobj]
  | true =>
    cases a.initAttach with
    | false =>
      refine ⟨Hosted.nothing, ?_, Or.inl ⟨rfl, rfl, rfl⟩⟩
      simp [ghFail, ghStop, Protocol.obeys, hostRules, Hosted.nothing, hobj]
    | true =>
      by_cases hrc : a.interpose = 0
      · rw [hrc]
        cases a.start with
        | false =>
          refine ⟨Hosted.nothing, ?_, Or.inl ⟨rfl, rfl, rfl⟩⟩
          simp [ghFail, ghStop, Protocol.obeys, hostRules, Hosted.nothing, hobj]
        | true =>
          refine ⟨⟨a.alloc, true, true, true, true⟩, ?_, Or.inr ⟨rfl, halloc, rfl⟩⟩
          simp [Protocol.obeys, hostRules, Hosted.nothing, hobj]
      · refine ⟨Hosted.nothing, ?_, ?_⟩
        · simp [ghFail, ghStop, Protocol.obeys, hostRules, Hosted.nothing, hobj, hrc]
        · simp only [Bool.not_true, Bool.false_eq_true, if_false, ne_eq, hrc, not_false_eq_true,
            if_true]
          exact Or.inl ⟨rfl, rfl, rfl⟩

theorem ghStop_obeys {h : GhHost} {s : Hosted} (hfits : GhFits h s) :
    ∃ s', Protocol.obeys hostRules s (ghStop h).2 = some s' ∧ GhFits (ghStop h).1 s' := by
  refine ⟨Hosted.nothing, ?_, Or.inl ⟨rfl, rfl, rfl⟩⟩
  unfold ghStop
  rcases hfits with ⟨hstate, -, rfl⟩ | ⟨hstate, hobj, rfl⟩
  · rw [hstate]
    rfl
  · have hne : ¬h.obj = 0#64 := hobj
    rw [hstate]
    simp [Protocol.obeys, hostRules, Hosted.nothing, hne]

/-- Every start begins with an allocation. -/
theorem ghStart_alloc (a : GhAnswers) : ∃ log, (ghStart a).2 = .alloc a.alloc :: log := by
  unfold ghStart ghFail
  simp only [List.cons_append]
  split_ifs <;> exact ⟨_, rfl⟩

/-- **The host gives back what it took, in the right order, and only then forgets it**: on exactly
the runs in which no `gh_start` comes while a driver is hosted. -/
theorem gh_obeys_iff (calls : List GhCall) :
    (∃ s, Protocol.obeys hostRules Hosted.nothing
          (Transducer.run ghStep ⟨.idle, 0⟩ calls).2 = some s ∧
        GhFits (Transducer.run ghStep ⟨.idle, 0⟩ calls).1 s) ↔
      Transducer.Along ghStep StartsIdle ⟨.idle, 0⟩ calls := by
  refine Protocol.obeys_run_iff (A := fun _ _ => True) (R := GhFits) ?_ ?_
    (Or.inl ⟨rfl, rfl, rfl⟩) (Transducer.along_true calls)
  · intro h s call hfits _ hcall
    cases call with
    | start a =>
      rcases hfits with ⟨-, -, rfl⟩ | ⟨hstate, -, -⟩
      · exact ghStart_obeys a
      · have hidle : h.state = .idle := hcall
        rw [hstate] at hidle
        exact absurd hidle (by decide)
    | stop => exact ghStop_obeys hfits
  · intro h s call hfits _ hcall
    cases call with
    | start a =>
      rcases hfits with ⟨hstate, -, -⟩ | ⟨-, hobj, rfl⟩
      · exact absurd hstate hcall
      · obtain ⟨log, hlog⟩ := ghStart_alloc a
        simp only [ghStep, hlog, Protocol.obeys, hostRules, if_neg hobj]
        rfl
    | stop => exact absurd trivial hcall

end MagicTrackpad
