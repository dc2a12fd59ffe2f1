import MagicTrackpad.Frame
import MagicTrackpad.Lib.Bitmask
import MagicTrackpad.Lib.History
import Mathlib.Logic.Function.Basic

/-!
# The stream diagnostics (`kext-gesture/mavericks_diag.cpp`)

Each transport logs the report ids it has seen, once each; that frames came again after a minute of
nothing; the first frame of the stream; and, at log level 2, every frame. A reset makes the stream
fresh. The marks are kept whether or not the line they stand for is printed.

* `now` is `diag_now_ms()` at the call.
* A clock at 0 means that there was no activity.

Results:
* `diagInv_step`: the marks of a stream in terms of the history.
* `diag_marks`: which line a call logs, in every interleaving of the calls for both transports.
-/

namespace MagicTrackpad

open Lib

/-- The state of one transport in `gDiag`. -/
structure DiagStream where
  seen : Nat → U8
  lastMs : BitVec 64
  firstLogged : Bool

/-- A fresh stream. -/
def DiagStream.fresh : DiagStream := ⟨fun _ => 0#8, 0#64, false⟩

/-- `gDiag` and `gMavericksLogLevel`. -/
structure Diag where
  level : Int
  gDiag : U32 → DiagStream

/-- The kext is loaded. -/
def Diag.start : Diag := ⟨0, fun _ => .fresh⟩

/-- The stream `x` is now `st`. -/
def Diag.set (s : Diag) (x : U32) (st : DiagStream) : Diag :=
  { s with gDiag := Function.update s.gDiag x st }

/-- A line of the log; the name of the transport is `x`. -/
inductive DiagLine
  | saw (x : U32) (id : U8)
  | resumed (x : U32) (gap : BitVec 64) (id : U8)
  | steady (x : U32)
  | edge (x : U32) (n : Nat) (cx cy : Int) (ts : U32)
  | lift (x : U32) (ts : U32)
  deriving DecidableEq

/-- `MAVERICKS_DLOG`. -/
def Diag.dlog (s : Diag) (lvl : Int) (line : DiagLine) : List DiagLine :=
  if lvl ≤ s.level then [line] else []

/-- `MAVERICKS_DIAG_NXPORT`. -/
abbrev diagNxport : U32 := 2#32

/-- `MAVERICKS_DIAG_GAP_MS`. -/
abbrev diagGapMs : BitVec 64 := 60000#64

/-- `mavericks_diag_reset`. -/
def diagReset (s : Diag) (x : U32) : Diag :=
  if diagNxport ≤ x then s else s.set x .fresh

/-- `mavericks_diag_saw_id`. -/
def diagSawId (s : Diag) (x : U32) (id : U8) : Diag × List DiagLine :=
  if diagNxport ≤ x then (s, [])
  else if Bitmask.testAt (s.gDiag x).seen id.toNat then (s, [])
  else
    (s.set x { s.gDiag x with seen := Bitmask.setAt (s.gDiag x).seen id.toNat },
      s.dlog 1 (.saw x id))

/-- `mavericks_diag_raw`. -/
def diagRaw (s : Diag) (x : U32) (id : U8) (now : BitVec 64) : Diag × List DiagLine :=
  if diagNxport ≤ x then (s, [])
  else
    let r := diagSawId s x id
    let last := (r.1.gDiag x).lastMs
    (r.1.set x { r.1.gDiag x with lastMs := now },
      r.2 ++
        if last ≠ 0 ∧ diagGapMs ≤ now - last then s.dlog 1 (.resumed x (now - last) id) else [])

/-- The line of a frame. -/
def edgeLine (x : U32) (frame : TouchFrame) (now : BitVec 64) : DiagLine :=
  -- 22 bits, the clock of the packets
  let ts := (now &&& 0x3FFFFF#64).setWidth 32
  let c := (frame.transducers.slots 0).currentCoordinates
  if 0 < frame.contactCount then .edge x frame.contactCount c.x c.y ts else .lift x ts

/-- `mavericks_diag_frame`. -/
def diagFrame (s : Diag) (x : U32) (frame : Option TouchFrame) (wantFirst : Bool)
    (now : BitVec 64) : Diag × List DiagLine :=
  if diagNxport ≤ x then (s, [])
  else
    match frame with
    | none => (s, [])
    | some frame =>
      let first := wantFirst && !(s.gDiag x).firstLogged
      (if first then s.set x { s.gDiag x with firstLogged := true } else s,
        (if first then s.dlog 1 (.steady x) else []) ++ s.dlog 2 (edgeLine x frame now))

/-- A call of the readers, or a write of `debug.mavericks_log`. -/
inductive DiagCall
  | reset (x : U32)
  | sawId (x : U32) (id : U8)
  | raw (x : U32) (id : U8) (now : BitVec 64)
  | frame (x : U32) (frame : Option TouchFrame) (wantFirst : Bool) (now : BitVec 64)
  | logLevel (level : Int)

/-- One call. -/
def diagStep : Transducer Diag DiagCall DiagLine
  | s, .reset x => (diagReset s x, [])
  | s, .sawId x id => diagSawId s x id
  | s, .raw x id now => diagRaw s x id now
  | s, .frame x frame wantFirst now => diagFrame s x frame wantFirst now
  | s, .logLevel level => ({ s with level := level }, [])

/-- The state after a history. -/
def diagAfter (es : List DiagCall) : Diag := (Transducer.run diagStep .start es).1

/-! ## The history -/

/-- The call reports the id. -/
def DiagCall.Sights (x : U32) (id : U8) (e : DiagCall) : Prop :=
  e = .sawId x id ∨ ∃ now, e = .raw x id now

/-- The call is for a first frame. -/
def DiagCall.First (x : U32) (e : DiagCall) : Prop :=
  ∃ frame now, e = .frame x (some frame) true now

/-- The id was reported since the latest reset. -/
def Sighted (es : List DiagCall) (x : U32) (id : U8) : Prop :=
  Since (fun _ e => e.Sights x id) (fun e => e ≠ .reset x) es

/-- The latest activity of the stream was at `t`. -/
def LastRaw (es : List DiagCall) (x : U32) (t : BitVec 64) : Prop :=
  Since (fun _ e => ∃ id, e = .raw x id t) (fun e => e ≠ .reset x ∧ ∀ id now, e ≠ .raw x id now) es

/-- A first frame came since the latest reset. -/
def FirstCame (es : List DiagCall) (x : U32) : Prop :=
  Since (fun _ e => e.First x) (fun e => e ≠ .reset x) es

/-- The marks of the streams in terms of the history. -/
structure DiagInv (es : List DiagCall) (s : Diag) : Prop where
  seen : ∀ x < diagNxport, ∀ id : U8,
    Bitmask.testAt (s.gDiag x).seen id.toNat = true ↔ Sighted es x id
  clock : ∀ x < diagNxport, ∀ t ≠ 0, (s.gDiag x).lastMs = t ↔ LastRaw es x t
  first : ∀ x < diagNxport, (s.gDiag x).firstLogged = true ↔ FirstCame es x

theorem diagInv_start : DiagInv [] .start where
  seen := fun _ _ id => iff_of_false
    (fun h => Bool.false_ne_true ((Bitmask.testAt_zero id.toNat).symm.trans h)) (not_since_nil _ _)
  clock := fun _ _ _ ht => iff_of_false (fun h => ht h.symm) (not_since_nil _ _)
  first := fun _ _ => iff_of_false Bool.false_ne_true (not_since_nil _ _)

theorem sighted_concat (es : List DiagCall) (e : DiagCall) (x : U32) (id : U8) :
    Sighted (es ++ [e]) x id ↔ e.Sights x id ∨ (Sighted es x id ∧ e ≠ .reset x) :=
  since_concat _ _ es e

theorem lastRaw_concat (es : List DiagCall) (e : DiagCall) (x : U32) (t : BitVec 64) :
    LastRaw (es ++ [e]) x t ↔ (∃ id, e = .raw x id t) ∨
      (LastRaw es x t ∧ e ≠ .reset x ∧ ∀ id now, e ≠ .raw x id now) :=
  since_concat _ _ es e

theorem firstCame_concat (es : List DiagCall) (e : DiagCall) (x : U32) :
    FirstCame (es ++ [e]) x ↔ e.First x ∨ (FirstCame es x ∧ e ≠ .reset x) :=
  since_concat _ _ es e

/-! ## One call -/

@[simp] theorem gDiag_set (s : Diag) (x y : U32) (st : DiagStream) :
    (s.set x st).gDiag y = if y = x then st else s.gDiag y := Function.update_apply _ _ _ _

/-- **An id that is reported becomes a mark**, and nothing else does. -/
theorem diagSawId_spec (s : Diag) (x : U32) (id : U8) {y : U32} (hy : y < diagNxport) :
    (∀ i : U8, Bitmask.testAt ((diagSawId s x id).1.gDiag y).seen i.toNat = true ↔
      (x = y ∧ id = i) ∨ Bitmask.testAt (s.gDiag y).seen i.toNat = true) ∧
    ((diagSawId s x id).1.gDiag y).lastMs = (s.gDiag y).lastMs ∧
    ((diagSawId s x id).1.gDiag y).firstLogged = (s.gDiag y).firstLogged := by
  unfold diagSawId
  by_cases hx : diagNxport ≤ x
  · have hne : x ≠ y := fun h => BitVec.not_lt.mpr hx (h ▸ hy)
    simp [if_pos hx, hne]
  · rw [if_neg hx]
    by_cases hseen : Bitmask.testAt (s.gDiag x).seen id.toNat = true
    · rw [if_pos hseen]
      refine ⟨fun i => (or_iff_right_of_imp ?_).symm, rfl, rfl⟩
      rintro ⟨rfl, rfl⟩
      exact hseen
    · rw [if_neg hseen]
      by_cases hxy : x = y
      · subst hxy
        simp [Bitmask.testAt_setAt, BitVec.toNat_inj, or_comm]
      · simp [hxy, Ne.symm hxy]

/-- **Activity sets the clock**, and reports its id. -/
theorem diagRaw_spec (s : Diag) (x : U32) (id : U8) (now : BitVec 64) {y : U32}
    (hy : y < diagNxport) :
    ((diagRaw s x id now).1.gDiag y).seen = ((diagSawId s x id).1.gDiag y).seen ∧
    ((diagRaw s x id now).1.gDiag y).lastMs = (if y = x then now else (s.gDiag y).lastMs) ∧
    ((diagRaw s x id now).1.gDiag y).firstLogged = (s.gDiag y).firstLogged := by
  obtain ⟨-, hclock, hfirst⟩ := diagSawId_spec s x id hy
  unfold diagRaw
  by_cases hx : diagNxport ≤ x
  · have hne : y ≠ x := fun h => BitVec.not_lt.mpr hx (h ▸ hy)
    simp [if_pos hx, hne, diagSawId]
  · rw [if_neg hx]
    by_cases hyx : y = x
    · subst hyx
      simp [hfirst]
    · simp [hyx, hclock, hfirst]

/-- **A frame can only set the mark of the first one.** -/
theorem diagFrame_spec (s : Diag) (x : U32) (frame : Option TouchFrame) (wantFirst : Bool)
    (now : BitVec 64) {y : U32} (hy : y < diagNxport) :
    ((diagFrame s x frame wantFirst now).1.gDiag y).seen = (s.gDiag y).seen ∧
    ((diagFrame s x frame wantFirst now).1.gDiag y).lastMs = (s.gDiag y).lastMs ∧
    (((diagFrame s x frame wantFirst now).1.gDiag y).firstLogged = true ↔
      (x = y ∧ frame ≠ none ∧ wantFirst = true) ∨ (s.gDiag y).firstLogged = true) := by
  unfold diagFrame
  by_cases hx : diagNxport ≤ x
  · have hne : x ≠ y := fun h => BitVec.not_lt.mpr hx (h ▸ hy)
    simp [if_pos hx, hne]
  · rw [if_neg hx]
    cases frame with
    | none => simp
    | some frame =>
      by_cases hxy : x = y
      · subst hxy
        cases wantFirst <;> cases hlogged : (s.gDiag x).firstLogged <;> simp [hlogged]
      · by_cases hfirst : (wantFirst && !(s.gDiag x).firstLogged) = true <;>
          simp [hxy, Ne.symm hxy, hfirst]

theorem diagReset_spec (s : Diag) (x : U32) {y : U32} (hy : y < diagNxport) :
    (diagReset s x).gDiag y = if y = x then .fresh else s.gDiag y := by
  unfold diagReset
  by_cases hx : diagNxport ≤ x
  · have hne : y ≠ x := fun h => BitVec.not_lt.mpr hx (h ▸ hy)
    rw [if_pos hx, if_neg hne]
  · rw [if_neg hx, gDiag_set]

theorem diagInv_step {es : List DiagCall} {s : Diag} (hs : DiagInv es s) (e : DiagCall) :
    DiagInv (es ++ [e]) (diagStep s e).1 := by
  cases e with
  | reset x =>
    refine ⟨fun y hy i => ?_, fun y hy t ht => ?_, fun y hy => ?_⟩
    · rw [sighted_concat, ← hs.seen y hy i]
      simp only [diagStep, diagReset_spec s x hy, DiagCall.Sights]
      by_cases hyx : y = x
      · simp [hyx, DiagStream.fresh, Bitmask.testAt_zero]
      · simp [hyx, Ne.symm hyx]
    · rw [lastRaw_concat, ← hs.clock y hy t ht]
      simp only [diagStep, diagReset_spec s x hy]
      by_cases hyx : y = x
      · have hzero : ¬0#64 = t := fun h => ht h.symm
        simp [hyx, DiagStream.fresh, hzero]
      · simp [hyx, Ne.symm hyx]
    · rw [firstCame_concat, ← hs.first y hy]
      simp only [diagStep, diagReset_spec s x hy, DiagCall.First]
      by_cases hyx : y = x
      · simp [hyx, DiagStream.fresh]
      · simp [hyx, Ne.symm hyx]
  | sawId x id =>
    refine ⟨fun y hy i => ?_, fun y hy t ht => ?_, fun y hy => ?_⟩
    · rw [sighted_concat, ← hs.seen y hy i, diagStep, (diagSawId_spec s x id hy).1]
      simp [DiagCall.Sights]
    · rw [lastRaw_concat, ← hs.clock y hy t ht, diagStep, (diagSawId_spec s x id hy).2.1]
      simp
    · rw [firstCame_concat, ← hs.first y hy, diagStep, (diagSawId_spec s x id hy).2.2]
      simp [DiagCall.First]
  | raw x id now =>
    refine ⟨fun y hy i => ?_, fun y hy t ht => ?_, fun y hy => ?_⟩
    · rw [sighted_concat, ← hs.seen y hy i, diagStep, (diagRaw_spec s x id now hy).1,
        (diagSawId_spec s x id hy).1]
      simp [DiagCall.Sights]
    · rw [lastRaw_concat, ← hs.clock y hy t ht, diagStep, (diagRaw_spec s x id now hy).2.1]
      by_cases hyx : y = x
      · simp [hyx]
      · simp [hyx, Ne.symm hyx]
    · rw [firstCame_concat, ← hs.first y hy, diagStep, (diagRaw_spec s x id now hy).2.2]
      simp [DiagCall.First]
  | frame x frame wantFirst now =>
    refine ⟨fun y hy i => ?_, fun y hy t ht => ?_, fun y hy => ?_⟩
    · rw [sighted_concat, ← hs.seen y hy i, diagStep, (diagFrame_spec s x frame wantFirst now hy).1]
      simp [DiagCall.Sights]
    · rw [lastRaw_concat, ← hs.clock y hy t ht, diagStep,
        (diagFrame_spec s x frame wantFirst now hy).2.1]
      simp
    · rw [firstCame_concat, ← hs.first y hy, diagStep,
        (diagFrame_spec s x frame wantFirst now hy).2.2]
      cases frame <;> simp [DiagCall.First]
  | logLevel level =>
    refine ⟨fun y hy i => ?_, fun y hy t ht => ?_, fun y hy => ?_⟩
    · rw [sighted_concat, ← hs.seen y hy i]
      simp [diagStep, DiagCall.Sights]
    · rw [lastRaw_concat, ← hs.clock y hy t ht]
      simp [diagStep]
    · rw [firstCame_concat, ← hs.first y hy]
      simp [diagStep, DiagCall.First]

theorem diagInv_diagAfter (es : List DiagCall) : DiagInv es (diagAfter es) :=
  Transducer.run_history_induction diagStep (I := DiagInv) diagInv_start
    (fun _ _ e hs => diagInv_step hs e) es

/-! ## The lines -/

theorem mem_dlog {s : Diag} {lvl : Int} {line line' : DiagLine} :
    line ∈ s.dlog lvl line' ↔ lvl ≤ s.level ∧ line = line' := by
  unfold Diag.dlog
  by_cases h : lvl ≤ s.level <;> simp [h]

theorem mem_diagSawId {s : Diag} {x : U32} {id : U8} {line : DiagLine} :
    line ∈ (diagSawId s x id).2 ↔ x < diagNxport ∧
      Bitmask.testAt (s.gDiag x).seen id.toNat = false ∧ 1 ≤ s.level ∧ line = .saw x id := by
  unfold diagSawId
  by_cases hx : diagNxport ≤ x
  · simp [hx, BitVec.not_lt.mpr hx]
  · by_cases hseen : Bitmask.testAt (s.gDiag x).seen id.toNat = true
    · simp [hx, hseen]
    · simp [hx, hseen, BitVec.not_le.mp hx, mem_dlog]

theorem mem_diagRaw {s : Diag} {x : U32} {id : U8} {now : BitVec 64} {line : DiagLine} :
    line ∈ (diagRaw s x id now).2 ↔ line ∈ (diagSawId s x id).2 ∨
      x < diagNxport ∧ ((s.gDiag x).lastMs ≠ 0 ∧ diagGapMs ≤ now - (s.gDiag x).lastMs) ∧
        1 ≤ s.level ∧ line = .resumed x (now - (s.gDiag x).lastMs) id := by
  unfold diagRaw
  by_cases hx : diagNxport ≤ x
  · simp [hx, BitVec.not_lt.mpr hx, diagSawId]
  · have hlt := BitVec.not_le.mp hx
    simp only [if_neg hx, (diagSawId_spec s x id hlt).2.1, List.mem_append, hlt, true_and]
    refine or_congr_right ?_
    by_cases hgap : (s.gDiag x).lastMs ≠ 0 ∧ diagGapMs ≤ now - (s.gDiag x).lastMs
    · rw [if_pos hgap, mem_dlog, and_iff_right hgap]
    · rw [if_neg hgap]
      exact iff_of_false List.not_mem_nil fun h => hgap h.1

theorem mem_diagFrame {s : Diag} {x : U32} {frame : Option TouchFrame} {wantFirst : Bool}
    {now : BitVec 64} {line : DiagLine} :
    line ∈ (diagFrame s x frame wantFirst now).2 ↔ x < diagNxport ∧ ∃ f, frame = some f ∧
      ((wantFirst = true ∧ (s.gDiag x).firstLogged = false ∧ 1 ≤ s.level ∧ line = .steady x) ∨
        2 ≤ s.level ∧ line = edgeLine x f now) := by
  unfold diagFrame
  by_cases hx : diagNxport ≤ x
  · simp [hx, BitVec.not_lt.mpr hx]
  · cases frame with
    | none => simp [hx]
    | some f =>
      have hlt := BitVec.not_le.mp hx
      by_cases hfirst : wantFirst = true ∧ (s.gDiag x).firstLogged = false
      · simp [hx, hlt, hfirst, mem_dlog]
      · have hnot : (wantFirst && !(s.gDiag x).firstLogged) = false := by
          simpa using hfirst
        have hmark : ¬(wantFirst = true ∧ (s.gDiag x).firstLogged = false ∧ 1 ≤ s.level ∧
            line = .steady x) := fun h => hfirst ⟨h.1, h.2.1⟩
        simp only [if_neg hx, hlt, hnot, mem_dlog, true_and, Bool.false_eq_true, if_false,
          List.nil_append, Option.some.injEq, exists_eq_left', hmark, false_or]

/-- The line of a frame is no mark. -/
theorem edgeLine_cases (x : U32) (frame : TouchFrame) (now : BitVec 64) :
    (∃ n cx cy ts, edgeLine x frame now = .edge x n cx cy ts) ∨
      ∃ ts, edgeLine x frame now = .lift x ts := by
  unfold edgeLine
  by_cases h : 0 < frame.contactCount
  · exact .inl ⟨_, _, _, _, if_pos h⟩
  · exact .inr ⟨_, if_neg h⟩

/-- A line about an id. -/
theorem saw_mem_diagStep (s : Diag) (e : DiagCall) (x : U32) (id : U8) :
    .saw x id ∈ (diagStep s e).2 ↔ x < diagNxport ∧ 1 ≤ s.level ∧ e.Sights x id ∧
      Bitmask.testAt (s.gDiag x).seen id.toNat = false := by
  cases e with
  | reset y => simp [diagStep, DiagCall.Sights]
  | sawId y i =>
    simp only [diagStep, mem_diagSawId, DiagLine.saw.injEq, DiagCall.Sights,
      DiagCall.sawId.injEq, reduceCtorEq, exists_false, or_false]
    constructor
    · rintro ⟨hy, hseen, hlevel, rfl, rfl⟩
      exact ⟨hy, hlevel, ⟨rfl, rfl⟩, hseen⟩
    · rintro ⟨hx, hlevel, ⟨rfl, rfl⟩, hseen⟩
      exact ⟨hx, hseen, hlevel, rfl, rfl⟩
  | raw y i now =>
    simp only [diagStep, mem_diagRaw, mem_diagSawId, DiagLine.saw.injEq, DiagCall.Sights,
      DiagCall.raw.injEq, reduceCtorEq, and_false, or_false, false_or]
    constructor
    · rintro ⟨hy, hseen, hlevel, rfl, rfl⟩
      exact ⟨hy, hlevel, ⟨now, rfl, rfl, rfl⟩, hseen⟩
    · rintro ⟨hx, hlevel, ⟨_, rfl, rfl, -⟩, hseen⟩
      exact ⟨hx, hseen, hlevel, rfl, rfl⟩
  | frame y frame wantFirst now =>
    simp only [diagStep, mem_diagFrame, DiagCall.Sights, reduceCtorEq, and_false, false_or]
    refine iff_of_false ?_ (by simp)
    rintro ⟨-, f, -, -, hline⟩
    rcases edgeLine_cases y f now with ⟨_, _, _, _, h⟩ | ⟨_, h⟩ <;> exact nomatch hline.trans h
  | logLevel level => simp [diagStep, DiagCall.Sights]

/-- A line about a gap. -/
theorem resumed_mem_diagStep (s : Diag) (e : DiagCall) (x : U32) (gap : BitVec 64) (id : U8) :
    .resumed x gap id ∈ (diagStep s e).2 ↔ x < diagNxport ∧ 1 ≤ s.level ∧
      ∃ now, e = .raw x id now ∧ (s.gDiag x).lastMs ≠ 0 ∧ gap = now - (s.gDiag x).lastMs ∧
        diagGapMs ≤ gap := by
  cases e with
  | reset y => simp [diagStep]
  | sawId y i => simp [diagStep, mem_diagSawId]
  | raw y i now =>
    simp only [diagStep, mem_diagRaw, mem_diagSawId, DiagLine.resumed.injEq,
      DiagCall.raw.injEq, reduceCtorEq, and_false, false_or]
    constructor
    · rintro ⟨hy, ⟨hlast, hlong⟩, hlevel, rfl, rfl, rfl⟩
      exact ⟨hy, hlevel, now, ⟨rfl, rfl, rfl⟩, hlast, rfl, hlong⟩
    · rintro ⟨hx, hlevel, _, ⟨rfl, rfl, rfl⟩, hlast, rfl, hlong⟩
      exact ⟨hx, ⟨hlast, hlong⟩, hlevel, rfl, rfl, rfl⟩
  | frame y frame wantFirst now =>
    simp only [diagStep, mem_diagFrame, reduceCtorEq, and_false, false_or]
    refine iff_of_false ?_ (by simp)
    rintro ⟨-, f, -, -, hline⟩
    rcases edgeLine_cases y f now with ⟨_, _, _, _, h⟩ | ⟨_, h⟩ <;> exact nomatch hline.trans h
  | logLevel level => simp [diagStep]

/-- A line about a first frame. -/
theorem steady_mem_diagStep (s : Diag) (e : DiagCall) (x : U32) :
    .steady x ∈ (diagStep s e).2 ↔ x < diagNxport ∧ 1 ≤ s.level ∧ e.First x ∧
      (s.gDiag x).firstLogged = false := by
  cases e with
  | reset y => simp [diagStep, DiagCall.First]
  | sawId y i => simp [diagStep, mem_diagSawId, DiagCall.First]
  | raw y i now => simp [diagStep, mem_diagRaw, mem_diagSawId, DiagCall.First]
  | frame y frame wantFirst now =>
    simp only [diagStep, mem_diagFrame, DiagLine.steady.injEq, DiagCall.First,
      DiagCall.frame.injEq]
    constructor
    · rintro ⟨hy, f, rfl, ⟨rfl, hlogged, hlevel, rfl⟩ | ⟨-, hline⟩⟩
      · exact ⟨hy, hlevel, ⟨f, now, rfl, rfl, rfl, rfl⟩, hlogged⟩
      · rcases edgeLine_cases y f now with ⟨_, _, _, _, h⟩ | ⟨_, h⟩ <;> exact nomatch hline.trans h
    · rintro ⟨hx, hlevel, ⟨f, _, rfl, rfl, rfl, rfl⟩, hlogged⟩
      exact ⟨hx, f, rfl, .inl ⟨rfl, hlogged, hlevel, rfl⟩⟩
  | logLevel level => simp [diagStep, DiagCall.First]

/-- **The marks of a stream**: after any interleaving of calls for both transports and of changes of
the log level, a call logs an id iff it reports it and no call since the latest reset of that
transport did; that frames came again iff there was activity since that reset, at a time other than
0, and the latest is a minute old or more; and the first frame iff it is for one and none came since
that reset. Each at level 1 or more at the time of the call, and at no other time. -/
theorem diag_marks (es : List DiagCall) (e : DiagCall) (x : U32) :
    (∀ id, .saw x id ∈ (diagStep (diagAfter es) e).2 ↔
      x < diagNxport ∧ 1 ≤ (diagAfter es).level ∧ e.Sights x id ∧ ¬Sighted es x id) ∧
    (∀ gap id, .resumed x gap id ∈ (diagStep (diagAfter es) e).2 ↔
      x < diagNxport ∧ 1 ≤ (diagAfter es).level ∧ ∃ now last, e = .raw x id now ∧ last ≠ 0 ∧
        LastRaw es x last ∧ gap = now - last ∧ diagGapMs ≤ gap) ∧
    (.steady x ∈ (diagStep (diagAfter es) e).2 ↔
      x < diagNxport ∧ 1 ≤ (diagAfter es).level ∧ e.First x ∧ ¬FirstCame es x) := by
  have hinv := diagInv_diagAfter es
  refine ⟨fun id => ?_, fun gap id => ?_, ?_⟩
  · rw [saw_mem_diagStep, ← Bool.not_eq_true]
    refine and_congr_right fun hx => ?_
    rw [hinv.seen x hx id]
  · rw [resumed_mem_diagStep]
    refine and_congr_right fun hx => and_congr_right fun _ => ?_
    constructor
    · rintro ⟨now, he, hlast, hgap, hlong⟩
      exact ⟨now, _, he, hlast, (hinv.clock x hx _ hlast).mp rfl, hgap, hlong⟩
    · rintro ⟨now, last, he, hlast, hraw, hgap, hlong⟩
      obtain rfl := (hinv.clock x hx last hlast).mpr hraw
      exact ⟨now, he, hlast, hgap, hlong⟩
  · rw [steady_mem_diagStep, ← Bool.not_eq_true]
    refine and_congr_right fun hx => ?_
    rw [hinv.first x hx]

end MagicTrackpad
