import MagicTrackpad.Frame
import MagicTrackpad.Lib.History
import Mathlib.Logic.Function.Basic

/-!
# The splice engine (`src/mavericks_splice.c`)

A row names a seam of a foreign object: a callback slot to overwrite, or a vtable to clone. The
engine installs the shim and takes it out again, and keeps what it displaced in a state that is used
again on every connection. Between the calls a third party may write the slot, with anything but
the shim.

* `Mem` is the target object, by byte offset (`ks_read`, `ks_write`).
* `SpliceOps` are the ops the engine is given. What `clone_override` and `clone_restore` keep in the
  state (`clone`, `captured_orig`) is theirs alone; they are assumed to be all-or-nothing and to put
  back the table that was cloned.
* `InScope` are the rows considered: MEM_SLOT behind SLOT_POPULATED, VTABLE_CLONE behind any gate.

Results:
* `restore_install`, `restore_restore`, `restore_write`: what one event does to the memory that a
  restore would leave, whatever the state.
* `restore_eq_thirdParty`: so a restore leaves, on a MEM_SLOT row, what the third party made of the
  memory at the start, and nothing of the engine.
* `splice_safe`: every install and restore of every run.
* `slot_holds_shim`: what a restore does not do, where nothing was installed.
-/

namespace MagicTrackpad

open Lib

/-- `mavericks_splice_kind_t`. -/
inductive SpliceKind
  | memSlot
  | vtableClone
  deriving DecidableEq

/-- `mavericks_splice_gate_t`. -/
inductive SpliceGate
  | none
  | slotPopulated
  | className
  deriving DecidableEq

/-- `mavericks_splice_row_t`; the name is for the logs. -/
structure SpliceRow where
  kind : SpliceKind
  gate : SpliceGate
  /-- Read behind CLASS_NAME only. -/
  gateClass : String
  gateClass2 : Option String
  slot : U32
  shim : Addr
  slot2 : U32
  shim2 : Addr
  span : U32

/-- The target: the word at each byte offset. -/
abbrev Mem := U32 → Addr

/-- `mavericks_splice_state_t`; `cloned` is `clone` and `captured_orig`. -/
structure SpliceState (κ : Type) where
  installed : Bool
  savedCb : Addr
  savedTarget : Addr
  cloned : κ

/-- `mavericks_splice_ops_t`. -/
structure SpliceOps (κ : Type) where
  className : Mem → Option String
  cloneOverride : SpliceRow → Mem → κ → Int × Mem × κ
  cloneRestore : Mem → κ → Mem × κ
  override_failed : ∀ row mem c, (cloneOverride row mem c).1 ≠ 0 →
    (cloneOverride row mem c).2.1 = mem
  restore_override : ∀ row mem c, (cloneOverride row mem c).1 = 0 →
    (cloneRestore (cloneOverride row mem c).2.1 (cloneOverride row mem c).2.2).1 = mem

/-- `MAVERICKS_SPLICE_OK`. -/
abbrev spliceOk : Int := 0

/-- `MAVERICKS_SPLICE_NOT_READY`. -/
abbrev spliceNotReady : Int := 1

/-- `MAVERICKS_SPLICE_ALREADY`. -/
abbrev spliceAlready : Int := 2

/-- `MAVERICKS_SPLICE_ABORT`. -/
abbrev spliceAbort : Int := -2

/-- `MAVERICKS_SPLICE_OP_FAIL`. -/
abbrev spliceOpFail : Int := -1

/-- The target and the state of a row. -/
structure Spliced (κ : Type) where
  mem : Mem
  st : SpliceState κ

variable {κ : Type}

/-- `gate_ok`: the code of a gate that is shut, `none` where it is open. -/
def gateOk (row : SpliceRow) (ops : SpliceOps κ) (mem : Mem) : Option Int :=
  match row.gate with
  | .none => none
  | .slotPopulated =>
    if mem row.slot = 0 ∨ mem row.slot = row.shim then some spliceNotReady else none
  | .className =>
    match ops.className mem with
    | some c => if c = row.gateClass ∨ row.gateClass2 = some c then none else some spliceAbort
    | none => some spliceAbort

/-- `mavericks_splice_install`. -/
def spliceInstall (row : SpliceRow) (ops : SpliceOps κ) (s : Spliced κ) : Int × Spliced κ :=
  if s.st.installed then (spliceAlready, s)
  else
    match gateOk row ops s.mem with
    | some code => (code, s)
    | none =>
      match row.kind with
      | .memSlot =>
        (spliceOk,
          { mem := Function.update s.mem row.slot row.shim
            st :=
              { s.st with
                savedCb := s.mem row.slot
                -- the target is the adjacent word
                savedTarget := s.mem (row.slot + 8)
                installed := true } })
      | .vtableClone =>
        let r := ops.cloneOverride row s.mem s.st.cloned
        if r.1 ≠ 0 then (spliceOpFail, { mem := r.2.1, st := { s.st with cloned := r.2.2 } })
        else
          (spliceOk, { mem := r.2.1, st := { s.st with cloned := r.2.2, installed := true } })

/-- `mavericks_splice_restore`. -/
def spliceRestore (row : SpliceRow) (ops : SpliceOps κ) (s : Spliced κ) : Spliced κ :=
  if s.st.installed then
    match row.kind with
    | .memSlot =>
      -- restore only if the slot is still ours
      { mem := if s.mem row.slot = row.shim ∧ s.st.savedCb ≠ 0 then
            Function.update s.mem row.slot s.st.savedCb else s.mem
        st := { s.st with installed := false } }
    | .vtableClone =>
      let r := ops.cloneRestore s.mem s.st.cloned
      { mem := r.1, st := { s.st with cloned := r.2, installed := false } }
  else s

/-- A third-party write of the slot. -/
def slotWrite (row : SpliceRow) (v : Addr) (s : Spliced κ) : Spliced κ :=
  { s with mem := Function.update s.mem row.slot v }

/-- A call of the engine, or a third-party write of the slot. -/
inductive SpliceEvent (shim : Addr)
  | install
  | restore
  | write (v : Addr) (hv : v ≠ shim)

/-- One event; the output is the code of an install. -/
def spliceStep (row : SpliceRow) (ops : SpliceOps κ) :
    Transducer (Spliced κ) (SpliceEvent row.shim) Int
  | s, .install => ((spliceInstall row ops s).2, [(spliceInstall row ops s).1])
  | s, .restore => (spliceRestore row ops s, [])
  | s, .write v _ => (slotWrite row v s, [])

/-- A call of the engine. -/
def SpliceEvent.isCall {shim : Addr} : SpliceEvent shim → Prop
  | .write _ _ => False
  | _ => True

/-- The rows considered. -/
def InScope (row : SpliceRow) : Prop := row.kind = .memSlot → row.gate = .slotPopulated

variable {row : SpliceRow} {ops : SpliceOps κ}

/-! ## One call -/

theorem install_already {s : Spliced κ} (h : s.st.installed = true) :
    spliceInstall row ops s = (spliceAlready, s) := if_pos h

theorem restore_idle {s : Spliced κ} (h : s.st.installed = false) :
    spliceRestore row ops s = s := if_neg (by rw [h]; exact Bool.false_ne_true)

/-- The SLOT_POPULATED gate lets a callback through that is neither NULL nor the shim. -/
theorem gateOk_slotPopulated (hgate : row.gate = .slotPopulated) {mem : Mem} :
    gateOk row ops mem = none ↔ mem row.slot ≠ 0 ∧ mem row.slot ≠ row.shim := by
  unfold gateOk
  rw [hgate]
  simp only [ite_eq_right_iff, reduceCtorEq, imp_false, not_or, ne_eq]

/-- A gate that is shut never answers OK. -/
theorem gateOk_ne_ok {mem : Mem} {code : Int} (h : gateOk row ops mem = some code) :
    code ≠ spliceOk := by
  unfold gateOk at h
  cases hgate : row.gate with
  | none =>
    rw [hgate] at h
    exact absurd h (Option.some_ne_none code).symm
  | slotPopulated =>
    simp only [hgate, Option.ite_none_right_eq_some, Option.some.injEq] at h
    rw [← h.2]
    decide
  | className =>
    cases hname : ops.className mem with
    | none =>
      simp only [hgate, hname, Option.some.injEq] at h
      rw [← h]
      decide
    | some c =>
      simp only [hgate, hname, Option.ite_none_left_eq_some, Option.some.injEq] at h
      rw [← h.2]
      decide

/-- **What an install can do**: it changes nothing but what a failed clone op keeps, or it finds the
gate open and takes the slot, or the vtable. -/
theorem install_cases (hrow : InScope row) (ops : SpliceOps κ) (s : Spliced κ) :
    (∃ code c, code ≠ spliceOk ∧
      spliceInstall row ops s = (code, { s with st := { s.st with cloned := c } })) ∨
    (s.st.installed = false ∧ row.kind = .memSlot ∧ s.mem row.slot ≠ 0 ∧
      s.mem row.slot ≠ row.shim ∧
      spliceInstall row ops s = (spliceOk,
        { mem := Function.update s.mem row.slot row.shim
          st :=
            { s.st with
              savedCb := s.mem row.slot
              savedTarget := s.mem (row.slot + 8)
              installed := true } })) ∨
    (s.st.installed = false ∧ row.kind = .vtableClone ∧
      (ops.cloneOverride row s.mem s.st.cloned).1 = 0 ∧
      spliceInstall row ops s = (spliceOk,
        { mem := (ops.cloneOverride row s.mem s.st.cloned).2.1
          st :=
            { s.st with
              cloned := (ops.cloneOverride row s.mem s.st.cloned).2.2
              installed := true } })) := by
  by_cases hinst : s.st.installed = true
  · exact Or.inl ⟨spliceAlready, s.st.cloned, by decide, install_already hinst⟩
  · have hfree : s.st.installed = false := Bool.eq_false_iff.mpr hinst
    unfold spliceInstall
    rw [if_neg hinst]
    cases hgate : gateOk row ops s.mem with
    | some code =>
      exact Or.inl ⟨code, s.st.cloned, gateOk_ne_ok hgate, rfl⟩
    | none =>
      cases hkind : row.kind with
      | memSlot =>
        obtain ⟨hnull, hshim⟩ := (gateOk_slotPopulated (hrow hkind)).mp hgate
        exact Or.inr (Or.inl ⟨hfree, rfl, hnull, hshim, rfl⟩)
      | vtableClone =>
        by_cases hfail : (ops.cloneOverride row s.mem s.st.cloned).1 ≠ 0
        · refine Or.inl ⟨spliceOpFail, (ops.cloneOverride row s.mem s.st.cloned).2.2, by decide, ?_⟩
          simp only [if_pos hfail, ops.override_failed row s.mem s.st.cloned hfail]
        · refine Or.inr (Or.inr ⟨hfree, rfl, not_not.mp hfail, ?_⟩)
          simp only [if_neg hfail]

/-- **An install changes nothing of what a restore leaves.** -/
theorem restore_install (hrow : InScope row) (s : Spliced κ) :
    (spliceRestore row ops (spliceInstall row ops s).2).mem = (spliceRestore row ops s).mem := by
  by_cases hinst : s.st.installed = true
  · rw [install_already hinst]
  · have hfree : s.st.installed = false := Bool.eq_false_iff.mpr hinst
    rcases install_cases hrow ops s with ⟨code, c, -, h⟩ | ⟨-, hkind, hnull, -, h⟩ |
      ⟨-, hkind, hok, h⟩
    · have hidle : spliceRestore row ops { s with st := { s.st with cloned := c } } =
          { s with st := { s.st with cloned := c } } := restore_idle hfree
      rw [h, restore_idle hfree, hidle]
    · rw [h, restore_idle hfree]
      simp only [spliceRestore, hkind, if_true, Function.update_self, ne_eq, hnull,
        not_false_eq_true, and_self, Function.update_idem, Function.update_eq_self]
    · rw [h, restore_idle hfree]
      simp only [spliceRestore, hkind, if_true]
      exact ops.restore_override row s.mem s.st.cloned hok

theorem installed_restore (s : Spliced κ) : (spliceRestore row ops s).st.installed = false := by
  unfold spliceRestore
  by_cases hinst : s.st.installed = true
  · rw [if_pos hinst]
    cases row.kind <;> rfl
  · rw [if_neg hinst]
    exact Bool.eq_false_iff.mpr hinst

/-- A second restore does nothing. -/
theorem restore_restore (s : Spliced κ) :
    spliceRestore row ops (spliceRestore row ops s) = spliceRestore row ops s :=
  restore_idle (installed_restore s)

/-- **A third-party write is all that a restore adds**: it finds the slot no longer ours. -/
theorem restore_slotWrite (hkind : row.kind = .memSlot) {v : Addr} (hv : v ≠ row.shim)
    (s : Spliced κ) :
    (spliceRestore row ops (slotWrite row v s)).mem = (slotWrite row v s).mem := by
  by_cases hinst : s.st.installed = true
  · simp only [spliceRestore, slotWrite, hinst, hkind, if_true, Function.update_self, hv, false_and,
      if_false]
  · exact congrArg Spliced.mem
      (restore_idle (s := slotWrite row v s) (Bool.eq_false_iff.mpr hinst))

/-- On a MEM_SLOT row a restore writes nothing but the slot. -/
theorem update_restore (hkind : row.kind = .memSlot) (s : Spliced κ) (v : Addr) :
    Function.update (spliceRestore row ops s).mem row.slot v =
      Function.update s.mem row.slot v := by
  unfold spliceRestore
  by_cases hinst : s.st.installed = true
  · simp only [hinst, hkind, if_true]
    split
    · rw [Function.update_idem]
    · rfl
  · rw [if_neg hinst]

/-! ## A run -/

/-- What the third party makes of the memory. -/
def thirdParty (row : SpliceRow) (mem : Mem) (es : List (SpliceEvent row.shim)) : Mem :=
  es.foldl
    (fun m e =>
      match e with
      | .write v _ => Function.update m row.slot v
      | _ => m)
    mem

theorem thirdParty_concat (mem : Mem) (es : List (SpliceEvent row.shim))
    (e : SpliceEvent row.shim) :
    thirdParty row mem (es ++ [e]) =
      match e with
      | .write v _ => Function.update (thirdParty row mem es) row.slot v
      | _ => thirdParty row mem es := by
  rw [thirdParty, List.foldl_append]
  rfl

/-- The third party never writes the shim. -/
theorem thirdParty_ne_shim {mem : Mem} (hmem : mem row.slot ≠ row.shim)
    (es : List (SpliceEvent row.shim)) : thirdParty row mem es row.slot ≠ row.shim := by
  induction es using List.reverseRecOn with
  | nil => exact hmem
  | append_singleton es e ih =>
    rw [thirdParty_concat]
    cases e with
    | install => exact ih
    | restore => exact ih
    | write v hv =>
      simp only [Function.update_self]
      exact hv

/-- **A restore leaves nothing of the engine**: on a MEM_SLOT row, after any run that started with
nothing installed, the memory is what the third party made of it. -/
theorem restore_eq_thirdParty (hkind : row.kind = .memSlot) (hrow : InScope row) (mem : Mem)
    (st : SpliceState κ) (hst : st.installed = false) (es : List (SpliceEvent row.shim)) :
    (spliceRestore row ops (Transducer.run (spliceStep row ops) ⟨mem, st⟩ es).1).mem =
      thirdParty row mem es := by
  refine Transducer.run_history_induction (spliceStep row ops)
    (I := fun es s => (spliceRestore row ops s).mem = thirdParty row mem es) ?_ ?_ es
  · rw [restore_idle hst]
    rfl
  · intro es s e hs
    rw [thirdParty_concat]
    cases e with
    | install => exact (restore_install hrow s).trans hs
    | restore => exact (congrArg Spliced.mem (restore_restore s)).trans hs
    | write v hv =>
      simp only
      rw [← hs, update_restore hkind]
      exact restore_slotWrite hkind hv s

/-- Calls alone do not change what a restore leaves, on any row. -/
theorem restore_run_calls (hrow : InScope row) (s : Spliced κ)
    {calls : List (SpliceEvent row.shim)} (hcalls : ∀ e ∈ calls, e.isCall) :
    (spliceRestore row ops (Transducer.run (spliceStep row ops) s calls).1).mem =
      (spliceRestore row ops s).mem := by
  refine Transducer.run_state_induction (spliceStep row ops) (A := SpliceEvent.isCall)
    (I := fun t => (spliceRestore row ops t).mem = (spliceRestore row ops s).mem) rfl ?_ calls
    hcalls
  intro t e he ht
  cases e with
  | install => exact (restore_install hrow t).trans ht
  | restore => exact (congrArg Spliced.mem (restore_restore t)).trans ht
  | write v hv => exact absurd he id

/-- While a MEM_SLOT row is installed, the saved callback is neither NULL nor the shim. -/
def SavedOurs (row : SpliceRow) (s : Spliced κ) : Prop :=
  row.kind = .memSlot → s.st.installed = true → s.st.savedCb ≠ 0 ∧ s.st.savedCb ≠ row.shim

theorem savedOurs_step (hrow : InScope row) {s : Spliced κ} (hs : SavedOurs row s)
    (e : SpliceEvent row.shim) : SavedOurs row (spliceStep row ops s e).1 := by
  cases e with
  | install =>
    intro hkind hinst
    simp only [spliceStep] at hinst ⊢
    rcases install_cases hrow ops s with ⟨code, c, -, h⟩ | ⟨-, -, hnull, hshim, h⟩ |
      ⟨-, hclone, -, -⟩
    · rw [h] at hinst ⊢
      exact hs hkind hinst
    · rw [h]
      exact ⟨hnull, hshim⟩
    · rw [hkind] at hclone
      exact absurd hclone (by decide)
  | restore =>
    intro _ hinst
    exact absurd hinst (Bool.eq_false_iff.mp (installed_restore s))
  | write v hv => exact hs

/-- What every install and restore of a state guarantees; `mem` is the memory of the start. -/
structure SpliceSafe (row : SpliceRow) (ops : SpliceOps κ) (mem : Mem) (s : Spliced κ) : Prop where
  /-- Any code but OK: neither the memory nor the flag has changed. -/
  refused : (spliceInstall row ops s).1 ≠ spliceOk →
    (spliceInstall row ops s).2.mem = s.mem ∧
      (spliceInstall row ops s).2.st.installed = s.st.installed
  /-- OK on a MEM_SLOT row: both words are captured as they are now, only the slot is written. -/
  captured : row.kind = .memSlot → (spliceInstall row ops s).1 = spliceOk →
    s.mem row.slot ≠ 0 ∧ s.mem row.slot ≠ row.shim ∧
      (spliceInstall row ops s).2.st.savedCb = s.mem row.slot ∧
      (spliceInstall row ops s).2.st.savedTarget = s.mem (row.slot + 8) ∧
      (spliceInstall row ops s).2.mem = Function.update s.mem row.slot row.shim
  /-- OK, then calls of the engine only: a restore brings back the memory of before. -/
  undone : (spliceInstall row ops s).1 = spliceOk → ∀ calls : List (SpliceEvent row.shim),
    (∀ e ∈ calls, e.isCall) →
    (spliceRestore row ops
      (Transducer.run (spliceStep row ops) (spliceInstall row ops s).2 calls).1).mem = s.mem
  /-- A third-party write on a MEM_SLOT row, then calls of the engine only: a restore leaves it. -/
  kept : row.kind = .memSlot → ∀ v, v ≠ row.shim → ∀ calls : List (SpliceEvent row.shim),
    (∀ e ∈ calls, e.isCall) →
    (spliceRestore row ops
      (Transducer.run (spliceStep row ops) (slotWrite row v s) calls).1).mem =
        Function.update s.mem row.slot v
  /-- A restore of an installed MEM_SLOT row takes the shim out. -/
  removed : row.kind = .memSlot → s.st.installed = true →
    (spliceRestore row ops s).mem row.slot ≠ row.shim
  /-- Any restore does, where the memory did not hold it at the start. -/
  absent : row.kind = .memSlot → mem row.slot ≠ row.shim →
    (spliceRestore row ops s).mem row.slot ≠ row.shim
  /-- A repeated install, or restore, changes nothing at all. -/
  repeated : (s.st.installed = true → spliceInstall row ops s = (spliceAlready, s)) ∧
    spliceRestore row ops (spliceRestore row ops s) = spliceRestore row ops s

/-- **The engine gives back what it took, and tramples nobody**: in every state reached from one in
which nothing is installed, by any installs, restores and third-party writes. -/
theorem splice_safe (row : SpliceRow) (hrow : InScope row) (ops : SpliceOps κ) (mem : Mem)
    (st : SpliceState κ) (hst : st.installed = false) (es : List (SpliceEvent row.shim)) :
    SpliceSafe row ops mem (Transducer.run (spliceStep row ops) ⟨mem, st⟩ es).1 := by
  have hsaved : SavedOurs row (Transducer.run (spliceStep row ops) ⟨mem, st⟩ es).1 :=
    Transducer.run_state_induction (spliceStep row ops) (A := fun _ => True)
      (I := SavedOurs row) (fun _ h => absurd h (Bool.eq_false_iff.mp hst))
      (fun _ e _ h => savedOurs_step hrow h e) es fun _ _ => trivial
  have hthird : row.kind = .memSlot →
      (spliceRestore row ops (Transducer.run (spliceStep row ops) ⟨mem, st⟩ es).1).mem = _ :=
    fun hkind => restore_eq_thirdParty hkind hrow mem st hst es
  generalize (Transducer.run (spliceStep row ops) ⟨mem, st⟩ es).1 = s at hsaved hthird
  refine ⟨fun hcode => ?_, fun hkind hcode => ?_, fun hcode calls hcalls => ?_,
    fun hkind v hv calls hcalls => ?_, fun hkind hinst => ?_, fun hkind hmem => ?_,
    install_already, restore_restore s⟩
  · rcases install_cases hrow ops s with ⟨code, c, -, h⟩ | ⟨-, -, -, -, h⟩ | ⟨-, -, -, h⟩
    · rw [h]
      exact ⟨rfl, rfl⟩
    · rw [h] at hcode
      exact absurd rfl hcode
    · rw [h] at hcode
      exact absurd rfl hcode
  · rcases install_cases hrow ops s with ⟨code, c, hne, h⟩ | ⟨-, -, hnull, hshim, h⟩ |
      ⟨-, hclone, -, -⟩
    · rw [h] at hcode
      exact absurd hcode hne
    · rw [h]
      exact ⟨hnull, hshim, rfl, rfl, rfl⟩
    · rw [hkind] at hclone
      exact absurd hclone (by decide)
  · have hfree : s.st.installed = false := by
      rw [Bool.eq_false_iff]
      intro hinst
      rw [install_already hinst] at hcode
      have hcodes : spliceAlready = spliceOk := hcode
      exact absurd hcodes (by decide)
    rw [restore_run_calls hrow _ hcalls, restore_install hrow, restore_idle hfree]
  · rw [restore_run_calls hrow _ hcalls, restore_slotWrite hkind hv]
    rfl
  · obtain ⟨hnull, hshim⟩ := hsaved hkind hinst
    simp only [spliceRestore, hinst, hkind, if_true]
    by_cases hcur : s.mem row.slot = row.shim
    · rw [if_pos ⟨hcur, hnull⟩, Function.update_self]
      exact hshim
    · rw [if_neg fun h => hcur h.1]
      exact hcur
  · rw [hthird hkind]
    exact thirdParty_ne_shim hmem es

/-- `kBtControlRow`: the delegate callback of the control channel, at +0x110. -/
def btControlRow (shim : Addr) : SpliceRow :=
  ⟨.memSlot, .slotPopulated, "", none, 0x110, shim, 0, 0, 0⟩

/-- Ops that clone a vtable to `base`: the object's first word is its vtable pointer. -/
def vtableOps (base : Addr) : SpliceOps Addr where
  className _ := none
  cloneOverride _ mem _ := (0, Function.update mem 0 base, mem 0)
  cloneRestore mem orig := (Function.update mem 0 orig, orig)
  override_failed _ _ _ h := absurd rfl h
  restore_override _ mem _ _ := by
    simp only [Function.update_idem, Function.update_eq_self]

theorem splice_safe_control :
    SpliceSafe (btControlRow 7) (vtableOps 9) (fun _ => 5)
      (Transducer.run (spliceStep (btControlRow 7) (vtableOps 9)) ⟨fun _ => 5, ⟨false, 0, 0, 0⟩⟩
        [.install, .write 6 (by decide), .restore, .install]).1 :=
  splice_safe (btControlRow 7) (fun _ => rfl) (vtableOps 9) (fun _ => 5) ⟨false, 0, 0, 0⟩ rfl _

/-- A shim that is in the slot at the start stays there: nothing is installed, and a restore of
nothing is a no-op. -/
theorem slot_holds_shim :
    InScope (btControlRow 7) ∧
      (Transducer.run (spliceStep (btControlRow 7) (vtableOps 9))
        ⟨fun _ => 7, ⟨false, 0, 0, 0⟩⟩ [.restore]).1.mem (btControlRow 7).slot =
          (btControlRow 7).shim :=
  ⟨fun _ => rfl, rfl⟩

end MagicTrackpad
