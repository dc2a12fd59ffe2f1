import MagicTrackpad.Lib.Heap
import MagicTrackpad.Splice

/-!
# The vtable clone (`kext-gesture/vtable_clone.h`, `kext-gesture/mavericks_splice_kext.cpp`)

The kext's clone ops. An install copies the table of one object into fresh memory, overrides one
slot of the copy, or two, and repoints the object; a restore repoints it back and frees the copy.

* `Moment` is the target with the memory beside it, at one point between two stores. Another thread
  may call through the object at any of them, so the ops return every moment they pass through.
* `kextOps` are these ops as the engine takes them: both things that `SpliceOps` asks of a clone op
  are proved here.
* The allocator hands out fresh blocks, or none. Each call comes with one of its own, so it may fail
  once and succeed the next time (`cloneStep`). Words are read at aligned addresses only, and a
  table has its two ABI words below the address the object holds.

Results:
* `cloneInv_run`: between two calls, whatever the calls were, either nothing is left of the engine,
  or one block more is in use and it holds the patched table.
* `clone_scoped`: so at every moment of every call, a call through the object finds a live table,
  with nothing changed but the slots of the row, and nobody else finds anything changed.
-/

namespace MagicTrackpad

open Lib

/-- `vtc_clone_t`. -/
structure VtcClone where
  origVptr : Addr
  cloneBase : Addr
  allocBytes : Nat

/-- `VTC_ALLOC`, which is `IOMalloc`, as a call finds it. -/
structure Allocator where
  place : Heap Addr → Nat → Option Addr
  place_sound : ∀ h n a, place h n = some a →
    a ≠ 0 ∧ a.toNat + n ≤ 2 ^ 64 ∧ h.Fresh ⟨a.toNat, n⟩

/-- What the ops keep in the state, `clone` and `captured_orig`, and the memory beside the
target. -/
structure KextClone where
  heap : Heap Addr
  clone : VtcClone
  capturedOrig : Addr

/-- The target and the memory beside it, between two stores. -/
structure Moment where
  mem : Mem
  kext : KextClone

/-- What a call through slot `i` of the target runs. -/
def Moment.dispatch (m : Moment) (i : Nat) : Addr :=
  m.kext.heap.word ((m.mem 0).toNat + 8 * i)

/-- `2 * sizeof(void *)`: the ABI words below the table. -/
abbrev abiBytes : Nat := 16

/-- `clone_vtbl[slot] = fn`, for the clone at `base`. -/
def Moment.setSlot (m : Moment) (base : Addr) (slot : U32) (fn : Addr) : Moment :=
  { m with
    kext := { m.kext with heap := m.kext.heap.store ((base + 16).toNat + 8 * slot.toNat) fn } }

/-- `vtc_clone_override`: the moments on the way and the last one, `none` where it returns −1. -/
def vtcCloneOverride (A : Allocator) (span : Nat) (slot : U32) (fn : Addr) (m : Moment) :
    Option (List Moment × Moment) :=
  let origVptr := m.mem 0
  let total := abiBytes + span
  match A.place m.kext.heap total with
  | none => none
  | some base =>
    let heap := m.kext.heap.alloc ⟨base.toNat, total⟩
    let taken := { m with kext := { m.kext with heap := heap } }
    let copied :=
      { m with
        kext :=
          { m.kext with heap := heap.copy base.toNat (origVptr.toNat - abiBytes) total } }
    let slotted := copied.setSlot base slot fn
    let saved := { slotted with kext := { slotted.kext with clone := ⟨origVptr, base, total⟩ } }
    -- repoint the instance last, when the copy is complete
    let repointed := { saved with mem := Function.update saved.mem 0 (base + 16) }
    some ([taken, copied, slotted, saved], repointed)

/-- `vtc_override_slot`: a no-op where no clone is installed. -/
def vtcOverrideSlot (slot : U32) (fn : Addr) (m : Moment) : Moment :=
  if m.kext.clone.cloneBase = 0 then m else m.setSlot m.kext.clone.cloneBase slot fn

/-- `vtc_restore`: it repoints first, then frees. -/
def vtcRestore (m : Moment) : List Moment × Moment :=
  let c := m.kext.clone
  let repointed := { m with mem := Function.update m.mem 0 c.origVptr }
  if c.cloneBase = 0 then ([], repointed)
  else
    ([repointed],
      { repointed with
        kext :=
          { m.kext with
            heap := m.kext.heap.free ⟨c.cloneBase.toNat, c.allocBytes⟩
            clone := { c with cloneBase := 0 } } })

/-- `ks_clone_override`: the code, the moments on the way and the last one. -/
def ksCloneOverride (A : Allocator) (row : SpliceRow) (m : Moment) : Int × List Moment × Moment :=
  match vtcCloneOverride A row.span.toNat row.slot row.shim m with
  | none => (-1, [], m)
  | some (ms, cloned) =>
    let second := if row.slot2 ≠ 0 then vtcOverrideSlot row.slot2 row.shim2 cloned else cloned
    -- the original function, from the table the clone was made of
    let orig := second.kext.heap.word (second.kext.clone.origVptr.toNat + 8 * row.slot.toNat)
    (0, ms ++ [cloned, second], { second with kext := { second.kext with capturedOrig := orig } })

/-- `ks_clone_restore`. -/
def ksCloneRestore (m : Moment) : List Moment × Moment := vtcRestore m

/-- The second slot is a matter of the clone alone. -/
theorem vtcOverrideSlot_keeps (slot : U32) (fn : Addr) (m : Moment) :
    (vtcOverrideSlot slot fn m).mem = m.mem ∧
      (vtcOverrideSlot slot fn m).kext.clone = m.kext.clone := by
  unfold vtcOverrideSlot
  split
  · exact ⟨rfl, rfl⟩
  · exact ⟨rfl, rfl⟩

/-- **What a clone op can do**: it fails and leaves all as it is, or the target points at the copy,
and the table it pointed at is saved. -/
theorem ksCloneOverride_cases (A : Allocator) (row : SpliceRow) (m : Moment) :
    ksCloneOverride A row m = (-1, [], m) ∨
    (ksCloneOverride A row m).1 = 0 ∧ ∃ base,
      (ksCloneOverride A row m).2.2.mem = Function.update m.mem 0 (base + 16) ∧
      (ksCloneOverride A row m).2.2.kext.clone =
        ⟨m.mem 0, base, abiBytes + row.span.toNat⟩ := by
  unfold ksCloneOverride vtcCloneOverride
  cases hplace : A.place m.kext.heap (abiBytes + row.span.toNat) with
  | none =>
    left
    simp only [hplace]
  | some base =>
    right
    simp only [hplace]
    refine ⟨trivial, base, ?_, ?_⟩
    · split
      · rw [(vtcOverrideSlot_keeps _ _ _).1]
        rfl
      · rfl
    · split
      · rw [(vtcOverrideSlot_keeps _ _ _).2]
      · rfl

theorem vtcRestore_mem (m : Moment) :
    (vtcRestore m).2.mem = Function.update m.mem 0 m.kext.clone.origVptr := by
  unfold vtcRestore
  simp only
  split
  · rfl
  · rfl

/-- `mavericks_splice_kext_ops`. -/
def kextOps (A : Allocator) (className : Mem → Option String) : SpliceOps KextClone where
  className := className
  cloneOverride row mem c :=
    let r := ksCloneOverride A row ⟨mem, c⟩
    (r.1, r.2.2.mem, r.2.2.kext)
  cloneRestore mem c :=
    let r := ksCloneRestore ⟨mem, c⟩
    (r.2.mem, r.2.kext)
  override_failed row mem c hfail := by
    rcases ksCloneOverride_cases A row ⟨mem, c⟩ with h | ⟨hok, -⟩
    · simp only [h]
    · exact absurd hok hfail
  restore_override row mem c hok := by
    rcases ksCloneOverride_cases A row ⟨mem, c⟩ with h | ⟨-, base, hmem, hclone⟩
    · simp only [h] at hok
      exact absurd hok (by decide)
    · simp only [ksCloneRestore]
      rw [vtcRestore_mem, hclone, hmem, Function.update_idem, Function.update_eq_self]

/-! ## The copy -/

/-- The words of a table of `span` bytes, and the ABI words below it, are in use. -/
def Moment.TableLive (span : Nat) (m : Moment) : Prop :=
  ∃ b ∈ m.kext.heap.blocks, b.base + abiBytes ≤ (m.mem 0).toNat ∧
    (m.mem 0).toNat + span ≤ b.base + b.size

/-- The block of a clone at `base`. -/
def cloneBlock (row : SpliceRow) (base : Addr) : Block :=
  ⟨base.toNat, abiBytes + row.span.toNat⟩

/-- What `IOMalloc` promises of a clone at `base`, where `m₀` is in use. -/
structure Placed (row : SpliceRow) (m₀ : Moment) (base : Addr) : Prop where
  nonNull : base ≠ 0
  bound : base.toNat + (abiBytes + row.span.toNat) ≤ 2 ^ 64
  fresh : m₀.kext.heap.Fresh (cloneBlock row base)

/-- A slot of the table. -/
def InSpan (row : SpliceRow) (i : Nat) : Prop := 8 * i + 8 ≤ row.span.toNat

instance (row : SpliceRow) (i : Nat) : Decidable (InSpan row i) :=
  inferInstanceAs (Decidable (8 * i + 8 ≤ row.span.toNat))

/-- One block more than `m₀` is in use: it holds `m₀`'s ABI words, and the functions `f`. -/
structure Cloned (row : SpliceRow) (m₀ : Moment) (base : Addr) (f : Nat → Addr) (m : Moment) :
    Prop where
  blocks : m.kext.heap.blocks = cloneBlock row base :: m₀.kext.heap.blocks
  keeps : m₀.kext.heap.Keeps m.kext.heap
  abi : ∀ i < abiBytes, m.kext.heap.word (base.toNat + i) =
    m₀.kext.heap.word ((m₀.mem 0).toNat - abiBytes + i)
  table : ∀ i, InSpan row i → m.kext.heap.word (base.toNat + abiBytes + 8 * i) = f i

variable {row : SpliceRow} {m₀ m : Moment} {base : Addr} {f : Nat → Addr}

/-- The address the object is repointed to. -/
theorem Placed.toNat_table (h : Placed row m₀ base) {i : Nat} (hi : InSpan row i) :
    (base + 16).toNat = base.toNat + abiBytes := by
  have hbound := h.bound
  unfold InSpan at hi
  unfold abiBytes at hbound ⊢
  bv_omega

theorem tableLive_source (hlive : m₀.TableLive row.span.toNat) (i : Nat) :
    (m₀.mem 0).toNat - abiBytes + (abiBytes + 8 * i) = (m₀.mem 0).toNat + 8 * i := by
  obtain ⟨b, -, hlo, -⟩ := hlive
  omega

/-- The words of the target's own table are in use. -/
theorem tableLive_inUse (hlive : m₀.TableLive row.span.toNat) {i : Nat}
    (hi : i < abiBytes + row.span.toNat) :
    m₀.kext.heap.InUse ((m₀.mem 0).toNat - abiBytes + i) := by
  obtain ⟨b, hb, hlo, hhi⟩ := hlive
  refine ⟨b, hb, ?_, ?_⟩
  · omega
  · omega

/-- **The copy is the table.** -/
theorem cloned_copy (hlive : m₀.TableLive row.span.toNat) (hplaced : Placed row m₀ base)
    (hblocks : m.kext.heap.blocks = m₀.kext.heap.blocks)
    (hkeeps : m₀.kext.heap.Keeps m.kext.heap) :
    Cloned row m₀ base m₀.dispatch
      { m with
        kext :=
          { m.kext with
            heap := (m.kext.heap.alloc (cloneBlock row base)).copy base.toNat
              ((m₀.mem 0).toNat - abiBytes) (abiBytes + row.span.toNat) } } := by
  have hcopy : ∀ i, i < abiBytes + row.span.toNat →
      ((m.kext.heap.alloc (cloneBlock row base)).copy base.toNat
        ((m₀.mem 0).toNat - abiBytes) (abiBytes + row.span.toNat)).word (base.toNat + i) =
      m₀.kext.heap.word ((m₀.mem 0).toNat - abiBytes + i) := by
    intro i hi
    rw [Heap.copy_inside _ _ _ hi, Heap.word_alloc]
    exact hkeeps _ (tableLive_inUse hlive hi)
  refine ⟨?_, ?_, fun i hi => hcopy i (Nat.lt_add_right _ hi), fun i hi => ?_⟩
  · rw [Heap.blocks_copy, Heap.blocks_alloc, hblocks]
  · exact Heap.Keeps.copy (hkeeps.congr fun _ _ => rfl) hplaced.fresh
  · unfold InSpan at hi
    have hword := hcopy (abiBytes + 8 * i) (by omega)
    rw [tableLive_source hlive, ← Nat.add_assoc] at hword
    exact hword

/-- **An override is of one slot.** -/
theorem Cloned.setSlot (h : Cloned row m₀ base f m) (hplaced : Placed row m₀ base) {slot : U32}
    (hslot : InSpan row slot.toNat) (fn : Addr) :
    Cloned row m₀ base (Function.update f slot.toNat fn) (m.setSlot base slot fn) := by
  have htable := hplaced.toNat_table hslot
  unfold InSpan at hslot
  refine ⟨h.blocks, ?_, fun i hi => ?_, fun i hi => ?_⟩
  · refine h.keeps.store hplaced.fresh ⟨?_, ?_⟩
    · simp only [cloneBlock]
      omega
    · simp only [cloneBlock]
      omega
  · refine (Heap.store_of_ne _ _ ?_).trans (h.abi i hi)
    omega
  · by_cases heq : i = slot.toNat
    · subst heq
      rw [Function.update_self, ← htable]
      exact Heap.store_self _ _ _
    · rw [Function.update_of_ne heq]
      refine (Heap.store_of_ne _ _ ?_).trans (h.table i hi)
      omega

/-! ## What a caller finds -/

/-- What holds at every moment of an engine that started at `m₀`. -/
structure Scoped (row : SpliceRow) (m₀ m : Moment) : Prop where
  /-- The table the target points at is in use. -/
  live : m.TableLive row.span.toNat
  /-- A call through the target runs what it always ran, or a shim in the shim's slot. -/
  slots : ∀ i, InSpan row i →
    m.dispatch i = m₀.dispatch i ∨ (i = row.slot.toNat ∧ m.dispatch i = row.shim) ∨
      (row.slot2 ≠ 0 ∧ i = row.slot2.toNat ∧ m.dispatch i = row.shim2)
  /-- The ABI words below the table are the original ones. -/
  abi : ∀ i < abiBytes, m.kext.heap.word ((m.mem 0).toNat - abiBytes + i) =
    m₀.kext.heap.word ((m₀.mem 0).toNat - abiBytes + i)
  /-- The target is changed in its first word only. -/
  object : ∀ off, off ≠ 0 → m.mem off = m₀.mem off
  /-- No memory that was in use is changed: not the shared table, not another object. -/
  others : m₀.kext.heap.Keeps m.kext.heap

/-- The functions of a row that is installed. -/
def patched (row : SpliceRow) (m₀ : Moment) : Nat → Addr :=
  let f := Function.update m₀.dispatch row.slot.toNat row.shim
  if row.slot2 ≠ 0 then Function.update f row.slot2.toNat row.shim2 else f

/-- The functions that a caller may find. -/
def Allowed (row : SpliceRow) (m₀ : Moment) (f : Nat → Addr) : Prop :=
  ∀ i, f i = m₀.dispatch i ∨ (i = row.slot.toNat ∧ f i = row.shim) ∨
    (row.slot2 ≠ 0 ∧ i = row.slot2.toNat ∧ f i = row.shim2)

theorem allowed_slot (row : SpliceRow) (m₀ : Moment) :
    Allowed row m₀ (Function.update m₀.dispatch row.slot.toNat row.shim) := by
  intro i
  by_cases hi : i = row.slot.toNat
  · subst hi
    exact Or.inr (Or.inl ⟨rfl, Function.update_self _ _ _⟩)
  · exact Or.inl (Function.update_of_ne hi _ _)

theorem allowed_patched (row : SpliceRow) (m₀ : Moment) : Allowed row m₀ (patched row m₀) := by
  unfold patched
  by_cases hslot2 : row.slot2 ≠ 0
  · intro i
    rw [if_pos hslot2]
    by_cases hi : i = row.slot2.toNat
    · subst hi
      exact Or.inr (Or.inr ⟨hslot2, rfl, Function.update_self _ _ _⟩)
    · rw [Function.update_of_ne hi]
      exact allowed_slot row m₀ i
  · rw [if_neg hslot2]
    exact allowed_slot row m₀

/-- Before the repoint a caller finds the table that was always there. -/
theorem scoped_of_original (hlive : m₀.TableLive row.span.toNat) (hmem : m.mem = m₀.mem)
    (hblocks : ∀ b ∈ m₀.kext.heap.blocks, b ∈ m.kext.heap.blocks)
    (hkeeps : m₀.kext.heap.Keeps m.kext.heap) : Scoped row m₀ m := by
  refine ⟨?_, fun i hi => Or.inl ?_, fun i hi => ?_, fun off _ => congrFun hmem off, hkeeps⟩
  · obtain ⟨b, hb, hlo, hhi⟩ := hlive
    rw [← hmem] at hlo hhi
    exact ⟨b, hblocks b hb, hlo, hhi⟩
  · unfold Moment.dispatch
    unfold InSpan at hi
    rw [hmem, ← tableLive_source hlive]
    exact hkeeps _ (tableLive_inUse hlive (by omega))
  · rw [hmem]
    exact hkeeps _ (tableLive_inUse hlive (Nat.lt_add_right _ hi))

/-- After it, the copy. -/
theorem Cloned.scoped (h : Cloned row m₀ base f m) (hplaced : Placed row m₀ base)
    (hslot : InSpan row row.slot.toNat) (hf : Allowed row m₀ f)
    (hmem : m.mem = Function.update m₀.mem 0 (base + 16)) : Scoped row m₀ m := by
  have htable : (m.mem 0).toNat = base.toNat + abiBytes := by
    rw [hmem, Function.update_self]
    exact hplaced.toNat_table hslot
  refine ⟨⟨cloneBlock row base, ?_, ?_, ?_⟩, fun i hi => ?_, fun i hi => ?_, fun off hoff => ?_,
    h.keeps⟩
  · rw [h.blocks]
    exact List.mem_cons_self
  · rw [htable]
    exact Nat.le_refl _
  · rw [htable]
    simp only [cloneBlock]
    omega
  · have hword := h.table i hi
    rw [← htable] at hword
    have hdispatch : m.dispatch i = f i := hword
    rw [hdispatch]
    exact hf i
  · rw [htable, Nat.add_sub_cancel]
    exact h.abi i hi
  · rw [hmem, Function.update_of_ne hoff]

/-- Nothing is left of the engine. -/
structure Idle (m₀ m : Moment) : Prop where
  mem : m.mem = m₀.mem
  blocks : m.kext.heap.blocks = m₀.kext.heap.blocks
  keeps : m₀.kext.heap.Keeps m.kext.heap

theorem Idle.scoped (h : Idle m₀ m) (hlive : m₀.TableLive row.span.toNat) : Scoped row m₀ m :=
  scoped_of_original hlive h.mem (fun _ hb => h.blocks ▸ hb) h.keeps

/-- The target points at its clone, with the functions `f`. -/
structure Repointed (row : SpliceRow) (m₀ : Moment) (base : Addr) (f : Nat → Addr) (m : Moment) :
    Prop where
  placed : Placed row m₀ base
  cloned : Cloned row m₀ base f m
  mem : m.mem = Function.update m₀.mem 0 (base + 16)
  clone : m.kext.clone = ⟨m₀.mem 0, base, abiBytes + row.span.toNat⟩

theorem Repointed.scoped (h : Repointed row m₀ base f m) (hslot : InSpan row row.slot.toNat)
    (hf : Allowed row m₀ f) : Scoped row m₀ m :=
  h.cloned.scoped h.placed hslot hf h.mem

/-- The row is installed. -/
structure Installed (row : SpliceRow) (m₀ : Moment) (base : Addr) (m : Moment) : Prop extends
    Repointed row m₀ base (patched row m₀) m where
  /-- The function the shim chains to. -/
  captured : m.kext.capturedOrig = m₀.dispatch row.slot.toNat

theorem vtcCloneOverride_scoped {A : Allocator} (hlive : m₀.TableLive row.span.toNat)
    (hslot : InSpan row row.slot.toNat) (hidle : Idle m₀ m) {ms : List Moment} {cloned : Moment}
    (h : vtcCloneOverride A row.span.toNat row.slot row.shim m = some (ms, cloned)) :
    (∀ w ∈ ms, Scoped row m₀ w) ∧ ∃ base, Repointed row m₀ base
      (Function.update m₀.dispatch row.slot.toNat row.shim) cloned := by
  obtain ⟨mem, kext⟩ := m
  obtain ⟨hmem, hblocks, hkeeps⟩ := hidle
  simp only at hmem hblocks hkeeps
  subst hmem
  unfold vtcCloneOverride at h
  cases hplace : A.place kext.heap (abiBytes + row.span.toNat) with
  | none =>
    simp only [hplace] at h
    exact absurd h.symm (Option.some_ne_none _)
  | some base =>
    simp only [hplace, Option.some.injEq, Prod.mk.injEq] at h
    obtain ⟨rfl, rfl⟩ := h
    obtain ⟨hnull, hbound, hfresh⟩ := A.place_sound _ _ _ hplace
    have hplaced : Placed row m₀ base := ⟨hnull, hbound, fun c hc => hfresh c (hblocks ▸ hc)⟩
    have hcopied := cloned_copy (m := ⟨m₀.mem, kext⟩) hlive hplaced hblocks hkeeps
    have hslotted := hcopied.setSlot hplaced hslot row.shim
    have hkept : ∀ b ∈ m₀.kext.heap.blocks, b ∈ cloneBlock row base :: m₀.kext.heap.blocks :=
      fun b hb => List.mem_cons_of_mem _ hb
    refine ⟨?_, base, hplaced, ⟨hslotted.blocks, hslotted.keeps, hslotted.abi, hslotted.table⟩, rfl,
      rfl⟩
    -- the target still points at its own table
    intro w hw
    simp only [List.mem_cons, List.not_mem_nil, or_false] at hw
    rcases hw with rfl | rfl | rfl | rfl
    · refine scoped_of_original hlive rfl (fun b hb => ?_) (hkeeps.congr fun _ _ => rfl)
      simp only [Heap.blocks_alloc, hblocks]
      exact hkept b hb
    · exact scoped_of_original hlive rfl (fun b hb => hcopied.blocks ▸ hkept b hb) hcopied.keeps
    · exact scoped_of_original hlive rfl (fun b hb => hslotted.blocks ▸ hkept b hb) hslotted.keeps
    · exact scoped_of_original hlive rfl (fun b hb => hslotted.blocks ▸ hkept b hb) hslotted.keeps

/-- The second slot, where the row has one. -/
theorem Repointed.second (h : Repointed row m₀ base
      (Function.update m₀.dispatch row.slot.toNat row.shim) m)
    (hslot2 : row.slot2 ≠ 0 → InSpan row row.slot2.toNat) :
    Repointed row m₀ base (patched row m₀)
      (if row.slot2 ≠ 0 then vtcOverrideSlot row.slot2 row.shim2 m else m) := by
  unfold patched
  by_cases hrow : row.slot2 ≠ 0
  · have hbase : m.kext.clone.cloneBase = base := by rw [h.clone]
    have hset : vtcOverrideSlot row.slot2 row.shim2 m = m.setSlot base row.slot2 row.shim2 := by
      unfold vtcOverrideSlot
      rw [hbase, if_neg h.placed.nonNull]
    simp only [if_pos hrow, hset]
    exact ⟨h.placed, h.cloned.setSlot h.placed (hslot2 hrow) row.shim2, h.mem, h.clone⟩
  · simp only [if_neg hrow]
    exact h

/-- **An install**, from where nothing is left of the engine. -/
theorem ksCloneOverride_scoped (A : Allocator) (hlive : m₀.TableLive row.span.toNat)
    (hslot : InSpan row row.slot.toNat) (hslot2 : row.slot2 ≠ 0 → InSpan row row.slot2.toNat)
    (hidle : Idle m₀ m) :
    (∀ w ∈ (ksCloneOverride A row m).2.1, Scoped row m₀ w) ∧
      ((ksCloneOverride A row m).1 = 0 →
        ∃ base, Installed row m₀ base (ksCloneOverride A row m).2.2) ∧
      ((ksCloneOverride A row m).1 ≠ 0 → (ksCloneOverride A row m).2.2 = m) := by
  unfold ksCloneOverride
  cases hop : vtcCloneOverride A row.span.toNat row.slot row.shim m with
  | none =>
    refine ⟨fun w hw => absurd hw List.not_mem_nil, fun h => ?_, fun _ => rfl⟩
    have hcode : (-1 : Int) = 0 := h
    exact absurd hcode (by decide)
  | some r =>
    obtain ⟨ms, cloned⟩ := r
    obtain ⟨hms, base, hfirst⟩ := vtcCloneOverride_scoped hlive hslot hidle hop
    have hboth := hfirst.second hslot2
    simp only
    generalize (if row.slot2 ≠ 0 then vtcOverrideSlot row.slot2 row.shim2 cloned else cloned) =
      second at hboth
    refine ⟨fun w hw => ?_, fun _ => ⟨base, ⟨hboth.placed, ?_, hboth.mem, hboth.clone⟩, ?_⟩,
      fun h => absurd rfl h⟩
    · simp only [List.mem_append, List.mem_cons, List.not_mem_nil, or_false] at hw
      rcases hw with hw | rfl | rfl
      · exact hms w hw
      · exact hfirst.scoped hslot (allowed_slot row m₀)
      · exact hboth.scoped hslot (allowed_patched row m₀)
    · exact ⟨hboth.cloned.blocks, hboth.cloned.keeps, hboth.cloned.abi, hboth.cloned.table⟩
    · have hin := hslot
      unfold InSpan at hin
      simp only [hboth.clone]
      rw [← tableLive_source hlive]
      refine (hboth.cloned.keeps _ (tableLive_inUse hlive (by omega))).trans ?_
      rw [tableLive_source hlive]
      rfl

/-- **A restore**, from where the row is installed. -/
theorem ksCloneRestore_scoped (hlive : m₀.TableLive row.span.toNat)
    (hin : Installed row m₀ base m) :
    (∀ w ∈ (ksCloneRestore m).1, Scoped row m₀ w) ∧ Idle m₀ (ksCloneRestore m).2 := by
  have hback : Function.update m.mem 0 m.kext.clone.origVptr = m₀.mem := by
    rw [hin.mem, hin.clone, Function.update_idem, Function.update_eq_self]
  have hbase : m.kext.clone.cloneBase ≠ 0 := by
    rw [hin.clone]
    exact hin.placed.nonNull
  unfold ksCloneRestore vtcRestore
  simp only [if_neg hbase]
  refine ⟨fun w hw => ?_, hback, ?_, hin.cloned.keeps.congr fun _ _ => rfl⟩
  · rw [List.mem_singleton] at hw
    subst hw
    refine scoped_of_original hlive hback (fun b hb => ?_) hin.cloned.keeps
    simp only [hin.cloned.blocks]
    exact List.mem_cons_of_mem _ hb
  · -- the block that is freed is the one that was taken
    simp only [hin.clone]
    exact Heap.blocks_free_alloc m.kext.heap hin.cloned.blocks

/-! ## A run of the engine -/

/-- The target and the memory beside it, between two calls. -/
def Spliced.moment (s : Spliced KextClone) : Moment := ⟨s.mem, s.st.cloned⟩

variable {A : Allocator} {className : Mem → Option String}

/-- The moments that a call of the engine passes through, on a VTABLE_CLONE row. -/
def callMoments (A : Allocator) (className : Mem → Option String) (row : SpliceRow)
    (s : Spliced KextClone) : SpliceEvent row.shim → List Moment
  | .install =>
    if s.st.installed = false ∧ gateOk row (kextOps A className) s.mem = none then
      (ksCloneOverride A row s.moment).2.1
    else []
  | .restore => if s.st.installed then (ksCloneRestore s.moment).1 else []
  | .write _ _ => []

/-- One event of the engine, with what the allocator answers to it. -/
def cloneStep (className : Mem → Option String) (row : SpliceRow) :
    Transducer (Spliced KextClone) (Allocator × SpliceEvent row.shim) Int
  | s, (A, e) => spliceStep row (kextOps A className) s e

/-- Between two calls: the row is installed, or nothing is left of the engine. -/
def CloneInv (row : SpliceRow) (m₀ : Moment) (s : Spliced KextClone) : Prop :=
  match s.st.installed with
  | true => ∃ base, Installed row m₀ base s.moment
  | false => Idle m₀ s.moment

theorem cloneInv_installed {s : Spliced KextClone} (h : CloneInv row m₀ s)
    (hinst : s.st.installed = true) : ∃ base, Installed row m₀ base s.moment := by
  unfold CloneInv at h
  rwa [hinst] at h

theorem cloneInv_idle {s : Spliced KextClone} (h : CloneInv row m₀ s)
    (hinst : s.st.installed = false) : Idle m₀ s.moment := by
  unfold CloneInv at h
  rwa [hinst] at h

theorem CloneInv.scoped {s : Spliced KextClone} (h : CloneInv row m₀ s)
    (hlive : m₀.TableLive row.span.toNat) (hslot : InSpan row row.slot.toNat) :
    Scoped row m₀ s.moment := by
  cases hinst : s.st.installed with
  | true =>
    obtain ⟨base, hin⟩ := cloneInv_installed h hinst
    exact hin.scoped hslot (allowed_patched row m₀)
  | false => exact (cloneInv_idle h hinst).scoped hlive

/-- An install of the engine is the clone op, where it gets that far. -/
theorem cloneInv_install (hkind : row.kind = .vtableClone) (hlive : m₀.TableLive row.span.toNat)
    (hslot : InSpan row row.slot.toNat) (hslot2 : row.slot2 ≠ 0 → InSpan row row.slot2.toNat)
    {s : Spliced KextClone} (hs : CloneInv row m₀ s) :
    CloneInv row m₀ (spliceInstall row (kextOps A className) s).2 := by
  cases hinst : s.st.installed with
  | true =>
    rw [install_already hinst]
    exact hs
  | false =>
    have hidle := cloneInv_idle hs hinst
    obtain ⟨-, hok, hfail⟩ := ksCloneOverride_scoped A hlive hslot hslot2 hidle
    unfold spliceInstall
    rw [hinst, if_neg Bool.false_ne_true]
    cases hgate : gateOk row (kextOps A className) s.mem with
    | some code => exact hs
    | none =>
      simp only [hkind]
      by_cases hcode : ((kextOps A className).cloneOverride row s.mem s.st.cloned).1 = 0
      · rw [if_neg (not_not.mpr hcode)]
        exact hok hcode
      · have hsame : (ksCloneOverride A row ⟨s.mem, s.st.cloned⟩).2.2 = s.moment := hfail hcode
        rw [if_pos hcode]
        unfold CloneInv kextOps
        simp only [hinst, hsame]
        exact hidle

theorem cloneInv_restore (hkind : row.kind = .vtableClone) (hlive : m₀.TableLive row.span.toNat)
    {s : Spliced KextClone} (hs : CloneInv row m₀ s) :
    CloneInv row m₀ (spliceRestore row (kextOps A className) s) := by
  cases hinst : s.st.installed with
  | true =>
    obtain ⟨base, hin⟩ := cloneInv_installed hs hinst
    unfold spliceRestore
    simp only [hinst, if_true, hkind]
    exact (ksCloneRestore_scoped hlive hin).2
  | false =>
    rw [restore_idle hinst]
    exact hs

/-- **Only this object, and never a dead table**: in every run of installs and restores of a
VTABLE_CLONE row whose slots lie in its span, whatever the allocator answers to each of them, and at
every moment of the next call. -/
theorem clone_scoped (row : SpliceRow) (hkind : row.kind = .vtableClone)
    (className : Mem → Option String) (mem : Mem) (st : SpliceState KextClone)
    (hst : st.installed = false) (hlive : Moment.TableLive row.span.toNat ⟨mem, st.cloned⟩)
    (hslot : InSpan row row.slot.toNat) (hslot2 : row.slot2 ≠ 0 → InSpan row row.slot2.toNat)
    (es : List (Allocator × SpliceEvent row.shim)) (hes : ∀ e ∈ es, e.2.isCall) :
    CloneInv row ⟨mem, st.cloned⟩ (Transducer.run (cloneStep className row) ⟨mem, st⟩ es).1 ∧
      Scoped row ⟨mem, st.cloned⟩
        (Transducer.run (cloneStep className row) ⟨mem, st⟩ es).1.moment ∧
      ∀ (A : Allocator) (e : SpliceEvent row.shim), ∀ w ∈ callMoments A className row
          (Transducer.run (cloneStep className row) ⟨mem, st⟩ es).1 e,
        Scoped row ⟨mem, st.cloned⟩ w := by
  have hinv : CloneInv row ⟨mem, st.cloned⟩
      (Transducer.run (cloneStep className row) ⟨mem, st⟩ es).1 := by
    refine Transducer.run_state_induction _
      (A := fun ae : Allocator × SpliceEvent row.shim => ae.2.isCall) ?_ ?_ es hes
    · unfold CloneInv
      simp only [hst]
      exact ⟨rfl, rfl, Heap.Keeps.refl _⟩
    · rintro t ⟨A, e⟩ he ht
      cases e with
      | install => exact cloneInv_install hkind hlive hslot hslot2 ht
      | restore => exact cloneInv_restore hkind hlive ht
      | write v hv => exact absurd he id
  generalize (Transducer.run (cloneStep className row) ⟨mem, st⟩ es).1 = s at hinv
  refine ⟨hinv, hinv.scoped hlive hslot, fun A e w hw => ?_⟩
  cases e with
  | install =>
    simp only [callMoments] at hw
    split at hw
    · rename_i hopen
      exact (ksCloneOverride_scoped A hlive hslot hslot2 (cloneInv_idle hinv hopen.1)).1 w hw
    · exact absurd hw List.not_mem_nil
  | restore =>
    simp only [callMoments] at hw
    split at hw
    · rename_i hinst
      obtain ⟨base, hin⟩ := cloneInv_installed hinv hinst
      exact (ksCloneRestore_scoped hlive hin).1 w hw
    · exact absurd hw List.not_mem_nil
  | write v hv => exact absurd hw List.not_mem_nil

/-- An allocator with one place to give. -/
def onePlace (a : Addr) : Allocator where
  place h n := if a ≠ 0 ∧ a.toNat + n ≤ 2 ^ 64 ∧ h.Fresh ⟨a.toNat, n⟩ then some a else none
  place_sound h n b hb := by
    simp only [Option.ite_none_right_eq_some, Option.some.injEq] at hb
    obtain ⟨hsound, rfl⟩ := hb
    exact hsound

/-- An allocator that is out of memory. -/
def noPlace : Allocator where
  place _ _ := none
  place_sound _ _ _ hnone := absurd hnone.symm (Option.some_ne_none _)

/-- A row of eight slots that overrides two. -/
def twoSlotRow : SpliceRow := ⟨.vtableClone, .none, "", none, 3, 7, 5, 9, 64⟩

/-- A table at 1016, in a block of its own, and nothing installed. -/
def tableAt1016 : SpliceState KextClone :=
  ⟨false, 0, 0, ⟨⟨fun a => BitVec.ofNat 64 a, [⟨1000, 80⟩]⟩, ⟨0, 0, 0⟩, 0⟩⟩

/-- An install that finds no memory, one that does, a restore, and another install elsewhere. -/
def retriedInstall : List (Allocator × SpliceEvent twoSlotRow.shim) :=
  [(noPlace, .install), (onePlace 4096, .install), (noPlace, .restore), (onePlace 8192, .install)]

theorem clone_scoped_retried :
    CloneInv twoSlotRow ⟨fun _ => 1016, tableAt1016.cloned⟩
        (Transducer.run (cloneStep (fun _ => none) twoSlotRow) ⟨fun _ => 1016, tableAt1016⟩
          retriedInstall).1 ∧
      Scoped twoSlotRow ⟨fun _ => 1016, tableAt1016.cloned⟩
        (Transducer.run (cloneStep (fun _ => none) twoSlotRow) ⟨fun _ => 1016, tableAt1016⟩
          retriedInstall).1.moment ∧
      ∀ (A : Allocator) (e : SpliceEvent twoSlotRow.shim),
        ∀ w ∈ callMoments A (fun _ => none) twoSlotRow
          (Transducer.run (cloneStep (fun _ => none) twoSlotRow) ⟨fun _ => 1016, tableAt1016⟩
            retriedInstall).1 e,
        Scoped twoSlotRow ⟨fun _ => 1016, tableAt1016.cloned⟩ w :=
  clone_scoped twoSlotRow rfl (fun _ => none) (fun _ => 1016) tableAt1016 rfl
    ⟨⟨1000, 80⟩, List.mem_cons_self, by decide, by decide⟩ (by decide) (by decide) _ (by
      intro e he
      simp only [retriedInstall, List.mem_cons, List.not_mem_nil, or_false] at he
      rcases he with rfl | rfl | rfl | rfl <;> trivial)

end MagicTrackpad
