import MagicTrackpad.Decode
import MagicTrackpad.Lib.Transducer
import MagicTrackpad.Lib.Utf8
import Mathlib.Data.List.TakeDrop

/-!
# The name mirror (`voodooinputmavericks_prefpane_refresh.c`, section 7b)

Every 1.5 s the preference pane looks at the displayName of the paired device. A rename by the user
is pushed onto the device as report 0x55, and the alias is cleared. `gLastDisplayName` is the
baseline of the comparison: a buffer of 128 bytes, filled with `strlcpy`.

* `CString` is a string of non-zero bytes; `Baseline` one that fits the buffer.
* `mirrorTick` is `mavericks_name_mirror_tick`, `wname` the name it writes and `nameWriteOnboard` is
  `mavericks_name_write_onboard`. What the write comes to and the next displayName, after a clear
  that worked or failed, are inputs.
* `tickKind`: everything a tick can do.

Results:
* `backOff_cut`, `rename_cap`: the cap keeps as much of a valid name as fits and never splits a
  character.
* `attempts_iff`: when a tick writes, in terms of the last reconciled name (`Mirror.reconciled`,
  which the code does not have in full).
* `name_mirror_iff`: a run writes on a rename only iff no tick finds a reconciled name of 128 bytes
  or more, with the mirror free to write.
* `rewrites_long_name`: such a name is written at every tick.
-/

namespace MagicTrackpad

open Lib
open Lib.Utf8 (IsUtf8 isCont)

/-- A C string, without its terminator. -/
@[ext] structure CString where
  bytes : List U8
  nonzero : ∀ b ∈ bytes, b ≠ 0#8
  deriving DecidableEq

/-- The empty string. -/
def CString.empty : CString := ⟨[], fun _ h => absurd h List.not_mem_nil⟩

/-- What `char gLastDisplayName[128]` can hold. -/
abbrev Baseline := { s : CString // s.bytes.length < 128 }

/-- `strlcpy(gLastDisplayName, s, sizeof gLastDisplayName)`. -/
def strlcpyBaseline (s : CString) : Baseline :=
  ⟨⟨s.bytes.take 127, fun b hb => s.nonzero b (List.mem_of_mem_take hb)⟩, by
    rw [List.length_take]
    omega⟩

/-! ## The name that is written -/

/-- `while (wl > 0 && ((unsigned char)s[wl] & 0xC0) == 0x80) wl--;`. -/
def backOff (s : List U8) : Nat → Nat
  | 0 => 0
  | wl + 1 => if isCont (byteAt s (wl + 1)) then backOff s wl else wl + 1

/-- `wl`, the length of the name that is written. -/
def capLength (s : List U8) : Nat := if 63 < s.length then backOff s 63 else s.length

/-- `wname`. -/
def wname (s : List U8) : List U8 := s.take (capLength s)

/-- `mavericks_name_write_onboard`: its return value and the report it hands to SET_REPORT, where
`landed` says whether a Bluetooth device takes one. -/
def nameWriteOnboard (name : List U8) (landed : Bool) : Bool × Option (List U8) :=
  if name.length = 0 ∨ 63 < name.length then (false, none)
  else (landed, some (0x55#8 :: name))

/-! ## The tick -/

/-- The static variables. -/
structure MirrorState where
  gLastDisplayName : Baseline
  gNameMirrorInit : Bool
  gNameDeferLogged : Bool

/-- What a tick finds. -/
structure Tick where
  /-- `mavericks_bt_device()` is not NULL. -/
  device : Bool
  displayName : CString
  /-- `presence_observer_state(gObs) == PRESENCE_HOLD`. -/
  hold : Bool
  /-- A Bluetooth device takes a report. -/
  landed : Bool

/-- What a tick does. -/
inductive MirrorCall
  | writeOnboard (name : List U8)
  | remoteNameRequest
  | setDisplayNameNil
  deriving DecidableEq

/-- `mavericks_name_mirror_tick`. -/
def mirrorTick (m : MirrorState) (t : Tick) : MirrorState × List MirrorCall :=
  let s := t.displayName
  if t.device = false then (m, [])
  else if m.gNameMirrorInit = false then
    ({ m with gLastDisplayName := strlcpyBaseline s, gNameMirrorInit := true }, [])
  else if s = m.gLastDisplayName.val then (m, [])
  else if s.bytes = [] then
    ({ m with gLastDisplayName := strlcpyBaseline s, gNameDeferLogged := false }, [])
  else if t.hold then ({ m with gNameDeferLogged := true }, [])
  else if (nameWriteOnboard (wname s.bytes) t.landed).1 then
    ({ m with gLastDisplayName := strlcpyBaseline s, gNameDeferLogged := false },
      [.writeOnboard (wname s.bytes), .remoteNameRequest, .setDisplayNameNil])
  else ({ m with gNameDeferLogged := true }, [.writeOnboard (wname s.bytes)])

/-- The tick gets past every early return. -/
structure Acts (m : MirrorState) (t : Tick) : Prop where
  device : t.device = true
  init : m.gNameMirrorInit = true
  changed : t.displayName ≠ m.gLastDisplayName.val
  nonempty : t.displayName.bytes ≠ []
  free : t.hold = false

/-- Everything a tick can do. -/
inductive TickKind (m : MirrorState) (t : Tick) : MirrorState × List MirrorCall → Prop
  | absent (hdevice : t.device = false) : TickKind m t (m, [])
  | firstSight (hdevice : t.device = true) (hinit : m.gNameMirrorInit = false) :
      TickKind m t
        ({ m with
            gLastDisplayName := strlcpyBaseline t.displayName
            gNameMirrorInit := true }, [])
  | same (hdevice : t.device = true) (hinit : m.gNameMirrorInit = true)
      (hsame : t.displayName = m.gLastDisplayName.val) : TickKind m t (m, [])
  | cleared (hdevice : t.device = true) (hinit : m.gNameMirrorInit = true)
      (hempty : t.displayName.bytes = []) :
      TickKind m t
        ({ m with
            gLastDisplayName := strlcpyBaseline t.displayName
            gNameDeferLogged := false }, [])
  | held (hdevice : t.device = true) (hinit : m.gNameMirrorInit = true)
      (hempty : t.displayName.bytes ≠ []) (hhold : t.hold = true) :
      TickKind m t ({ m with gNameDeferLogged := true }, [])
  | pushed (h : Acts m t)
      (hlanded : (nameWriteOnboard (wname t.displayName.bytes) t.landed).1 = true) :
      TickKind m t
        ({ m with
            gLastDisplayName := strlcpyBaseline t.displayName
            gNameDeferLogged := false },
          [.writeOnboard (wname t.displayName.bytes), .remoteNameRequest, .setDisplayNameNil])
  | failed (h : Acts m t)
      (hlanded : (nameWriteOnboard (wname t.displayName.bytes) t.landed).1 = false) :
      TickKind m t
        ({ m with gNameDeferLogged := true }, [.writeOnboard (wname t.displayName.bytes)])

/-- **What a tick can do.** -/
theorem tickKind (m : MirrorState) (t : Tick) : TickKind m t (mirrorTick m t) := by
  unfold mirrorTick
  by_cases hdevice : t.device = false
  · simp only [if_pos hdevice]
    exact .absent hdevice
  · simp only [if_neg hdevice]
    rw [Bool.not_eq_false] at hdevice
    by_cases hinit : m.gNameMirrorInit = false
    · rw [if_pos hinit]
      exact .firstSight hdevice hinit
    · rw [if_neg hinit]
      rw [Bool.not_eq_false] at hinit
      by_cases hsame : t.displayName = m.gLastDisplayName.val
      · rw [if_pos hsame]
        exact .same hdevice hinit hsame
      · rw [if_neg hsame]
        by_cases hempty : t.displayName.bytes = []
        · rw [if_pos hempty]
          exact .cleared hdevice hinit hempty
        · rw [if_neg hempty]
          by_cases hhold : t.hold = true
          · rw [if_pos hhold]
            exact .held hdevice hinit hempty hhold
          · rw [if_neg hhold]
            have hacts : Acts m t :=
              ⟨hdevice, hinit, hsame, hempty, Bool.eq_false_iff.mpr hhold⟩
            by_cases hlanded : (nameWriteOnboard (wname t.displayName.bytes) t.landed).1 = true
            · rw [if_pos hlanded]
              exact .pushed hacts hlanded
            · rw [if_neg hlanded]
              exact .failed hacts (Bool.eq_false_iff.mpr hlanded)

/-- The tick attempts the write. -/
def Attempts (m : MirrorState) (t : Tick) : Prop :=
  ∃ name, .writeOnboard name ∈ (mirrorTick m t).2

/-- **When a tick attempts the write**, and with which name. -/
theorem attempts_iff_acts (m : MirrorState) (t : Tick) : Attempts m t ↔ Acts m t := by
  unfold Attempts
  have hkind := tickKind m t
  generalize mirrorTick m t = r at hkind
  cases hkind with
  | absent hdevice =>
    exact iff_of_false (fun ⟨_, h⟩ => List.not_mem_nil h)
      fun h => absurd h.device (Bool.eq_false_iff.mp hdevice)
  | firstSight hdevice hinit =>
    exact iff_of_false (fun ⟨_, h⟩ => List.not_mem_nil h)
      fun h => absurd h.init (Bool.eq_false_iff.mp hinit)
  | same hdevice hinit hsame =>
    exact iff_of_false (fun ⟨_, h⟩ => List.not_mem_nil h) fun h => h.changed hsame
  | cleared hdevice hinit hempty =>
    exact iff_of_false (fun ⟨_, h⟩ => List.not_mem_nil h) fun h => h.nonempty hempty
  | held hdevice hinit hempty hhold =>
    exact iff_of_false (fun ⟨_, h⟩ => List.not_mem_nil h)
      fun h => absurd hhold (Bool.eq_false_iff.mp h.free)
  | pushed h hlanded => exact iff_of_true ⟨_, List.mem_cons_self⟩ h
  | failed h hlanded => exact iff_of_true ⟨_, List.mem_cons_self⟩ h

/-- Every name that is written is the capped displayName. -/
theorem written_eq_wname {m : MirrorState} {t : Tick} {name : List U8}
    (h : .writeOnboard name ∈ (mirrorTick m t).2) : name = wname t.displayName.bytes := by
  have hkind := tickKind m t
  generalize mirrorTick m t = r at h hkind
  cases hkind with
  | pushed hacts hlanded => simpa using h
  | failed hacts hlanded => simpa using h
  | _ => exact absurd h List.not_mem_nil

/-! ## The cap -/

/-- Where the walk back from a cut ends: only continuation bytes lie behind it, and it is not at one
itself, unless it has reached the front. -/
theorem backOff_cut (s : List U8) (k : Nat) :
    backOff s k ≤ k ∧ (0 < backOff s k → isCont (byteAt s (backOff s k)) = false) ∧
      ∀ i, backOff s k < i → i ≤ k → isCont (byteAt s i) = true := by
  induction k with
  | zero => exact ⟨Nat.le_refl 0, fun h => absurd h (Nat.lt_irrefl 0), fun i hi hi' => by omega⟩
  | succ k ih =>
    obtain ⟨hle, hstart, hbetween⟩ := ih
    unfold backOff
    by_cases hcont : isCont (byteAt s (k + 1)) = true
    · rw [if_pos hcont]
      refine ⟨by omega, hstart, fun i hi hi' => ?_⟩
      rcases Nat.eq_or_lt_of_le hi' with rfl | hlt
      · exact hcont
      · exact hbetween i hi (by omega)
    · rw [if_neg hcont]
      exact ⟨Nat.le_refl _, fun _ => Bool.eq_false_iff.mpr hcont, fun i hi hi' => by omega⟩

theorem byteAt_getElem {s : List U8} {i : Nat} (hi : i < s.length) : byteAt s i = s[i] := by
  rw [byteAt, List.getD_eq_getElem?_getD, List.getElem?_eq_getElem hi, Option.getD_some]

/-- **The walk back in a valid string** stops at the last first byte, at most three steps back. -/
theorem backOff_spec {s : List U8} (hs : IsUtf8 s) {k : Nat} (hk : k < s.length) (hthree : 3 < k) :
    0 < backOff s k ∧ k ≤ backOff s k + 3 ∧ IsUtf8 (s.take (backOff s k)) ∧
      ∀ p, p <+: s → IsUtf8 p → p.length ≤ k → p.length ≤ backOff s k := by
  obtain ⟨hle, hstart, hbetween⟩ := backOff_cut s k
  obtain ⟨i, hi, hik, hki, hfirst⟩ := Utf8.exists_start hs hk
  have hij : i ≤ backOff s k := by
    by_contra hnot
    have hcont := hbetween i (Nat.lt_of_not_le hnot) hik
    rw [byteAt_getElem hi, hfirst] at hcont
    exact absurd hcont (by decide)
  have hpos : 0 < backOff s k := by omega
  have hlt : backOff s k < s.length := Nat.lt_of_le_of_lt hle hk
  have hcut : isCont s[backOff s k] = false := by
    rw [← byteAt_getElem hlt]
    exact hstart hpos
  obtain ⟨hvalid, hnear, hlongest⟩ :=
    Utf8.longest_prefix hs hk hle (fun _ => hcut) fun j hj hlo hhi => by
      rw [← byteAt_getElem hj]
      exact hbetween j hlo hhi
  exact ⟨hpos, hnear, hvalid, hlongest⟩

theorem wname_of_le {s : List U8} (h : s.length ≤ 63) : wname s = s := by
  rw [wname, capLength, if_neg (Nat.not_lt.mpr h), List.take_length]

theorem capLength_le (s : List U8) : capLength s ≤ 63 := by
  unfold capLength
  split
  · exact (backOff_cut s 63).1
  · omega

theorem length_wname_le (s : List U8) : (wname s).length ≤ 63 := by
  rw [wname, List.length_take]
  exact Nat.le_trans (Nat.min_le_left _ _) (capLength_le s)

/-- A name that is not empty passes the guard of `mavericks_name_write_onboard` after the cap. -/
theorem nameWriteOnboard_of_ne_nil {name : List U8} (hne : name ≠ []) (hle : name.length ≤ 63)
    (landed : Bool) : nameWriteOnboard name landed = (landed, some (0x55#8 :: name)) := by
  have hzero : name.length ≠ 0 := fun h => hne (List.length_eq_zero_iff.mp h)
  exact if_neg (by omega)

/-- A name that is not empty keeps a character. -/
theorem wname_ne_nil {s : List U8} (hs : IsUtf8 s) (hne : s ≠ []) : wname s ≠ [] := by
  by_cases hlong : 63 < s.length
  · have hpos := (backOff_spec hs hlong (by decide)).1
    rw [wname, capLength, if_pos hlong, ne_eq, List.take_eq_nil_iff]
    rintro (hzero | hnil)
    · omega
    · exact hne hnil
  · rw [wname_of_le (Nat.le_of_not_lt hlong)]
    exact hne

theorem isUtf8_wname {s : List U8} (hs : IsUtf8 s) : IsUtf8 (wname s) := by
  by_cases hlong : 63 < s.length
  · rw [wname, capLength, if_pos hlong]
    exact (backOff_spec hs hlong (by decide)).2.2.1
  · rw [wname_of_le (Nat.le_of_not_lt hlong)]
    exact hs

/-- No valid prefix of at most 63 bytes is longer. -/
theorem length_le_wname {s p : List U8} (hs : IsUtf8 s) (hp : p <+: s) (hvalid : IsUtf8 p)
    (hp63 : p.length ≤ 63) : p.length ≤ (wname s).length := by
  by_cases hlong : 63 < s.length
  · have hlongest := (backOff_spec hs hlong (by decide)).2.2.2 p hp hvalid hp63
    have hle := (backOff_cut s 63).1
    rw [wname, capLength, if_pos hlong, List.length_take]
    omega
  · rw [wname_of_le (Nat.le_of_not_lt hlong)]
    exact hp.length_le

/-- **The rename cap never splits a character and keeps as much as fits**: the name that a tick
writes, for a displayName that is valid UTF-8, is its longest valid prefix of at most 63 bytes. -/
theorem rename_cap (s : CString) (hs : IsUtf8 s.bytes) :
    (∀ m t, t.displayName = s → ∀ name, .writeOnboard name ∈ (mirrorTick m t).2 →
      name = wname s.bytes) ∧
    (wname s.bytes <+: s.bytes ∧ IsUtf8 (wname s.bytes) ∧ (wname s.bytes).length ≤ 63 ∧
      ∀ p, p <+: s.bytes → IsUtf8 p → p.length ≤ 63 → p.length ≤ (wname s.bytes).length) ∧
    (s.bytes.length ≤ 63 → wname s.bytes = s.bytes) ∧
    (s.bytes ≠ [] → wname s.bytes ≠ []) ∧
    (63 < s.bytes.length → 0 < backOff s.bytes 63 ∧ 63 ≤ backOff s.bytes 63 + 3) ∧
    (wname s.bytes).length + 1 ≤ 64 ∧
    (s.bytes ≠ [] → ∀ landed,
      nameWriteOnboard (wname s.bytes) landed = (landed, some (0x55#8 :: wname s.bytes))) := by
  have hlen := length_wname_le s.bytes
  refine ⟨?_, ⟨List.take_prefix _ _, isUtf8_wname hs, hlen, fun p => length_le_wname hs⟩,
    wname_of_le, wname_ne_nil hs, fun hlong => ?_, by omega, fun hs0 landed => ?_⟩
  · rintro m t rfl name hname
    exact written_eq_wname hname
  · obtain ⟨hpos, hnear, -⟩ := backOff_spec hs hlong (by decide)
    exact ⟨hpos, hnear⟩
  · exact nameWriteOnboard_of_ne_nil (wname_ne_nil hs hs0) hlen landed

/-- 64 bytes of which the last four are one character, so that the cap falls into it. -/
def wideName : CString := ⟨List.replicate 60 0x4D ++ [0xF0, 0x9F, 0x98, 0x80], by decide⟩

theorem rename_cap_wide :
    IsUtf8 (wname wideName.bytes) ∧ wname wideName.bytes = List.replicate 60 0x4D ∧
      0 < backOff wideName.bytes 63 ∧ 63 ≤ backOff wideName.bytes 63 + 3 :=
  have h := rename_cap wideName ⟨List.replicate 60 'M' ++ ['😀'], by decide⟩
  ⟨h.2.1.2.1, by decide, h.2.2.2.2.1 (by decide)⟩

/-! ## The last reconciled name -/

/-- The mirror with the displayName of its last reconciled tick: the first one seen, the last one
pushed successfully, or the last observed clear. -/
structure Mirror where
  state : MirrorState
  reconciled : CString

/-- The displayName this tick leaves reconciled. -/
def reconciledBy (m : Mirror) (t : Tick) : CString :=
  if t.device = false then m.reconciled
  else if m.state.gNameMirrorInit = false then t.displayName
  else if t.displayName.bytes = [] then t.displayName
  else if .remoteNameRequest ∈ (mirrorTick m.state t).2 then t.displayName
  else m.reconciled

/-- One tick. -/
def mirrorStep : Transducer Mirror Tick MirrorCall
  | m, t => (⟨(mirrorTick m.state t).1, reconciledBy m t⟩, (mirrorTick m.state t).2)

/-- Static variables at load time. -/
def mirrorStart : Mirror := ⟨⟨strlcpyBaseline .empty, false, false⟩, .empty⟩

/-- The tick writes on a rename only. -/
def OnlyOnRename (m : Mirror) (t : Tick) : Prop :=
  Attempts m.state t → m.state.gNameMirrorInit = true ∧ t.displayName ≠ m.reconciled

/-- The tick finds the reconciled name again, too long for the baseline, and is free to write. -/
def LongAgain (m : Mirror) (t : Tick) : Prop :=
  t.device = true ∧ m.state.gNameMirrorInit = true ∧ t.hold = false ∧
    t.displayName = m.reconciled ∧ 128 ≤ t.displayName.bytes.length

/-- The baseline is what the buffer took of the reconciled name. -/
def BaselineOf (m : Mirror) : Prop :=
  m.state.gNameMirrorInit = true → m.state.gLastDisplayName = strlcpyBaseline m.reconciled

theorem strlcpyBaseline_eq_iff (s : CString) :
    s = (strlcpyBaseline s).val ↔ s.bytes.length < 128 := by
  rw [CString.ext_iff]
  show s.bytes = s.bytes.take 127 ↔ _
  rw [eq_comm, List.take_eq_self_iff]
  exact Nat.lt_succ_iff.symm

/-- **One tick** keeps the baseline on the reconciled name. -/
theorem baselineOf_step {m : Mirror} (hm : BaselineOf m) (t : Tick) :
    BaselineOf (mirrorStep m t).1 := by
  intro hinit'
  have hkind := tickKind m.state t
  simp only [mirrorStep, reconciledBy] at hinit' ⊢
  generalize mirrorTick m.state t = r at hinit' hkind ⊢
  cases hkind with
  | absent hdevice =>
    rw [if_pos hdevice]
    exact hm hinit'
  | firstSight hdevice hinit => simp [hdevice, hinit]
  | same hdevice hinit hsame =>
    by_cases hempty : t.displayName.bytes = []
    · simp only [hdevice, hinit, hempty, Bool.true_eq_false, if_false, if_true]
      refine Subtype.ext ?_
      rw [← hsame, CString.ext_iff]
      simp [strlcpyBaseline, hempty]
    · simp only [hdevice, hinit, hempty, Bool.true_eq_false, if_false, List.not_mem_nil]
      exact hm hinit
  | cleared hdevice hinit hempty => simp [hdevice, hinit, hempty]
  | held hdevice hinit hempty hhold =>
    simp only [hdevice, hinit, hempty, Bool.true_eq_false, if_false, List.not_mem_nil]
    exact hm hinit
  | pushed h hlanded => simp [h.device, h.init, h.nonempty]
  | failed h hlanded =>
    simp only [h.device, h.init, h.nonempty, Bool.true_eq_false, if_false, List.mem_singleton,
      reduceCtorEq]
    exact hm h.init

/-- **One tick** writes without a rename iff it finds the reconciled name, too long. -/
theorem onlyOnRename_iff {m : Mirror} (hm : BaselineOf m) (t : Tick) :
    OnlyOnRename m t ↔ ¬ LongAgain m t := by
  unfold OnlyOnRename
  rw [attempts_iff_acts]
  constructor
  · rintro h ⟨hdevice, hinit, hfree, hsame, hlong⟩
    have hne : t.displayName.bytes ≠ [] := fun hnil => by
      rw [hnil] at hlong
      exact absurd hlong (by decide)
    have hchanged : t.displayName ≠ m.state.gLastDisplayName.val := by
      rw [hm hinit, ← hsame, ne_eq, strlcpyBaseline_eq_iff]
      omega
    exact (h ⟨hdevice, hinit, hchanged, hne, hfree⟩).2 hsame
  · rintro hshort hacts
    refine ⟨hacts.init, fun hsame => ?_⟩
    have hlen : t.displayName.bytes.length < 128 := by
      by_contra hlong
      exact hshort ⟨hacts.device, hacts.init, hacts.free, hsame, Nat.le_of_not_lt hlong⟩
    apply hacts.changed
    rw [hm hacts.init, ← hsame]
    exact (strlcpyBaseline_eq_iff _).mpr hlen

/-- A tick that shows the reconciled name, or nothing, leaves it reconciled. -/
theorem reconciledBy_same {m : Mirror} (hinit : m.state.gNameMirrorInit = true) {t : Tick}
    (ht : t.device = true → t.displayName = m.reconciled) : reconciledBy m t = m.reconciled := by
  unfold reconciledBy
  by_cases hdevice : t.device = false
  · rw [if_pos hdevice]
  · rw [if_neg hdevice, ht (Bool.not_eq_false _ ▸ hdevice)]
    simp [hinit]

theorem init_mirrorTick {m : MirrorState} (hinit : m.gNameMirrorInit = true) (t : Tick) :
    (mirrorTick m t).1.gNameMirrorInit = true := by
  have hkind := tickKind m t
  generalize mirrorTick m t = r at hkind
  cases hkind with
  | firstSight hdevice hnot => rfl
  | _ => exact hinit

/-- Where the name stays the reconciled one, a tick writes only if it is too long. -/
theorem attempts_iff_longAgain {m : Mirror} (hm : BaselineOf m) {t : Tick}
    (ht : t.device = true → t.displayName = m.reconciled) :
    Attempts m.state t ↔ LongAgain m t := by
  rw [← not_iff_not, ← onlyOnRename_iff hm]
  refine ⟨fun hnot hattempts => absurd hattempts hnot, fun honly hattempts => ?_⟩
  have hdevice := ((attempts_iff_acts _ _).mp hattempts).device
  exact (honly hattempts).2 (ht hdevice)

/-! ## A run -/

/-- A run in which the name stays the reconciled one writes nothing iff the name is never found too
long. -/
theorem never_written_iff {m : Mirror} (hm : BaselineOf m) (hinit : m.state.gNameMirrorInit = true)
    {es : List Tick} (hes : ∀ t ∈ es, t.device = true → t.displayName = m.reconciled) :
    (∀ name, .writeOnboard name ∉ (Transducer.run mirrorStep m es).2) ↔
      Transducer.Along mirrorStep (fun m t => ¬ LongAgain m t) m es := by
  induction es generalizing m with
  | nil => exact iff_of_true (fun _ h => List.not_mem_nil h) trivial
  | cons t es ih =>
    have ht := hes t List.mem_cons_self
    have hsame : (mirrorStep m t).1.reconciled = m.reconciled := reconciledBy_same hinit ht
    have hrest := ih (m := (mirrorStep m t).1) (baselineOf_step hm t) (init_mirrorTick hinit t)
      fun u hu hdevice => by rw [hsame]; exact hes u (List.mem_cons_of_mem t hu) hdevice
    have hone : (∀ name, .writeOnboard name ∉ (mirrorStep m t).2) ↔ ¬ LongAgain m t := by
      rw [← attempts_iff_longAgain hm ht, Attempts, not_exists]
      exact Iff.rfl
    rw [Transducer.Along, ← hone, ← hrest, Transducer.run]
    simp only [List.mem_append, not_or]
    exact forall_and

/-- **A run writes on a rename only** iff no tick finds a reconciled name of 128 bytes or more with
the mirror free to write; and from any state it reaches, while the name stays the reconciled one
(the one seen since first sight, or the one pushed last), nothing is written under the same
condition. -/
theorem name_mirror_iff (es after : List Tick) :
    (Transducer.Along mirrorStep OnlyOnRename mirrorStart es ↔
      Transducer.Along mirrorStep (fun m t => ¬ LongAgain m t) mirrorStart es) ∧
    let m := (Transducer.run mirrorStep mirrorStart es).1
    m.state.gNameMirrorInit = true →
      (∀ t ∈ after, t.device = true → t.displayName = m.reconciled) →
      ((∀ name, .writeOnboard name ∉ (Transducer.run mirrorStep m after).2) ↔
        Transducer.Along mirrorStep (fun m t => ¬ LongAgain m t) m after) := by
  have hstart : BaselineOf mirrorStart := fun h => absurd h Bool.false_ne_true
  constructor
  · exact Transducer.along_iff (I := BaselineOf)
      (fun m t hm => ⟨onlyOnRename_iff hm t, fun _ => baselineOf_step hm t⟩) hstart es
  · intro m hinit hafter
    have hm : BaselineOf m := Transducer.run_state_induction mirrorStep (A := fun _ => True)
      (I := BaselineOf) hstart (fun _ t _ h => baselineOf_step h t) es fun _ _ => trivial
    exact never_written_iff hm hinit hafter

/-- Two characters. -/
def shortName : CString := ⟨[0x4D, 0x54], by decide⟩

theorem name_mirror_iff_short :
    let t : Tick := ⟨true, shortName, false, true⟩
    ∀ name, .writeOnboard name ∉
      (Transducer.run mirrorStep (Transducer.run mirrorStep mirrorStart [t]).1 [t]).2 := by
  intro t
  have hiff := (name_mirror_iff [t] [t]).2 rfl fun u hu _ => by
    rw [List.mem_singleton.mp hu]
    rfl
  exact hiff.mpr ⟨fun hlong => absurd hlong.2.2.2.2 (by decide), trivial⟩

/-- A name of 128 letters. -/
def longName : CString := ⟨List.replicate 128 0x61, fun b hb => by
  rw [List.eq_of_mem_replicate hb]
  decide⟩

/-- Seen at first sight, and written at the next tick although nobody renamed anything. -/
theorem rewrites_long_name :
    ¬ Transducer.Along mirrorStep OnlyOnRename mirrorStart
      [⟨true, longName, false, true⟩, ⟨true, longName, false, true⟩] := by
  intro h
  have hbase : BaselineOf (mirrorStep mirrorStart ⟨true, longName, false, true⟩).1 :=
    baselineOf_step (fun h => absurd h Bool.false_ne_true) _
  refine (onlyOnRename_iff hbase _).mp h.2.1 ⟨rfl, rfl, rfl, rfl, ?_⟩
  exact Nat.le_of_eq (List.length_replicate (n := 128)).symm

end MagicTrackpad
