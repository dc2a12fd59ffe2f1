import MagicTrackpad.ConnectSM
import MagicTrackpad.Frame
import MagicTrackpad.Lib.Fields
import Mathlib.Data.List.Infix
import Mathlib.Logic.Function.Basic

/-!
# The connect trace (`src/mavericks_conn_trace.c`, `conn-trace` of `tools/re`)

The kext logs one CONNTRACE line per transition of a connection, and `re conn-trace` reads a log
back: it splits each line at blanks, takes four of the `KEY=VALUE` fields, and says of each
connection whether it came to STEADY, or where it stalled.

* The script's variables outlive a line, and its arrays are keyed by the text of the connection id.
* A line of the log carries whatever the logger puts before it. `LogLine.other` is any line that
  `grep` drops.

Results:
* `btConntrace_line`: the kext's buffer holds every line there is.
* `assign_connTraceLine`: behind any prefix, whatever the variables held, the script reads what was
  printed.
* `conn_trace_verdict`: so the verdict on a log is the verdict on the records that were logged.
-/

namespace MagicTrackpad

open Lib Lib.Fields

/-- `mavericks_conn_trace_rec_t`. -/
structure ConnTraceRec where
  tsMs : U32
  connId : BitVec 32
  state : CsmState
  event : CsmEvent
  chan : Addr
  bnb : Addr
  deleg : Addr
  ret : BitVec 32
  deriving DecidableEq

/-- `csm_state_name`. -/
def csmStateName : CsmState → List Char
  | .idle => "IDLE".toList
  | .controlUp => "CONTROL_UP".toList
  | .bnbFormed => "BNB_FORMED".toList
  | .interruptBound => "INTERRUPT_BOUND".toList
  | .interposed => "INTERPOSED".toList
  | .mtMode => "MT_MODE".toList
  | .handlerUp => "HANDLER_UP".toList
  | .steady => "STEADY".toList

/-- `csm_event_name`. -/
def csmEventName : CsmEvent → List Char
  | .controlAttach => "CONTROL_ATTACH".toList
  | .controlOpen => "CONTROL_OPEN".toList
  | .interruptPublished => "INTERRUPT_PUBLISHED".toList
  | .bnbListening => "BNB_LISTENING".toList
  | .interposeOk => "INTERPOSE_OK".toList
  | .mtModeConfirmed => "MT_MODE_CONFIRMED".toList
  | .handlerSpawned => "HANDLER_SPAWNED".toList
  | .frame => "FRAME".toList
  | .disconnect => "DISCONNECT".toList

/-- The keys of the format string, and what stands behind them. -/
def connTraceFields (r : ConnTraceRec) : List (List Char × List Char) :=
  [("ts".toList, decimal r.tsMs.toNat), ("conn".toList, decimal r.connId.toInt),
    ("state".toList, csmStateName r.state), ("event".toList, csmEventName r.event),
    ("chan".toList, hexadecimal r.chan.toNat), ("bnb".toList, hexadecimal r.bnb.toNat),
    ("deleg".toList, hexadecimal r.deleg.toNat), ("ret".toList, decimal r.ret.toInt)]

/-- `KEY=VALUE`. -/
def printField (f : List Char × List Char) : List Char := f.1 ++ '=' :: f.2

/-- `"CONNTRACE ts=%u conn=%d state=%s event=%s chan=%p bnb=%p deleg=%p ret=%d"`. -/
def connTraceLine (r : ConnTraceRec) : List Char :=
  "CONNTRACE".toList ++ ((connTraceFields r).map printField).flatMap fun w => ' ' :: w

/-- `mavericks_conn_trace_format`: the length, −1 where the buffer is too small, and the buffer. -/
def mavericksConnTraceFormat (n : Nat) (r : ConnTraceRec) : Int × List Char :=
  let line := connTraceLine r
  if n ≤ line.length then (-1, line.take (n - 1)) else (line.length, line)

/-- `bt_conntrace`, with the log level at 1 or more: the lines it logs. -/
def btConntrace (r : ConnTraceRec) : List (List Char) :=
  let w := mavericksConnTraceFormat 192 r
  if w.1 > 0 then [w.2] else []

/-! ## The line fits -/

theorem length_csmStateName (s : CsmState) : (csmStateName s).length ≤ 15 := by
  cases s <;> decide

theorem length_csmEventName (e : CsmEvent) : (csmEventName e).length ≤ 19 := by
  cases e <;> decide

/-- An `unsigned` has ten digits, an `int` a sign more. -/
theorem length_decimal_U32 (v : U32) : (decimal v.toNat).length ≤ 11 ∧
    (decimal v.toInt).length ≤ 11 := by
  constructor
  · refine length_decimal_le (by decide) ?_
    have hv := v.isLt
    omega
  · refine length_decimal_le (by decide) ?_
    have hlo := v.le_toInt
    have hhi := v.toInt_lt
    omega

theorem length_pointer (a : Addr) : (hexadecimal a.toNat).length ≤ 18 :=
  length_hexadecimal_le (by decide) a.isLt

theorem length_printField (f : List Char × List Char) :
    (printField f).length = f.1.length + f.2.length + 1 := by
  unfold printField
  rw [List.length_append, List.length_cons]
  rfl

theorem length_connTraceLine (r : ConnTraceRec) :
    (connTraceLine r).length =
      9 + ((connTraceFields r).map fun f => f.1.length + f.2.length + 2).sum := by
  unfold connTraceLine
  rw [List.length_append, List.length_flatMap, List.map_map]
  congr 2
  refine List.map_congr_left fun f _ => ?_
  simp only [Function.comp, List.length_cons, length_printField]

/-- **The kext's buffer holds every line.** -/
theorem btConntrace_line (r : ConnTraceRec) : btConntrace r = [connTraceLine r] := by
  have hlen : 9 ≤ (connTraceLine r).length ∧ (connTraceLine r).length < 192 := by
    have hts := (length_decimal_U32 r.tsMs).1
    have hconn := (length_decimal_U32 r.connId).2
    have hret := (length_decimal_U32 r.ret).2
    have hstate := length_csmStateName r.state
    have hevent := length_csmEventName r.event
    have hchan := length_pointer r.chan
    have hbnb := length_pointer r.bnb
    have hdeleg := length_pointer r.deleg
    rw [length_connTraceLine]
    simp only [connTraceFields, List.map_cons, List.map_nil, List.sum_cons, List.sum_nil,
      String.reduceToList, List.length_cons, List.length_nil]
    omega
  unfold btConntrace mavericksConnTraceFormat
  simp only [if_neg (Nat.not_le.mpr hlen.2)]
  rw [if_pos (by omega)]

/-! ## The script -/

/-- The variables that the script takes from the fields. -/
structure TraceVars where
  ts : List Char
  conn : List Char
  state : List Char
  event : List Char

/-- One field: those without `=`, and those with another key, are passed over. -/
def TraceVars.assign (v : TraceVars) (w : List Char) : TraceVars :=
  match keyValue w with
  | none => v
  | some (k, x) =>
    if k = "conn".toList then { v with conn := x }
    else if k = "state".toList then { v with state := x }
    else if k = "event".toList then { v with event := x }
    else if k = "ts".toList then { v with ts := x }
    else v

/-- The script between two lines: its variables and its arrays. -/
structure ConnTrace where
  vars : TraceVars
  last : List Char → List Char
  seen : List Char → Bool
  steady : List Char → Bool

/-- Before the first line. -/
def ConnTrace.init : ConnTrace := ⟨⟨[], [], [], []⟩, fun _ => [], fun _ => false, fun _ => false⟩

/-- What `grep` keeps. -/
def connTraceMark : List Char := "CONNTRACE ".toList

/-- One line of the log, in `sub_conn_trace`. -/
def ConnTrace.line (s : ConnTrace) (line : List Char) : ConnTrace :=
  if connTraceMark <:+: line then
    let v := (fields line).foldl TraceVars.assign s.vars
    if v.event = "DISCONNECT".toList then { s with vars := v }
    else
      { vars := v
        last := Function.update s.last v.conn v.state
        seen := Function.update s.seen v.conn true
        steady :=
          if v.state = "STEADY".toList then Function.update s.steady v.conn true else s.steady }
  else s

/-- `VERDICT: STEADY` or `VERDICT: FAIL … stalled at …`. -/
inductive ConnVerdict
  | steady
  | fail (stalledAt : List Char)
  deriving DecidableEq

/-- The verdict on a connection, after the last line. -/
def ConnTrace.verdict (s : ConnTrace) (conn : List Char) : Option ConnVerdict :=
  if s.seen conn then some (if s.steady conn then .steady else .fail (s.last conn)) else none

/-- The verdicts of `re conn-trace` on a log. -/
def subConnTrace (log : List (List Char)) : ConnTrace := log.foldl ConnTrace.line .init

/-! ## What was printed is read -/

theorem plain_csmStateName (s : CsmState) : Plain (csmStateName s) := by
  cases s <;> decide

theorem plain_csmEventName (e : CsmEvent) : Plain (csmEventName e) := by
  cases e <;> decide

/-- A printed field is one word. -/
theorem plain_printField {r : ConnTraceRec} :
    ∀ w ∈ (connTraceFields r).map printField, Plain w ∧ w ≠ [] := by
  have hfield : ∀ f ∈ connTraceFields r, Plain f.1 ∧ Plain f.2 := by
    unfold connTraceFields
    simp only [List.forall_mem_cons, List.not_mem_nil, false_implies, implies_true, and_true]
    refine ⟨⟨by decide, plain_decimal _⟩, ⟨by decide, plain_decimal _⟩,
      ⟨by decide, plain_csmStateName _⟩, ⟨by decide, plain_csmEventName _⟩,
      ⟨by decide, plain_hexadecimal _⟩, ⟨by decide, plain_hexadecimal _⟩,
      ⟨by decide, plain_hexadecimal _⟩, ⟨by decide, plain_decimal _⟩⟩
  intro w hw
  obtain ⟨f, hf, rfl⟩ := List.mem_map.mp hw
  obtain ⟨hkey, hvalue⟩ := hfield f hf
  refine ⟨hkey.append (Plain.append (v := ['=']) (by decide) hvalue), ?_⟩
  unfold printField
  exact List.append_ne_nil_of_right_ne_nil _ (List.cons_ne_nil _ _)

theorem fields_connTraceLine (syslog : List Char) (r : ConnTraceRec) :
    fields (syslog ++ connTraceLine r) =
      fields (syslog ++ "CONNTRACE".toList) ++ (connTraceFields r).map printField := by
  unfold connTraceLine
  rw [← List.append_assoc, fields_append_flatMap _ plain_printField]

theorem assign_printField (v : TraceVars) {k : List Char} (hk : '=' ∉ k) (x : List Char) :
    v.assign (printField (k, x)) =
      if k = "conn".toList then { v with conn := x }
      else if k = "state".toList then { v with state := x }
      else if k = "event".toList then { v with event := x }
      else if k = "ts".toList then { v with ts := x }
      else v := by
  unfold TraceVars.assign printField
  rw [keyValue_join hk]

theorem assign_ts (v : TraceVars) (x : List Char) :
    v.assign (printField ("ts".toList, x)) = { v with ts := x } := by
  rw [assign_printField v (by decide), if_neg (by decide), if_neg (by decide),
    if_neg (by decide), if_pos rfl]

theorem assign_conn (v : TraceVars) (x : List Char) :
    v.assign (printField ("conn".toList, x)) = { v with conn := x } := by
  rw [assign_printField v (by decide), if_pos rfl]

theorem assign_state (v : TraceVars) (x : List Char) :
    v.assign (printField ("state".toList, x)) = { v with state := x } := by
  rw [assign_printField v (by decide), if_neg (by decide), if_pos rfl]

theorem assign_event (v : TraceVars) (x : List Char) :
    v.assign (printField ("event".toList, x)) = { v with event := x } := by
  rw [assign_printField v (by decide), if_neg (by decide), if_neg (by decide), if_pos rfl]

/-- The other fields are passed over. -/
theorem assign_other (v : TraceVars) {k : List Char} (x : List Char)
    (hk : k ∈ ["chan".toList, "bnb".toList, "deleg".toList, "ret".toList]) :
    v.assign (printField (k, x)) = v := by
  have hkey : '=' ∉ k ∧ k ≠ "conn".toList ∧ k ≠ "state".toList ∧ k ≠ "event".toList ∧
      k ≠ "ts".toList := by
    revert hk k
    decide
  obtain ⟨heq, hconn, hstate, hevent, hts⟩ := hkey
  rw [assign_printField v heq, if_neg hconn, if_neg hstate, if_neg hevent, if_neg hts]

/-- **The script reads what the kext printed**, whatever stands before it and whatever the variables
held: the eight fields come after the prefix, and the last assignment counts. -/
theorem assign_connTraceLine (v : TraceVars) (syslog : List Char) (r : ConnTraceRec) :
    (fields (syslog ++ connTraceLine r)).foldl TraceVars.assign v =
      ⟨decimal r.tsMs.toNat, decimal r.connId.toInt, csmStateName r.state,
        csmEventName r.event⟩ := by
  rw [fields_connTraceLine, List.foldl_append]
  generalize (fields (syslog ++ "CONNTRACE".toList)).foldl TraceVars.assign v = v'
  simp only [connTraceFields, List.map_cons, List.map_nil, List.foldl_cons, List.foldl_nil]
  rw [assign_ts, assign_conn, assign_state, assign_event, assign_other _ _ (by decide),
    assign_other _ _ (by decide), assign_other _ _ (by decide), assign_other _ _ (by decide)]

/-- The line is one that `grep` keeps. -/
theorem infix_mark (syslog : List Char) (r : ConnTraceRec) :
    connTraceMark <:+: syslog ++ connTraceLine r := by
  have hmark : connTraceMark = "CONNTRACE".toList ++ [' '] := by decide
  have hline : connTraceMark <+: connTraceLine r := by
    unfold connTraceLine connTraceFields
    rw [hmark, List.map_cons, List.flatMap_cons]
    exact ⟨_, by rw [List.append_assoc, List.singleton_append, List.cons_append]⟩
  exact hline.isInfix.trans (List.suffix_append syslog _).isInfix

/-! ## The verdict -/

/-- A line of the log: a record that the kext logged, behind what the logger puts before a line, or
any line that `grep` drops. -/
inductive LogLine
  | traced (syslog : List Char) (r : ConnTraceRec)
  | other (text : List Char) (h : ¬connTraceMark <:+: text)

/-- The text of a line, with the CONNTRACE line as the kext formatted it. -/
def LogLine.text : LogLine → List (List Char)
  | .traced syslog r => (btConntrace r).map fun line => syslog ++ line
  | .other text _ => [text]

/-- The record of a line. -/
def LogLine.record : LogLine → Option ConnTraceRec
  | .traced _ r => some r
  | .other _ _ => none

/-- The records of a connection that count: a DISCONNECT is only the end of it. -/
def recordsOf (rs : List ConnTraceRec) (id : BitVec 32) : List ConnTraceRec :=
  rs.filter fun r => r.connId = id ∧ r.event ≠ .disconnect

/-- What the records say of a connection: STEADY if one says so, else where the last one stands. -/
def recordVerdict (rs : List ConnTraceRec) (id : BitVec 32) : Option ConnVerdict :=
  match (recordsOf rs id).getLast? with
  | none => none
  | some r =>
    some (if ∃ x ∈ recordsOf rs id, x.state = .steady then .steady
      else .fail (csmStateName r.state))

theorem recordsOf_concat (rs : List ConnTraceRec) (r : ConnTraceRec) (id : BitVec 32) :
    recordsOf (rs ++ [r]) id =
      recordsOf rs id ++ (if r.connId = id ∧ r.event ≠ .disconnect then [r] else []) := by
  unfold recordsOf
  rw [List.filter_append]
  simp only [List.filter_cons, List.filter_nil, decide_eq_true_eq]

theorem csmStateName_steady {s : CsmState} : csmStateName s = "STEADY".toList ↔ s = .steady := by
  cases s <;> decide

theorem csmEventName_disconnect {e : CsmEvent} :
    csmEventName e = "DISCONNECT".toList ↔ e = .disconnect := by
  cases e <;> decide

/-- The text of a connection id is that of no other. -/
theorem decimal_connId {i j : BitVec 32} : decimal i.toInt = decimal j.toInt ↔ i = j :=
  ⟨fun h => BitVec.toInt_inj.mp (decimal_inj h), fun h => h ▸ rfl⟩

/-- The arrays of the script hold what the records say. -/
structure TraceInv (rs : List ConnTraceRec) (s : ConnTrace) : Prop where
  seen : ∀ id : BitVec 32, s.seen (decimal id.toInt) = true ↔ recordsOf rs id ≠ []
  steady : ∀ id : BitVec 32, s.steady (decimal id.toInt) = true ↔
    ∃ x ∈ recordsOf rs id, x.state = .steady
  last : ∀ id : BitVec 32, ∀ r ∈ (recordsOf rs id).getLast?,
    s.last (decimal id.toInt) = csmStateName r.state

theorem traceInv_init : TraceInv [] .init :=
  ⟨fun _ => ⟨fun h => absurd h Bool.false_ne_true, fun h => absurd rfl h⟩,
    fun _ => ⟨fun h => absurd h Bool.false_ne_true, fun ⟨_, hx, _⟩ => absurd hx List.not_mem_nil⟩,
    fun _ _ h => absurd h (Option.not_mem_none _)⟩

/-- **One record**: its connection's entries change as the record says, and no other's. -/
theorem traceInv_record {rs : List ConnTraceRec} {s : ConnTrace} (hs : TraceInv rs s)
    (syslog : List Char) (r : ConnTraceRec) :
    TraceInv (rs ++ [r]) (s.line (syslog ++ connTraceLine r)) := by
  unfold ConnTrace.line
  rw [if_pos (infix_mark syslog r)]
  simp only [assign_connTraceLine, csmEventName_disconnect, csmStateName_steady]
  by_cases hevent : r.event = .disconnect
  · have hsame : ∀ id, recordsOf (rs ++ [r]) id = recordsOf rs id := by
      intro id
      rw [recordsOf_concat, if_neg fun h => h.2 hevent, List.append_nil]
    rw [if_pos hevent]
    refine ⟨fun id => ?_, fun id => ?_, fun id x hx => ?_⟩
    · rw [hsame]
      exact hs.seen id
    · rw [hsame]
      exact hs.steady id
    · rw [hsame] at hx
      exact hs.last id x hx
  · rw [if_neg hevent]
    have hone : ∀ id, recordsOf (rs ++ [r]) id =
        recordsOf rs id ++ (if r.connId = id then [r] else []) := by
      intro id
      rw [recordsOf_concat]
      simp only [ne_eq, hevent, not_false_eq_true, and_true]
    refine ⟨fun id => ?_, fun id => ?_, fun id x hx => ?_⟩
    · dsimp only
      rw [hone]
      by_cases hid : r.connId = id
      · subst hid
        simp
      · rw [if_neg hid, List.append_nil,
          Function.update_of_ne fun h => hid (decimal_connId.mp h).symm]
        exact hs.seen id
    · dsimp only
      rw [hone]
      by_cases hid : r.connId = id
      · subst hid
        by_cases hsteady : r.state = .steady
        · simp [hsteady]
        · simp only [if_true, List.mem_append, List.mem_singleton, or_and_right, exists_or,
            exists_eq_left, hsteady, or_false]
          exact hs.steady r.connId
      · rw [if_neg hid, List.append_nil]
        have hother : (if r.state = .steady then
            Function.update s.steady (decimal r.connId.toInt) true else s.steady)
              (decimal id.toInt) = s.steady (decimal id.toInt) := by
          split
          · exact Function.update_of_ne (fun h => hid (decimal_connId.mp h).symm) _ _
          · rfl
        rw [hother]
        exact hs.steady id
    · rw [hone] at hx
      by_cases hid : r.connId = id
      · subst hid
        simp only [if_true, List.getLast?_concat, Option.mem_some_iff] at hx
        subst hx
        exact Function.update_self _ _ _
      · rw [if_neg hid, List.append_nil] at hx
        dsimp only
        rw [Function.update_of_ne fun h => hid (decimal_connId.mp h).symm]
        exact hs.last id x hx

theorem traceInv_log (log : List LogLine) :
    TraceInv (log.filterMap LogLine.record) (subConnTrace (log.flatMap LogLine.text)) := by
  induction log using List.reverseRecOn with
  | nil => exact traceInv_init
  | append_singleton log l ih =>
    rw [List.filterMap_append, List.flatMap_append, subConnTrace, List.foldl_append]
    cases l with
    | traced syslog r =>
      simp only [LogLine.text, LogLine.record, List.flatMap_cons, List.flatMap_nil,
        btConntrace_line, List.map_cons, List.map_nil, List.append_nil, List.foldl_cons,
        List.foldl_nil, List.filterMap_cons, List.filterMap_nil]
      exact traceInv_record ih syslog r
    | other text hdrop =>
      simp only [LogLine.text, LogLine.record, List.flatMap_cons, List.flatMap_nil,
        List.append_nil, List.foldl_cons, List.foldl_nil, List.filterMap_cons, List.filterMap_nil]
      rw [ConnTrace.line, if_neg hdrop]
      exact ih

/-- **The verdict on a log is the verdict on the records**: whatever the logger put before the
lines, whatever else was logged between them, and however the connections interleave. -/
theorem conn_trace_verdict (log : List LogLine) (id : BitVec 32) :
    (subConnTrace (log.flatMap LogLine.text)).verdict (decimal id.toInt) =
      recordVerdict (log.filterMap LogLine.record) id := by
  have hinv := traceInv_log log
  unfold ConnTrace.verdict recordVerdict
  cases hlast : (recordsOf (log.filterMap LogLine.record) id).getLast? with
  | none =>
    have hnil := List.getLast?_eq_none_iff.mp hlast
    rw [if_neg fun h => (hinv.seen id).mp h hnil]
  | some r =>
    have hne : recordsOf (log.filterMap LogLine.record) id ≠ [] := by
      rintro hnil
      rw [hnil] at hlast
      exact absurd hlast.symm (Option.some_ne_none r)
    rw [if_pos ((hinv.seen id).mpr hne), hinv.last id r hlast]
    simp only [hinv.steady id]

end MagicTrackpad
