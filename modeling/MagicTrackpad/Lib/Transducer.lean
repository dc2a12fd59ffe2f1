import Mathlib.Data.List.Forall2

/-!
# Transducers: machines that answer each input with a list of outputs

A `Transducer σ ι ω` takes a state and an input to the next state and the outputs of that step, in
order. `run` feeds it a list of inputs and concatenates the outputs: the log of the run.

Rules, for runs of any length over inputs of any kind:

* `run_induction`: what one step preserves about the state and the log so far holds of every run.
* `run_state_induction`: the same for a fact about the state alone.
* `Takes.invariant`: the same at every step a run takes.
* `along_of_invariant`: the same where every step of the run meets a condition on the state before
  it (`Along`).
* `along_iff`: and it meets P throughout only then, where a step that misses C misses P.
* `along_and`: a run meets two conditions at every step iff it meets each of them.
* `run_along`: and such a run keeps what each such step keeps.
* `run_sim`: two machines that a relation ties together step by step stay tied, and their logs
  correspond output for output.
* `run_refines`: a machine whose outputs, as far as they are read, are those of another one at
  every step that meets a condition has the other one's log, where the run meets it.
* `run_unwinding`: two states of one machine that no single input tells apart have equal logs.
-/

namespace MagicTrackpad.Lib

/-- A deterministic machine with outputs. -/
abbrev Transducer (σ ι ω : Type) := σ → ι → σ × List ω

namespace Transducer

variable {σ τ ι κ ω ψ : Type}

/-- Feed the inputs in order; the second component is the log. -/
def run (m : Transducer σ ι ω) : σ → List ι → σ × List ω
  | s, [] => (s, [])
  | s, i :: is => ((run m (m s i).1 is).1, (m s i).2 ++ (run m (m s i).1 is).2)

/-- A run of two parts: the second goes on from where the first leads. -/
theorem run_append (m : Transducer σ ι ω) (s : σ) (is js : List ι) :
    run m s (is ++ js) =
      ((run m (run m s is).1 js).1, (run m s is).2 ++ (run m (run m s is).1 js).2) := by
  induction is generalizing s with
  | nil => rfl
  | cons i is ih => simp [run, ih]

/-- The last input of a run is a step from where the others lead. -/
theorem run_concat (m : Transducer σ ι ω) (s : σ) (is : List ι) (i : ι) :
    run m s (is ++ [i]) =
      ((m (run m s is).1 i).1, (run m s is).2 ++ (m (run m s is).1 i).2) := by
  rw [run_append]
  simp [run]

/-- **Invariant rule**: what every allowed step preserves about the state and the log so far holds
after every run of A inputs. -/
theorem run_induction (m : Transducer σ ι ω) {A : ι → Prop} {I : σ → List ω → Prop} {s : σ}
    (hinit : I s [])
    (hstep : ∀ t log i, A i → I t log → I (m t i).1 (log ++ (m t i).2))
    (is : List ι) (his : ∀ i ∈ is, A i) : I (run m s is).1 (run m s is).2 := by
  suffices h : ∀ (is : List ι) (t : σ) (log : List ω), (∀ i ∈ is, A i) → I t log →
      I (run m t is).1 (log ++ (run m t is).2) from h is s [] his hinit
  intro is
  induction is with
  | nil =>
    intro t log _ ht
    simpa [run] using ht
  | cons i is ih =>
    intro t log hall ht
    have hone := hstep t log i (hall i List.mem_cons_self) ht
    have hrest := ih (m t i).1 (log ++ (m t i).2)
      (fun j hj => hall j (List.mem_cons_of_mem i hj)) hone
    simpa only [run, List.append_assoc] using hrest

/-- The invariant rule for a fact about the state alone. -/
theorem run_state_induction (m : Transducer σ ι ω) {A : ι → Prop} {I : σ → Prop} {s : σ}
    (hinit : I s) (hstep : ∀ t i, A i → I t → I (m t i).1)
    (is : List ι) (his : ∀ i ∈ is, A i) : I (run m s is).1 :=
  run_induction m (I := fun t _ => I t) hinit (fun t _ i hi ht => hstep t i hi ht) is his

/-- The run from `s` over `is` takes the input `i` in the state `t`. -/
def Takes (m : Transducer σ ι ω) (s : σ) (is : List ι) (t : σ) (i : ι) : Prop :=
  ∃ before after, is = before ++ i :: after ∧ t = (run m s before).1

/-- The invariant rule at any step of a run. -/
theorem Takes.invariant {m : Transducer σ ι ω} {A : ι → Prop} {I : σ → Prop} {s t : σ}
    {is : List ι} {i : ι} (h : Takes m s is t i) (hinit : I s)
    (hstep : ∀ t i, A i → I t → I (m t i).1) (his : ∀ j ∈ is, A j) : I t ∧ A i := by
  obtain ⟨before, after, rfl, rfl⟩ := h
  refine ⟨run_state_induction m hinit hstep before fun j hj => his j ?_, his i ?_⟩
  · exact List.mem_append_left _ hj
  · exact List.mem_append_right _ List.mem_cons_self

/-- Every step of the run from `s` meets `P`, a condition on the state before it and the input. -/
def Along (m : Transducer σ ι ω) (P : σ → ι → Prop) : σ → List ι → Prop
  | _, [] => True
  | s, i :: is => P s i ∧ Along m P (m s i).1 is

/-- A run of two parts meets P iff each part does. -/
theorem along_append (m : Transducer σ ι ω) (P : σ → ι → Prop) (s : σ) (is js : List ι) :
    Along m P s (is ++ js) ↔ Along m P s is ∧ Along m P (run m s is).1 js := by
  induction is generalizing s with
  | nil => exact (and_iff_right trivial).symm
  | cons i is ih =>
    rw [List.cons_append, Along, Along, ih, and_assoc]
    rfl

/-- Every run meets the condition that is always met. -/
theorem along_true {m : Transducer σ ι ω} {s : σ} (is : List ι) :
    Along m (fun _ _ => True) s is := by
  induction is generalizing s with
  | nil => trivial
  | cons i is ih => exact ⟨trivial, ih⟩

/-- A run meets two conditions iff it meets each. -/
theorem along_and {m : Transducer σ ι ω} {P Q : σ → ι → Prop} {s : σ} {is : List ι} :
    Along m (fun t i => P t i ∧ Q t i) s is ↔ Along m P s is ∧ Along m Q s is := by
  induction is generalizing s with
  | nil => exact (and_iff_left trivial).symm
  | cons i is ih => rw [Along, Along, Along, ih, and_and_and_comm]

/-- **Guarded invariant rule**: where every step meets C, and a step that meets it keeps I and meets
P, every step of the run meets P. -/
theorem along_of_invariant {m : Transducer σ ι ω} {C P : σ → ι → Prop} {I : σ → Prop}
    (hstep : ∀ t i, I t → C t i → I (m t i).1 ∧ P t i) {s : σ} (hinit : I s) {is : List ι}
    (his : Along m C s is) : Along m P s is := by
  induction is generalizing s with
  | nil => trivial
  | cons i is ih =>
    obtain ⟨hkeep, hP⟩ := hstep s i hinit his.1
    exact ⟨hP, ih hkeep his.2⟩

/-- Where every step meets C, and a step that meets it keeps I, the run keeps I. -/
theorem run_along {m : Transducer σ ι ω} {C : σ → ι → Prop} {I : σ → Prop}
    (hstep : ∀ t i, I t → C t i → I (m t i).1) {s : σ} (hinit : I s) {is : List ι}
    (his : Along m C s is) : I (run m s is).1 := by
  induction is generalizing s with
  | nil => exact hinit
  | cons i is ih => exact ih (hstep s i hinit his.1) his.2

/-- **Exact conditions**: where, under I, a step meets P iff it meets C, and a step that meets C
keeps I, a run meets P throughout iff it meets C throughout. -/
theorem along_iff {m : Transducer σ ι ω} {C P : σ → ι → Prop} {I : σ → Prop}
    (hstep : ∀ t i, I t → (P t i ↔ C t i) ∧ (C t i → I (m t i).1)) {s : σ} (hinit : I s)
    (is : List ι) : Along m P s is ↔ Along m C s is := by
  induction is generalizing s with
  | nil => exact Iff.rfl
  | cons i is ih =>
    obtain ⟨hiff, hkeep⟩ := hstep s i hinit
    constructor
    · rintro ⟨hP, hrest⟩
      have hC := hiff.mp hP
      exact ⟨hC, (ih (hkeep hC)).mp hrest⟩
    · rintro ⟨hC, hrest⟩
      exact ⟨hiff.mpr hC, (ih (hkeep hC)).mpr hrest⟩

/-- **Simulation rule**: related inputs from related states give related logs. -/
theorem run_sim {m : Transducer σ ι ω} {n : Transducer τ κ ψ} {R : σ → τ → Prop} {In : ι → κ → Prop}
    {Out : ω → ψ → Prop}
    (hstep : ∀ s t i k, R s t → In i k →
      R (m s i).1 (n t k).1 ∧ List.Forall₂ Out (m s i).2 (n t k).2)
    {s : σ} {t : τ} (hst : R s t) {is : List ι} {ks : List κ} (hin : List.Forall₂ In is ks) :
    R (run m s is).1 (run n t ks).1 ∧ List.Forall₂ Out (run m s is).2 (run n t ks).2 := by
  induction hin generalizing s t with
  | nil => exact ⟨hst, List.Forall₂.nil⟩
  | cons hik _ ih =>
    obtain ⟨hone, hout⟩ := hstep s t _ _ hst hik
    obtain ⟨hR, hrest⟩ := ih hone
    exact ⟨hR, List.rel_append hout hrest⟩

/-- **Refinement rule**: where related states and an input that meets C give related states, and
what is read of the outputs of `m` is the outputs of `n`, so do runs that meet C throughout. -/
theorem run_refines {m : Transducer σ ι ω} {n : Transducer τ ι ψ} {R : σ → τ → Prop}
    {C : τ → ι → Prop} {read : ω → Option ψ}
    (hstep : ∀ s t i, R s t → C t i →
      R (m s i).1 (n t i).1 ∧ (m s i).2.filterMap read = (n t i).2)
    {s : σ} {t : τ} (hst : R s t) {is : List ι} (his : Along n C t is) :
    R (run m s is).1 (run n t is).1 ∧ (run m s is).2.filterMap read = (run n t is).2 := by
  induction is generalizing s t with
  | nil => exact ⟨hst, rfl⟩
  | cons i is ih =>
    obtain ⟨hone, hout⟩ := hstep s t i hst his.1
    obtain ⟨hR, hrest⟩ := ih hone his.2
    refine ⟨hR, ?_⟩
    rw [run, run, List.filterMap_append, hout, hrest]

/-- **Unwinding rule**: where one input keeps R and brings the same outputs from both of two related
states, related states have equal logs. -/
theorem run_unwinding {m : Transducer σ ι ω} {R : σ → σ → Prop}
    (hstep : ∀ s t i, R s t → R (m s i).1 (m t i).1 ∧ (m s i).2 = (m t i).2)
    {s t : σ} (hst : R s t) (is : List ι) : (run m s is).2 = (run m t is).2 := by
  have hin : List.Forall₂ Eq is is := List.forall₂_same.mpr fun _ _ => rfl
  have hboth : ∀ s t i k, R s t → i = k →
      R (m s i).1 (m t k).1 ∧ List.Forall₂ Eq (m s i).2 (m t k).2 := by
    rintro s t i _ hst rfl
    obtain ⟨hR, hout⟩ := hstep s t i hst
    refine ⟨hR, ?_⟩
    rw [hout, List.forall₂_same]
    exact fun _ _ => rfl
  have hlogs := (run_sim hboth hst hin).2
  rwa [List.forall₂_eq_eq_eq] at hlogs

end Transducer

end MagicTrackpad.Lib
