import MagicTrackpad.Lib.Transducer
import Mathlib.Data.List.Induction

/-!
# Statements about the history of a run

A history is the list of inputs so far, oldest first. `Since P Q` says that P held at some input (of
the inputs before it and of it) and Q has held of every input after it. It is the past operator a
specification needs to say "since the last reset" without a look at the machine.

* `since_concat`: one more input, the rule by which such a statement follows a run.
* `Since.mono`: a weaker statement of the same shape.
* `run_history_induction`: the invariant rule for facts that tie the state to the history.

`countSteps P` counts the entries of a history that are related by P to their predecessor, such as
the rising edges of a signal; `countSteps_add` carries a balance of two kinds of steps against two
others from one step to the whole history.
-/

namespace MagicTrackpad.Lib

variable {α σ ι ω : Type}

/-- P held at some input, and Q of every input since. -/
def Since (P : List ι → ι → Prop) (Q : ι → Prop) (es : List ι) : Prop :=
  ∃ before e after, es = before ++ e :: after ∧ P before e ∧ ∀ x ∈ after, Q x

theorem not_since_nil (P : List ι → ι → Prop) (Q : ι → Prop) : ¬ Since P Q [] := by
  rintro ⟨before, e, after, hes, -⟩
  cases before <;> cases hes

/-- **One more input.** -/
theorem since_concat (P : List ι → ι → Prop) (Q : ι → Prop) (es : List ι) (e : ι) :
    Since P Q (es ++ [e]) ↔ P es e ∨ (Since P Q es ∧ Q e) := by
  constructor
  · rintro ⟨before, x, after, hes, hP, hQ⟩
    rcases List.eq_nil_or_concat after with rfl | ⟨after, y, rfl⟩
    · obtain ⟨rfl, hx⟩ := List.append_inj' hes rfl
      obtain rfl := List.singleton_inj.mp hx
      exact .inl hP
    · rw [List.concat_eq_append] at hes hQ
      rw [← List.cons_append, ← List.append_assoc] at hes
      obtain ⟨rfl, hy⟩ := List.append_inj' hes rfl
      obtain rfl := List.singleton_inj.mp hy
      refine .inr ⟨⟨before, x, after, rfl, hP, fun z hz => hQ z ?_⟩, hQ _ ?_⟩
      · exact List.mem_append_left _ hz
      · exact List.mem_append_right _ List.mem_cons_self
  · rintro (hP | ⟨⟨before, x, after, rfl, hP, hQ⟩, he⟩)
    · exact ⟨es, e, [], rfl, hP, fun _ h => absurd h List.not_mem_nil⟩
    · refine ⟨before, x, after ++ [e], by simp, hP, fun z hz => ?_⟩
      rcases List.mem_append.mp hz with hold | hnew
      · exact hQ z hold
      · rw [List.mem_singleton.mp hnew]
        exact he

theorem Since.mono {P P' : List ι → ι → Prop} {Q Q' : ι → Prop} {es : List ι} (h : Since P Q es)
    (hP : ∀ before e, P before e → P' before e) (hQ : ∀ e, Q e → Q' e) : Since P' Q' es := by
  obtain ⟨before, e, after, hes, he, hafter⟩ := h
  exact ⟨before, e, after, hes, hP before e he, fun x hx => hQ x (hafter x hx)⟩

/-- **Invariant rule with history**: what holds at the start, and what one more input preserves,
holds of every history and the state it leads to. -/
theorem Transducer.run_history_induction (m : Transducer σ ι ω) {I : List ι → σ → Prop} {s : σ}
    (hinit : I [] s) (hstep : ∀ es t e, I es t → I (es ++ [e]) (m t e).1) (es : List ι) :
    I es (run m s es).1 := by
  induction es using List.reverseRecOn with
  | nil => exact hinit
  | append_singleton es e ih =>
    rw [run_concat]
    exact hstep es _ e ih

/-! ## Counting steps -/

/-- The number of entries that P relates to the entry before them; `a` is before the first. -/
def countSteps (P : α → α → Bool) : α → List α → Nat
  | _, [] => 0
  | a, b :: bs => (if P a b then 1 else 0) + countSteps P b bs

/-- **A balance of steps**: where each step is of kinds P and Q as often as of kinds R and S, so is
every history. -/
theorem countSteps_add {P Q R S : α → α → Bool}
    (h : ∀ a b, (if P a b then 1 else 0) + (if Q a b then 1 else 0) =
      (if R a b then 1 else 0) + if S a b then 1 else 0) (a : α) (bs : List α) :
    countSteps P a bs + countSteps Q a bs = countSteps R a bs + countSteps S a bs := by
  induction bs generalizing a with
  | nil => rfl
  | cons b bs ih =>
    have hone := h a b
    have hrest := ih b
    simp only [countSteps]
    omega

end MagicTrackpad.Lib
