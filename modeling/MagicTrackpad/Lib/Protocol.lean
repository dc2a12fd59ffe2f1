import MagicTrackpad.Lib.Transducer

/-!
# Logs that obey a protocol

A `Protocol` says what each operation makes of the things held, and answers `none` where the
operation is against the rules. `obeys` runs a log through it.

* `obeys_append`, `obeys_append_of`: a log of two parts.
* `obeys_run`: a machine whose every step obeys the rules, from states that fit what is held, obeys
  them over a whole run, and its state fits what is held in the end.
* `obeys_run_iff`: and, of the runs whose steps all meet A, it does so only on those whose steps all
  meet C, where a step that misses C breaks a rule.
-/

namespace MagicTrackpad.Lib

/-- What an operation makes of the things held; `none` where it is against the rules. -/
abbrev Protocol (ρ ω : Type) := ρ → ω → Option ρ

namespace Protocol

variable {ρ ω σ ι : Type}

/-- Run a log through the rules. -/
def obeys (p : Protocol ρ ω) : ρ → List ω → Option ρ
  | r, [] => some r
  | r, w :: ws => (p r w).bind fun r' => obeys p r' ws

theorem obeys_append (p : Protocol ρ ω) (r : ρ) (ws vs : List ω) :
    obeys p r (ws ++ vs) = (obeys p r ws).bind fun r' => obeys p r' vs := by
  induction ws generalizing r with
  | nil => rfl
  | cons w ws ih =>
    rw [List.cons_append, obeys, obeys, Option.bind_assoc]
    exact Option.bind_congr fun r' _ => ih r'

theorem obeys_append_of {p : Protocol ρ ω} {r r' : ρ} {ws : List ω} (h : obeys p r ws = some r')
    (vs : List ω) : obeys p r (ws ++ vs) = obeys p r' vs := by
  rw [obeys_append, h]
  rfl

/-- **A machine that obeys at every step obeys throughout.** -/
theorem obeys_run {p : Protocol ρ ω} {m : Transducer σ ι ω} {C : σ → ι → Prop} {R : σ → ρ → Prop}
    (hstep : ∀ s r i, R s r → C s i → ∃ r', obeys p r (m s i).2 = some r' ∧ R (m s i).1 r')
    {s : σ} {r : ρ} (hR : R s r) {is : List ι} (his : Transducer.Along m C s is) :
    ∃ r', obeys p r (Transducer.run m s is).2 = some r' ∧ R (Transducer.run m s is).1 r' := by
  induction is generalizing s r with
  | nil => exact ⟨r, rfl, hR⟩
  | cons i is ih =>
    obtain ⟨r₁, hone, hR₁⟩ := hstep s r i hR his.1
    obtain ⟨r₂, hrest, hR₂⟩ := ih hR₁ his.2
    refine ⟨r₂, ?_, hR₂⟩
    rw [Transducer.run, obeys_append, hone]
    exact hrest

/-- **And only where the steps meet C**, if a step that misses C breaks a rule; A is what the steps
may be relied on to meet. -/
theorem obeys_run_iff {p : Protocol ρ ω} {m : Transducer σ ι ω} {A C : σ → ι → Prop}
    {R : σ → ρ → Prop}
    (hstep : ∀ s r i, R s r → A s i → C s i →
      ∃ r', obeys p r (m s i).2 = some r' ∧ R (m s i).1 r')
    (hbad : ∀ s r i, R s r → A s i → ¬C s i → obeys p r (m s i).2 = none)
    {s : σ} {r : ρ} (hR : R s r) {is : List ι} (his : Transducer.Along m A s is) :
    (∃ r', obeys p r (Transducer.run m s is).2 = some r' ∧ R (Transducer.run m s is).1 r') ↔
      Transducer.Along m C s is := by
  constructor
  · intro h
    induction is generalizing s r with
    | nil => trivial
    | cons i is ih =>
      rw [Transducer.run, obeys_append] at h
      obtain ⟨r₂, hlog, hR₂⟩ := h
      by_cases hC : C s i
      · obtain ⟨r₁, hone, hR₁⟩ := hstep s r i hR his.1 hC
        rw [hone] at hlog
        exact ⟨hC, ih hR₁ his.2 ⟨r₂, hlog, hR₂⟩⟩
      · rw [hbad s r i hR his.1 hC] at hlog
        exact absurd hlog.symm (Option.some_ne_none r₂)
  · exact fun hC => obeys_run (fun s r i hR h => hstep s r i hR h.1 h.2) hR
      (Transducer.along_and.mpr ⟨his, hC⟩)

end Protocol

end MagicTrackpad.Lib
