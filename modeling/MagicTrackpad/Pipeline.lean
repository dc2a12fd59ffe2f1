import MagicTrackpad.Frame

/-!
# The conditioning primitives (`src/mavericks_pipeline.c`)

`settlePassed`, `dropLifted` and `buttonEdge` as the source computes them. `contacts_dropLifted`
says that the in-place compaction keeps exactly the contacts with `pressure > 0`, in order.
-/

namespace MagicTrackpad

open Lib

/-- `MAVERICKS_IDLE_MS`. -/
def idleMs : U32 := 35

/-- `MAVERICKS_SETTLE_MS`. -/
def settleMs : U32 := 0

/-- `mavericks_settle_passed`: an unsigned comparison of two 32-bit clock readings. -/
def settlePassed (nowMs settleUntilMs : U32) : Bool := settleUntilMs ≤ nowMs

/-- `mavericks_drop_lifted`. -/
def dropLifted (frame : TouchFrame) : TouchFrame :=
  { frame with transducers := frame.transducers.compact fun c => 0 < c.pressure }

/-- `button ? 1u : 0u`. -/
def asBit (button : U32) : U32 := if button ≠ 0 then 1 else 0

/-- `mavericks_button_edge`: the mask when it returns 1, with the new `*last_button`. -/
def buttonEdge (button : U32) (nfingers : Nat) (lastButton : U32) : Option U32 × U32 :=
  if asBit button = lastButton then (none, lastButton)
  else (some (if asBit button ≠ 0 then (if nfingers = 2 then 0x2 else 0x1) else 0x0), asBit button)

@[simp] theorem contacts_dropLifted (f : TouchFrame) : (dropLifted f).contacts = f.present :=
  SlotBuffer.toList_compact _ _

/-- The new `*last_button` is the button as 0 or 1, edge or not. -/
theorem buttonEdge_snd (button : U32) (nfingers : Nat) (lastButton : U32) :
    (buttonEdge button nfingers lastButton).2 = asBit button := by
  unfold buttonEdge
  by_cases h : asBit button = lastButton
  · rw [if_pos h, h]
  · rw [if_neg h]

/-- No edge: the button, as 0 or 1, is `*last_button` already. -/
theorem buttonEdge_fst_of_eq {button : U32} {lastButton : U32} (nfingers : Nat)
    (h : asBit button = lastButton) : (buttonEdge button nfingers lastButton).1 = none := by
  unfold buttonEdge
  rw [if_pos h]

/-- An edge: a release posts 0, a press the mask for the finger count. -/
theorem buttonEdge_fst_of_ne {button : U32} {lastButton : U32} (nfingers : Nat)
    (h : asBit button ≠ lastButton) :
    (buttonEdge button nfingers lastButton).1 =
      some (if button = 0 then 0x0 else if nfingers = 2 then 0x2 else 0x1) := by
  unfold buttonEdge
  rw [if_neg h]
  by_cases hb : button = 0 <;> simp [hb, asBit]

end MagicTrackpad
