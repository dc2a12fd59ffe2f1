import MagicTrackpad.Lib.SlotBuffer
import Mathlib.Algebra.Ring.Int.Defs
import Mathlib.Algebra.Ring.Nat

/-!
# The decoded contact set (`src/mavericks_frame.h`)

`TouchFrame` is `MavericksTouchFrame`, the frame both transport readers reduce a report to and the
session, the lifecycle and the encoder consume. Its sixteen slots are a `SlotBuffer`, so
`contact_count ≤ 16` is part of the type, and the slots past the count hold whatever an earlier use
of the same memory left there. `contacts` is the frame as a reader sees it.

The `int` and `int32_t` fields are integers; the places where C arithmetic on them can leave 32
bits say so. Left out are the fields that nothing reads (`type`, `fingerType`, `isValid`,
`supportsPressure`, `maxPressure`, `previousCoordinates` and the per-contact button, each "unread
today" in the header).
-/

namespace MagicTrackpad

open Lib

/-- `uint8_t`. -/
abbrev U8 := BitVec 8

/-- `uint32_t`, `unsigned`. -/
abbrev U32 := BitVec 32

/-- A pointer; 0 is NULL. -/
abbrev Addr := BitVec 64

/-- `uptime_ms` of the shells at a true uptime of `t` milliseconds. -/
def uptimeMs (t : Nat) : U32 := BitVec.ofNat 32 t

@[simp] theorem toNat_uptimeMs (t : Nat) : (uptimeMs t).toNat = t % 2 ^ 32 :=
  BitVec.toNat_ofNat t 32

/-- `MAX_TOUCHES`, `MAVERICKS_MAX_CONTACTS`. -/
abbrev maxTouches : Nat := 16

/-- `touch_state_t`. -/
inductive TouchState
  | tsNone
  | tsStart
  | tsTouching
  | tsEnd
  deriving DecidableEq, Repr

/-- `MavericksTouchCoord`: device units, pressure (the size proxy) and width. -/
structure TouchCoord where
  x : Int
  y : Int
  pressure : Int
  width : Int
  deriving DecidableEq, Repr

/-- `MavericksTouchContact`. -/
structure TouchContact where
  id : U32
  currentCoordinates : TouchCoord
  state : TouchState
  touchMajor : Int
  touchMinor : Int
  orientation : Int
  deriving DecidableEq, Repr

namespace TouchContact

/-- A zeroed contact. -/
def zero : TouchContact := ⟨0, ⟨0, 0, 0, 0⟩, .tsNone, 0, 0, 0⟩

/-- A contact at the origin, for examples and witnesses. -/
def ofId (id : U32) (pressure : Int) : TouchContact := ⟨id, ⟨0, 0, pressure, 0⟩, .tsNone, 0, 0, 0⟩

/-- `id & 0x0f`, the id the lifecycle and the wire know the contact by. -/
def nib (c : TouchContact) : Nat := (c.id &&& 0x0f#32).toNat

/-- `currentCoordinates.pressure`. -/
abbrev pressure (c : TouchContact) : Int := c.currentCoordinates.pressure

/-- The contact with another state. -/
def withState (c : TouchContact) (s : TouchState) : TouchContact := { c with state := s }

theorem nib_lt (c : TouchContact) : c.nib < 16 := by
  rw [nib, BitVec.toNat_and]
  exact Nat.lt_succ_of_le Nat.and_le_right

theorem nib_lt_32 (c : TouchContact) : c.nib < 32 := Nat.lt_of_lt_of_le c.nib_lt (by decide)

@[simp] theorem nib_withState (c : TouchContact) (s : TouchState) : (c.withState s).nib = c.nib :=
  rfl

@[simp] theorem state_withState (c : TouchContact) (s : TouchState) : (c.withState s).state = s :=
  rfl

end TouchContact

/-- `MavericksTouchFrame`. -/
@[ext] structure TouchFrame where
  transducers : SlotBuffer TouchContact maxTouches
  timestamp : BitVec 64
  isPhysicalButtonDown : U8

namespace TouchFrame

/-- `contact_count`. -/
abbrev contactCount (f : TouchFrame) : Nat := f.transducers.count

/-- The contacts a reader of the frame sees. -/
def contacts (f : TouchFrame) : List TouchContact := f.transducers.toList

/-- `MavericksTouchFrame f = {0}`. -/
def zero : TouchFrame := ⟨⟨fun _ => .zero, 0, Nat.zero_le _⟩, 0, 0⟩

/-- A frame that holds the given contacts, for examples and witnesses: the first sixteen of them. -/
def ofContacts (cs : List TouchContact) (button : U8) : TouchFrame :=
  ⟨⟨fun i => cs.getD i .zero, min cs.length maxTouches, Nat.min_le_right _ _⟩, 0, button⟩

@[simp] theorem length_contacts (f : TouchFrame) : f.contacts.length = f.contactCount :=
  SlotBuffer.length_toList _

/-- The contacts really on the pad: `pressure > 0`. -/
def present (f : TouchFrame) : List TouchContact := f.contacts.filter fun c => 0 < c.pressure

end TouchFrame

end MagicTrackpad
