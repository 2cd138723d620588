import InputMap.SignalSet

/-! # Pads

A pad answers for the readings of each player slot.  Once per tick it is told that a tick begins,
and then it is asked for one signal after the other.  An answer may fail, and any call may change
the pad; nothing else is known of it here. -/

namespace InputMap

/-- Why a pad gave no answer. -/
inductive Fault where
  | disconnected (slot : Nat)
  | unsupported (s : Signal)
  | readFailed (text : String)
deriving DecidableEq, Repr

/-- The message of a fault. -/
def Fault.message : Fault → String
  | disconnected slot => s!"No gamepad connected in slot {slot}"
  | unsupported s => s!"Signal {s.name} is not supported by this backend"
  | readFailed text => s!"Failed to read input: {text}"

/-- What a reading of one signal can come to. -/
abbrev Answer (s : Signal) := Except Fault s.category.Reading

/-- A source of readings with states in `σ`. -/
class Pad (σ : Type) where
  /-- The number of player slots. -/
  slotCount : σ → Nat
  /-- The signals that the pad can answer for. -/
  signals : σ → SignalSet
  /-- The start of a tick, before any reading. -/
  beginTick : σ → Except Fault Unit × σ
  /-- The reading of a signal of a slot. -/
  read : σ → (slot : Nat) → (s : Signal) → Answer s × σ

end InputMap
