import InputMap.Pad

/-! # A pad in memory

The readings of a simulated pad are set by its owner.  It counts the ticks and the readings that
it was asked for. -/

namespace InputMap

/-- What the owner of a simulated pad has set for one slot. -/
structure SimulatedSlot where
  /-- The reading that was set for a signal; at rest where none was. -/
  reading? : (s : Signal) → Option s.category.Reading
  connected : Bool

/-- The reading of a signal at rest. -/
def Category.restReading : (c : Category) → c.Reading
  | .digital => false
  | .analog1 => (0.0 : Float32)
  | .analog2 => ((0.0, 0.0) : Float32 × Float32)

@[simp] theorem Value.ofReading_restReading (c : Category) :
    Value.ofReading c c.restReading = c.neutral := by
  cases c <;> rfl

namespace SimulatedSlot

/-- A connected slot at rest. -/
def initial : SimulatedSlot := ⟨fun _ => none, true⟩

/-- The slot with the reading of one signal set. -/
def set (slot : SimulatedSlot) (s : Signal) (r : s.category.Reading) : SimulatedSlot :=
  { slot with reading? := fun t => if h : s = t then some (h ▸ r) else slot.reading? t }

/-- The reading of a signal, set or at rest. -/
def reading (slot : SimulatedSlot) (s : Signal) : s.category.Reading :=
  (slot.reading? s).getD s.category.restReading

@[simp] theorem reading_set_self (slot : SimulatedSlot) (s : Signal) (r : s.category.Reading) :
    (slot.set s r).reading s = r := by
  simp [reading, set]

theorem reading_set_of_ne (slot : SimulatedSlot) {s t : Signal} (r : s.category.Reading)
    (h : s ≠ t) : (slot.set s r).reading t = slot.reading t := by
  simp [reading, set, h]

end SimulatedSlot

/-- A pad whose readings are set by its owner. -/
structure SimulatedPad where
  slots : List SimulatedSlot
  available : SignalSet
  /-- The number of ticks that were begun. -/
  ticks : Nat
  /-- The number of readings that were asked for. -/
  polls : Nat

namespace SimulatedPad

/-- A pad with `slotCount` connected slots at rest. -/
def create (slotCount : Nat) (available : SignalSet) : SimulatedPad :=
  ⟨List.replicate slotCount .initial, available, 0, 0⟩

/-- The pad with one slot changed; a slot that it does not have is ignored. -/
def modifySlot (pad : SimulatedPad) (slot : Nat) (f : SimulatedSlot → SimulatedSlot) :
    SimulatedPad :=
  { pad with slots := pad.slots.modify slot f }

/-- Sets the reading of a signal of a slot. -/
def set (pad : SimulatedPad) (slot : Nat) (s : Signal) (r : s.category.Reading) : SimulatedPad :=
  pad.modifySlot slot (·.set s r)

/-- Connects or disconnects a slot; a disconnected slot fails every reading. -/
def setConnected (pad : SimulatedPad) (slot : Nat) (connected : Bool) : SimulatedPad :=
  pad.modifySlot slot fun state => { state with connected }

/-- What a slot answers for a signal. -/
def answer (pad : SimulatedPad) (slot : Nat) (s : Signal) : Answer s :=
  match pad.slots[slot]? with
  | some state => if state.connected then .ok (state.reading s) else .error (.disconnected slot)
  | none => .error (.disconnected slot)

instance : Pad SimulatedPad where
  slotCount pad := pad.slots.length
  signals pad := pad.available
  beginTick pad := (.ok (), { pad with ticks := pad.ticks + 1 })
  read pad slot s := (pad.answer slot s, { pad with polls := pad.polls + 1 })

end SimulatedPad

end InputMap
