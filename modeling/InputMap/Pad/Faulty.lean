import InputMap.Pad

/-! # A pad with faults

Any pad can be made to fail at chosen readings or at the start of each tick.  A failing call does
not reach the pad behind it. -/

namespace InputMap

/-- A pad in front of which chosen calls fail. -/
structure FaultyPad (σ : Type) where
  pad : σ
  /-- The fault of a reading, for a slot and a signal. -/
  readFault? : Nat → Signal → Option Fault
  /-- The fault at the start of each tick. -/
  tickFault? : Option Fault

namespace FaultyPad

variable {σ : Type}

/-- The pad without faults. -/
def of (pad : σ) : FaultyPad σ := ⟨pad, fun _ _ => none, none⟩

/-- Changes the pad behind the faults. -/
def modify (p : FaultyPad σ) (f : σ → σ) : FaultyPad σ := { p with pad := f p.pad }

/-- Sets or removes the fault of one reading. -/
def setReadFault (p : FaultyPad σ) (slot : Nat) (s : Signal) (fault? : Option Fault) :
    FaultyPad σ :=
  { p with readFault? := fun i t => if i = slot ∧ t = s then fault? else p.readFault? i t }

/-- Sets or removes the fault at the start of each tick. -/
def setTickFault (p : FaultyPad σ) (fault? : Option Fault) : FaultyPad σ :=
  { p with tickFault? := fault? }

instance [Pad σ] : Pad (FaultyPad σ) where
  slotCount p := Pad.slotCount p.pad
  signals p := Pad.signals p.pad
  beginTick p :=
    match p.tickFault? with
    | some fault => (.error fault, p)
    | none =>
      let (result, pad) := Pad.beginTick p.pad
      (result, { p with pad })
  read p slot s :=
    match p.readFault? slot s with
    | some fault => (.error fault, p)
    | none =>
      let (answer, pad) := Pad.read p.pad slot s
      (answer, { p with pad })

end FaultyPad

end InputMap
