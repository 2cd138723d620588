import InputMap.Pad.Faulty
import InputMap.Pad.Simulated
import InputMap.Proofs.Poll.Answers

/-!
# Steady pads

A steady pad answers for a slot from what was set for that slot alone, and being asked does not
change what was set: neither readings nor the start of a tick do.  A simulated pad is steady
although it counts its calls, and so is any steady pad with faults in front of it.

## Key results

- `Poll.answer_eq`: the order in which a poll asks does not matter
- `SteadyPad.setting_pad_run`: a poll changes no setting
-/

namespace InputMap

/-- A pad that answers for each slot from a setting of its own. -/
class SteadyPad (σ : Type) [Pad σ] where
  /-- What can be set for one slot. -/
  Setting : Type
  /-- What is set for a slot. -/
  setting : σ → Nat → Setting
  /-- What a slot with a setting answers for a signal. -/
  answerOf : Setting → (slot : Nat) → (s : Signal) → Answer s
  read_eq (pad : σ) (slot : Nat) (s : Signal) :
    (Pad.read pad slot s).1 = answerOf (setting pad slot) slot s
  setting_read (pad : σ) (slot : Nat) (s : Signal) :
    setting (Pad.read pad slot s).2 = setting pad
  setting_beginTick (pad : σ) : setting (Pad.beginTick pad).2 = setting pad

namespace SimulatedPad

/-- What a slot answers, if the pad has it. -/
def answerOf (state? : Option SimulatedSlot) (slot : Nat) (s : Signal) : Answer s :=
  match state? with
  | some state => if state.connected then .ok (state.reading s) else .error (.disconnected slot)
  | none => .error (.disconnected slot)

instance : SteadyPad SimulatedPad where
  Setting := Option SimulatedSlot
  setting pad slot := pad.slots[slot]?
  answerOf := answerOf
  read_eq _ _ _ := rfl
  setting_read _ _ _ := rfl
  setting_beginTick _ := rfl

end SimulatedPad

namespace FaultyPad

variable {σ : Type} [Pad σ] [SteadyPad σ]

/-- What is set for a slot: its faults, and what is set in the pad behind them. -/
def setting (p : FaultyPad σ) (slot : Nat) : (Signal → Option Fault) × SteadyPad.Setting σ :=
  (p.readFault? slot, SteadyPad.setting p.pad slot)

/-- The fault of a reading if there is one, else what the pad behind answers. -/
def answerOf (setting : (Signal → Option Fault) × SteadyPad.Setting σ) (slot : Nat) (s : Signal) :
    Answer s :=
  match setting.1 s with
  | some fault => .error fault
  | none => SteadyPad.answerOf setting.2 slot s

/-- Changing the pad behind the faults, but no setting of it. -/
theorem setting_congr {p : FaultyPad σ} {pad : σ}
    (hpad : SteadyPad.setting pad = SteadyPad.setting p.pad) :
    setting { p with pad } = setting p := by
  funext slot
  rw [setting, setting, hpad]

instance : SteadyPad (FaultyPad σ) where
  Setting := (Signal → Option Fault) × SteadyPad.Setting σ
  setting := setting
  answerOf := answerOf
  read_eq p slot s := by
    simp only [Pad.read, answerOf, setting]
    cases p.readFault? slot s with
    | none => exact SteadyPad.read_eq p.pad slot s
    | some fault => rfl
  setting_read p slot s := by
    simp only [Pad.read]
    cases p.readFault? slot s with
    | none => exact setting_congr (SteadyPad.setting_read p.pad slot s)
    | some fault => rfl
  setting_beginTick p := by
    simp only [Pad.beginTick]
    cases p.tickFault? with
    | none => exact setting_congr (SteadyPad.setting_beginTick p.pad)
    | some fault => rfl

end FaultyPad

variable {σ : Type} [Pad σ] [SteadyPad σ]

namespace SteadyPad

/-- What a pad answers for a signal of a slot. -/
def answer (pad : σ) (slot : Nat) (s : Signal) : Answer s := answerOf (setting pad slot) slot s

/-- Reading leaves the setting of a steady pad. -/
theorem setting_afterReads (pad : σ) (slot : Nat) (list : List Signal) :
    setting (Pad.afterReads pad slot list) = setting pad := by
  induction list generalizing pad with
  | nil => rfl
  | cons s rest ih => rw [Pad.afterReads, List.foldl_cons, ← Pad.afterReads, ih, setting_read]

/-- A poll changes no setting, of its own slot or of any other. -/
theorem setting_pad_run (settings : Settings) (signals : SignalSet) (slot : Nat) (pad : σ) :
    setting (Poll.run settings signals slot pad).pad = setting pad := by
  rw [Poll.pad_run, setting_afterReads]

end SteadyPad

/-- What a poll is answered for a signal is what the pad answers in any case. -/
theorem Poll.answer_eq (signals : SignalSet) (slot : Nat) (pad : σ) (s : Signal) :
    answer signals slot pad s = SteadyPad.answer pad slot s := by
  rw [answer, SteadyPad.read_eq, SteadyPad.setting_afterReads, SteadyPad.answer]

end InputMap
