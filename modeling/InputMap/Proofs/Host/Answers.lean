import InputMap.Proofs.Host.Tick
import InputMap.Proofs.Pad.Steady

/-!
# The answers of a tick

A tick polls one slot after the other.  The poll of a slot meets the pad as the polls of the slots
before it have left it, and what the pad answers then is all that the readings of the slot depend
on.

## Key results

- `Host.reading?_of_getElem?_readings`: the reading of a signal is the cleaned answer
- `Host.readings_congr`: the same answers give the same readings
- `Host.answer_eq`: in a tick a steady pad answers what it would have answered before
-/

namespace InputMap

/-- Snapshots with the same entries are the same. -/
@[ext] theorem Snapshot.ext {r r' : Snapshot} (h : ∀ s, r.reading? s = r'.reading? s) : r = r' := by
  cases r
  cases r'
  congr
  exact funext h

namespace Host

variable {σ L : Type} [Pad σ] {h : Host σ L} {slot : Nat}

/-- The pad when the poll of a slot begins: the tick has begun, and the slots before have been
    polled. -/
def padBefore (h : Host σ L) (slot : Nat) : σ :=
  (sweep h.settings h.signals slot (Pad.beginTick h.pad).2).pad

/-- What the pad answers for a signal of a slot in the next tick. -/
def answer (h : Host σ L) (slot : Nat) (s : Signal) : Answer s :=
  Poll.answer h.signals slot (h.padBefore slot) s

/-- A sweep polls each slot once, with the pad as the slots before have left it. -/
theorem getElem?_snapshots_sweep {settings : Settings} {signals : SignalSet} {slots : Nat} {pad : σ}
    (hslot : slot < slots) :
    (sweep settings signals slots pad).snapshots[slot]? =
      some (Poll.run settings signals slot (sweep settings signals slot pad).pad).snapshot := by
  induction slots with
  | zero => omega
  | succ slots ih =>
    have hlength := length_snapshots_sweep settings signals slots pad
    rw [sweep_succ, sweepSlot]
    -- the last slot is polled on the pad that the slots before it leave
    by_cases hlast : slot = slots
    · subst hlast
      rw [List.getElem?_append_right (Nat.le_of_eq hlength), hlength, Nat.sub_self,
        List.getElem?_cons_zero]
    · have hlt : slot < slots := by omega
      rw [List.getElem?_append_left (by omega), ih hlt]

/-- The readings of a slot are those of a poll of the pad as the slots before it have left it. -/
theorem getElem?_readings (hslot : slot < h.players.length) :
    h.readings[slot]? =
      some (Poll.run h.settings h.signals slot (h.padBefore slot)).snapshot :=
  getElem?_snapshots_sweep hslot

/-- What is read of a signal in a tick is the cleaned answer for it, and nothing is read of a signal
    that the host does not have. -/
theorem reading?_of_getElem?_readings {r : Snapshot} (hr : h.readings[slot]? = some r)
    (s : Signal) :
    r.reading? s =
      if s ∈ h.signals then some (cleanAnswer h.settings.limit s (h.answer slot s)) else none := by
  have hslot : slot < h.players.length := by
    obtain ⟨hlt, -⟩ := List.getElem?_eq_some_iff.1 hr
    rwa [length_readings] at hlt
  rw [getElem?_readings hslot, Option.some.injEq] at hr
  rw [← hr, Poll.reading?_run, answer]

/-- A reading is the answer of the pad after cleaning. -/
theorem get_of_getElem?_readings {r : Snapshot} (hr : h.readings[slot]? = some r) {s : Signal}
    (hs : s ∈ h.signals) : r.get s = cleanAnswer h.settings.limit s (h.answer slot s) := by
  rw [Snapshot.get, reading?_of_getElem?_readings hr, if_pos hs, Option.getD_some]

/-- Two ticks of hosts with the same settings, signals and number of players: the same answers give
    the same readings. -/
theorem readings_congr {h' : Host σ L} (hsettings : h'.settings = h.settings)
    (hsignals : h'.signals = h.signals) (hlength : h'.players.length = h.players.length)
    (hanswers : ∀ slot < h.players.length, ∀ s ∈ h.signals, h'.answer slot s = h.answer slot s) :
    h'.readings = h.readings := by
  refine List.ext_getElem (by rw [length_readings, length_readings, hlength])
    fun slot hslot' hslot => ?_
  have hlt : slot < h.players.length := by rwa [length_readings] at hslot
  ext s : 1
  rw [reading?_of_getElem?_readings (List.getElem?_eq_getElem hslot'),
    reading?_of_getElem?_readings (List.getElem?_eq_getElem hslot), hsettings, hsignals]
  by_cases hs : s ∈ h.signals
  · rw [if_pos hs, if_pos hs, hanswers slot hlt s hs]
  · rw [if_neg hs, if_neg hs]

/-! ## Steady pads -/

variable [SteadyPad σ]

/-- A sweep over a steady pad changes no setting. -/
theorem setting_pad_sweep (settings : Settings) (signals : SignalSet) (slots : Nat) (pad : σ) :
    SteadyPad.setting (sweep settings signals slots pad).pad = SteadyPad.setting pad := by
  induction slots with
  | zero => rfl
  | succ slots ih => rw [sweep_succ, sweepSlot, SteadyPad.setting_pad_run, ih]

/-- Neither the start of the tick nor the polls before come into what a steady pad answers. -/
theorem answer_eq (h : Host σ L) (slot : Nat) (s : Signal) :
    h.answer slot s = SteadyPad.answer h.pad slot s := by
  rw [answer, Poll.answer_eq, padBefore, SteadyPad.answer, setting_pad_sweep,
    SteadyPad.setting_beginTick, SteadyPad.answer]

/-- A tick leaves the answers of a steady pad as they are. -/
theorem answer_update (h : Host σ L) (slot : Nat) (s : Signal) :
    h.update.host.answer slot s = h.answer slot s := by
  have hpad : h.update.host.pad =
      (sweep h.settings h.signals h.players.length (Pad.beginTick h.pad).2).pad := rfl
  rw [answer_eq, answer_eq, hpad, SteadyPad.answer, setting_pad_sweep,
    SteadyPad.setting_beginTick, SteadyPad.answer]

end Host

end InputMap
