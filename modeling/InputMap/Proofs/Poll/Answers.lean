import InputMap.Poll

/-!
# The answers of a poll

A poll asks for one signal after the other, and each call may change the pad.  So what the pad
answers for a signal depends on the signals before it.  The entry of a signal comes from that one
answer alone.

## Key results

- `Poll.reading?_run`: the entries of a poll
- `Poll.pad_run`: the pad after a poll
-/

namespace InputMap

variable {σ : Type} [Pad σ]

/-- The pad when the signals of a list have been read of a slot. -/
def Pad.afterReads (pad : σ) (slot : Nat) (list : List Signal) : σ :=
  list.foldl (fun pad s => (Pad.read pad slot s).2) pad

namespace Poll

/-- What the pad answers for a signal when a slot is polled: the signals before it have been
    read. -/
def answer (signals : SignalSet) (slot : Nat) (pad : σ) (s : Signal) : Answer s :=
  (Pad.read (Pad.afterReads pad slot (signals.toList.takeWhile fun t => t != s)) slot s).1

variable {list : List Signal}

/-- Reading a list of signals, each of them once. -/
theorem reading?_foldl_readSignal (limit : Float32) (slot : Nat) (hnodup : list.Nodup)
    (poll : Poll σ) (s : Signal) :
    (list.foldl (readSignal limit slot) poll).snapshot.reading? s =
      if s ∈ list then
        some (cleanAnswer limit s
          (Pad.read (Pad.afterReads poll.pad slot (list.takeWhile fun t => t != s)) slot s).1)
      else poll.snapshot.reading? s := by
  -- on the list; the poll grows by one entry, and the pad moves on by one call
  induction list generalizing poll with
  | nil => rfl
  | cons t rest ih =>
    obtain ⟨hfresh, hrest⟩ := List.nodup_cons.1 hnodup
    rw [List.foldl_cons, ih hrest]
    by_cases heq : t = s
    · subst heq
      rw [if_neg hfresh, if_pos List.mem_cons_self, List.takeWhile_cons_of_neg (by simp),
        readSignal_snapshot, Snapshot.reading?_insert, if_pos rfl]
      rfl
    · have hmem : s ∈ t :: rest ↔ s ∈ rest := by
        rw [List.mem_cons, or_iff_right (Ne.symm heq)]
      simp only [hmem]
      rw [List.takeWhile_cons_of_pos (by simpa using heq), readSignal_snapshot,
        Snapshot.reading?_insert, if_neg (Ne.symm heq)]
      rfl

/-- A poll leaves the pad as reading its signals does. -/
theorem pad_foldl_readSignal (limit : Float32) (slot : Nat) (poll : Poll σ) :
    (list.foldl (readSignal limit slot) poll).pad = Pad.afterReads poll.pad slot list := by
  induction list generalizing poll with
  | nil => rfl
  | cons t rest ih => rw [List.foldl_cons, ih, readSignal_pad, Pad.afterReads, Pad.afterReads,
      List.foldl_cons]

variable (settings : Settings) (signals : SignalSet) (slot : Nat) (pad : σ)

/-- There is an entry for each signal of the set, made from the answer for that signal. -/
theorem reading?_run (s : Signal) :
    (run settings signals slot pad).snapshot.reading? s =
      if s ∈ signals then some (cleanAnswer settings.limit s (answer signals slot pad s))
      else none := by
  simp only [run, reading?_foldl_readSignal settings.limit slot signals.nodup_toList,
    SignalSet.mem_toList, Snapshot.reading?_empty]
  rfl

theorem pad_run : (run settings signals slot pad).pad = Pad.afterReads pad slot signals.toList :=
  pad_foldl_readSignal _ _ _

end Poll

end InputMap
