import InputMap.Signal

/-! # Readings of one tick

A snapshot holds what was read from one pad at one tick.  A signal without a reading counts as at
rest. -/

namespace InputMap

/-- The readings of one pad at one tick.  A signal that was not read has no entry. -/
structure Snapshot where
  reading? : Signal → Option Value

namespace Snapshot

/-- The snapshot without readings. -/
def empty : Snapshot := ⟨fun _ => none⟩

/-- The snapshot with the reading of one signal put in or replaced. -/
def insert (r : Snapshot) (s : Signal) (v : Value) : Snapshot :=
  ⟨fun t => if t = s then some v else r.reading? t⟩

/-- The reading of a signal; the resting value of its category if it was not read. -/
def get (r : Snapshot) (s : Signal) : Value := (r.reading? s).getD s.category.neutral

/-- The number of signals that were read. -/
def size (r : Snapshot) : Nat := Signal.all.countP fun s => (r.reading? s).isSome

@[simp] theorem reading?_empty (s : Signal) : empty.reading? s = none := rfl

@[simp] theorem reading?_insert (r : Snapshot) (s t : Signal) (v : Value) :
    (r.insert s v).reading? t = if t = s then some v else r.reading? t := rfl

@[simp] theorem get_insert_self (r : Snapshot) (s : Signal) (v : Value) :
    (r.insert s v).get s = v := by
  simp [get]

theorem get_insert_of_ne (r : Snapshot) {s t : Signal} (v : Value) (h : t ≠ s) :
    (r.insert s v).get t = r.get t := by
  simp [get, h]

end Snapshot

end InputMap
