/-! # Lists of listeners

Listeners are called in the order in which they were added.  Each gets an id when it is added, by
which it can be removed; a list never gives the same id twice. -/

namespace InputMap

/-- The handle of a listener in its list. -/
structure ListenerId where
  number : Nat
deriving DecidableEq, Repr

/-- The text of a listener's id. -/
def ListenerId.text (id : ListenerId) : String := s!"ListenerId({id.number})"

/-- The listeners of one action, with the number that the next one gets. -/
structure ListenerList (L : Type) where
  entries : List (ListenerId × L)
  next : Nat

namespace ListenerList

variable {L : Type}

/-- The list without listeners that has given no id yet. -/
def empty : ListenerList L := ⟨[], 0⟩

/-- The id that the next listener gets. -/
def nextId (list : ListenerList L) : ListenerId := ⟨list.next⟩

/-- Adds a listener at the end, under `nextId`. -/
def add (list : ListenerList L) (listener : L) : ListenerList L :=
  ⟨list.entries ++ [(list.nextId, listener)], list.next + 1⟩

/-- Whether a listener with this id is in the list. -/
def contains (list : ListenerList L) (id : ListenerId) : Bool :=
  list.entries.any fun entry => entry.1 == id

/-- Removes the listener with this id, if there is one. -/
def remove (list : ListenerList L) (id : ListenerId) : ListenerList L :=
  { list with entries := list.entries.filter fun entry => entry.1 != id }

/-- Removes all listeners. -/
def clear (list : ListenerList L) : ListenerList L := { list with entries := [] }

/-- The listeners in the order of their calls. -/
def listeners (list : ListenerList L) : List L := list.entries.map (·.2)

/-- The number of listeners. -/
def size (list : ListenerList L) : Nat := list.entries.length

@[simp] theorem listeners_empty : (empty : ListenerList L).listeners = [] := rfl

@[simp] theorem listeners_add (list : ListenerList L) (listener : L) :
    (list.add listener).listeners = list.listeners ++ [listener] := by
  simp [listeners, add]

@[simp] theorem listeners_clear (list : ListenerList L) : list.clear.listeners = [] := rfl

theorem contains_eq_true_iff {list : ListenerList L} {id : ListenerId} :
    list.contains id = true ↔ id ∈ list.entries.map (·.1) := by
  simp [contains]

/-- Removing an id that is not in the list changes nothing. -/
theorem remove_of_not_contains {list : ListenerList L} {id : ListenerId}
    (h : list.contains id = false) : list.remove id = list := by
  simp only [contains, List.any_eq_false] at h
  have hall : ∀ entry ∈ list.entries, (entry.1 != id) = true := by
    intro entry hentry
    simpa using h entry hentry
  simp [remove, List.filter_eq_self.2 hall]

end ListenerList

end InputMap
