import InputMap.ListenerList

/-!
# The ids of a list of listeners

A list counts the ids that it gives, and has no listener under an id that it has yet to give.  So an
id that was given once stands for one listener until that listener is removed, and for none from
then on, whatever else is added or removed.

## Key results

- `ListenerList.Sound.under_add_nextId`: what is added is found under the id that it gets
- `ListenerList.under_add`, `ListenerList.under_remove_ne`: other changes leave it there
- `ListenerList.Sound.under_eq_nil`: there is nothing under an id before it is given
-/

namespace InputMap.ListenerList

variable {L : Type} {list : ListenerList L} {id other : ListenerId}

/-- The listeners under an id. -/
def under (list : ListenerList L) (id : ListenerId) : List L :=
  (list.entries.filter fun entry => entry.1 == id).map (·.2)

/-- Whether a list has given an id. -/
def Issued (list : ListenerList L) (id : ListenerId) : Prop := id.number < list.next

/-- A list has given all the ids that its listeners have. -/
def Sound (list : ListenerList L) : Prop := ∀ entry ∈ list.entries, list.Issued entry.1

theorem sound_empty : (empty : ListenerList L).Sound := fun _ h => absurd h List.not_mem_nil

/-- The next id was not given before. -/
theorem not_issued_nextId (list : ListenerList L) : ¬list.Issued list.nextId := Nat.lt_irrefl _

/-- A listener is added under the next id. -/
theorem issued_nextId_add (list : ListenerList L) (listener : L) :
    (list.add listener).Issued list.nextId :=
  Nat.lt_succ_self _

/-- An id that was given stays given when another is. -/
theorem Issued.add (h : list.Issued id) (listener : L) : (list.add listener).Issued id :=
  Nat.lt_succ_of_lt h

theorem Issued.remove (h : list.Issued id) (other : ListenerId) : (list.remove other).Issued id := h

/-- Adding a listener keeps a list sound. -/
theorem Sound.add (h : list.Sound) (listener : L) : (list.add listener).Sound := by
  intro entry hentry
  rcases List.mem_append.1 hentry with hold | hnew
  · exact (h entry hold).add listener
  · cases List.mem_singleton.1 hnew
    exact issued_nextId_add list listener

theorem Sound.remove (h : list.Sound) (id : ListenerId) : (list.remove id).Sound :=
  fun entry hentry => (h entry (List.mem_filter.1 hentry).1).remove id

/-- What is made of the listeners under an id, collected over the entries of the list. -/
theorem map_under {α : Type} (list : ListenerList L) (id : ListenerId) (f : L → α) :
    (list.under id).map f =
      list.entries.filterMap fun entry => if entry.1 = id then some (f entry.2) else none := by
  rw [under, List.map_map, ← List.filterMap_eq_map, List.filterMap_filter]
  simp only [beq_iff_eq, Function.comp_apply]

/-- There is nothing under an id before it is given. -/
theorem Sound.under_eq_nil (h : list.Sound) (hid : ¬list.Issued id) : list.under id = [] := by
  rw [under, List.map_eq_nil_iff, List.filter_eq_nil_iff]
  intro entry hentry heq
  rw [beq_iff_eq] at heq
  exact hid (heq ▸ h entry hentry)

/-- Adding a listener changes nothing under the ids that were given before. -/
theorem under_add (hid : list.Issued id) (listener : L) :
    (list.add listener).under id = list.under id := by
  have hne : (list.nextId == id) = false := by
    rw [beq_eq_false_iff_ne]
    rintro rfl
    exact not_issued_nextId list hid
  have hnew : [(list.nextId, listener)].filter (fun entry => entry.1 == id) = [] :=
    List.filter_cons_of_neg (by rw [hne]; exact Bool.false_ne_true)
  rw [under, ListenerList.add, List.filter_append, hnew, List.append_nil, under]

/-- What is added is found under the id that it gets. -/
theorem Sound.under_add_nextId (h : list.Sound) (listener : L) :
    (list.add listener).under list.nextId = [listener] := by
  have hnone : list.under list.nextId = [] := h.under_eq_nil (not_issued_nextId list)
  have hnew : [(list.nextId, listener)].filter (fun entry => entry.1 == list.nextId) =
      [(list.nextId, listener)] :=
    List.filter_cons_of_pos (beq_self_eq_true _)
  rw [under, ListenerList.add, List.filter_append, hnew, List.map_append, ← under, hnone]
  rfl

/-- Nothing remains under an id that was removed. -/
theorem under_remove_self (list : ListenerList L) (id : ListenerId) :
    (list.remove id).under id = [] := by
  rw [under, List.map_eq_nil_iff, List.filter_eq_nil_iff]
  intro entry hentry
  have hkept : (entry.1 != id) = true := (List.mem_filter.1 hentry).2
  rw [beq_iff_eq]
  exact bne_iff_ne.1 hkept

/-- Removing a listener changes nothing under other ids. -/
theorem under_remove_ne (hne : other ≠ id) : (list.remove other).under id = list.under id := by
  rw [under, remove, List.filter_filter, under]
  refine congrArg _ (List.filter_congr fun entry _ => ?_)
  by_cases heq : entry.1 = id
  · subst heq
    simp [hne.symm]
  · simp [heq]

end InputMap.ListenerList
