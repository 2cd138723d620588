import Mathlib.Data.List.Nodup
import InputMap.Proofs.ListenerList

/-!
# The history of a list of listeners

A list of listeners is what its history has made of it.  Everyone who was added is there, in the
same order, but for those whom something later has taken out: a removal under their id, or one of
all listeners.  The ids are counted through the whole history, so that each of them stands for one
listener and nobody else, however often the list was emptied in between.

## Key results

- `ListenerList.entries_of_run`: who is in a list after some edits
- `ListenerList.map_number_additions`: the ids that are given are counted through
- `ListenerList.exists_entries_remove`: a removal takes out one listener and leaves the others
-/

namespace InputMap.ListenerList

variable {L : Type}

/-- Something that is done to a list of listeners. -/
inductive Edit (L : Type) where
  | add (listener : L)
  /-- Removes the listener with an id. -/
  | remove (id : ListenerId)
  /-- Removes all listeners. -/
  | clear

namespace Edit

/-- Whether an edit adds a listener. -/
def isAdd : Edit L → Bool
  | add _ => true
  | _ => false

/-- Whether an edit takes out the listener with an id, if there is one. -/
def drops (id : ListenerId) : Edit L → Bool
  | add _ => false
  | remove other => id == other
  | clear => true

end Edit

/-- Makes one edit. -/
def edit (list : ListenerList L) : Edit L → ListenerList L
  | .add listener => list.add listener
  | .remove id => list.remove id
  | .clear => list.clear

/-- The list after some edits. -/
def run (list : ListenerList L) (edits : List (Edit L)) : ListenerList L := edits.foldl edit list

/-- Whether none of some edits takes out the listener with an id. -/
def spares (edits : List (Edit L)) (id : ListenerId) : Bool := edits.all fun edit => !edit.drops id

/-- A listener that was added, with the id that it got and all that was done after it. -/
structure Addition (L : Type) where
  id : ListenerId
  listener : L
  later : List (Edit L)

namespace Addition

/-- Whether the listener was not taken out again. -/
def isLive (x : Addition L) : Bool := spares x.later x.id

/-- The entry that the listener has as long as it is not taken out. -/
def entry (x : Addition L) : ListenerId × L := (x.id, x.listener)

end Addition

/-- All listeners that edits add, in order; each gets the id that the list gives at that point. -/
def additions (list : ListenerList L) : List (Edit L) → List (Addition L)
  | [] => []
  | .add listener :: later => ⟨list.nextId, listener, later⟩ :: (list.add listener).additions later
  | .remove id :: later => (list.remove id).additions later
  | .clear :: later => list.clear.additions later

variable {list : ListenerList L} {id : ListenerId}

/-! ## Who is in the list -/

/-- After some edits those are in a list who were there before and those who were added, without
    those whom a later edit has taken out. -/
theorem entries_of_run (list : ListenerList L) (edits : List (Edit L)) :
    (list.run edits).entries =
      (list.entries.filter fun entry => spares edits entry.1) ++
        ((list.additions edits).filter (·.isLive)).map (·.entry) := by
  -- on the edits; the first one adds to the list, or takes out some of those who are there
  induction edits generalizing list with
  | nil =>
    have hall : list.entries.filter (fun entry => spares ([] : List (Edit L)) entry.1) =
        list.entries :=
      List.filter_eq_self.2 fun _ _ => rfl
    rw [hall]
    exact (List.append_nil _).symm
  | cons edit later ih =>
    have hrun : list.run (edit :: later) = (list.edit edit).run later := rfl
    rw [hrun, ih]
    cases edit with
    | add listener =>
      -- the new entry is in the list from here on, as long as the later edits spare it
      have hnew : [(list.nextId, listener)].filter (fun entry => spares later entry.1) =
          ([⟨list.nextId, listener, later⟩].filter (·.isLive)).map Addition.entry := by
        cases hlive : spares later list.nextId <;> simp [Addition.isLive, Addition.entry, hlive]
      rw [ListenerList.edit, ListenerList.add, List.filter_append, List.append_assoc, hnew,
        ← List.map_append, ← List.filter_append]
      rfl
    | remove other =>
      -- taking out one id now and those of the later edits after it is one filter
      have hremove : (list.remove other).entries.filter (fun entry => spares later entry.1) =
          list.entries.filter fun entry => spares (.remove other :: later) entry.1 := by
        rw [remove, List.filter_filter]
        exact List.filter_congr fun entry _ => Bool.and_comm _ _
      rw [← hremove]
      rfl
    | clear =>
      have hclear : list.entries.filter (fun entry => spares (.clear :: later) entry.1) = [] :=
        List.filter_eq_nil_iff.2 fun _ _ => Bool.false_ne_true
      rw [hclear]
      rfl

/-- A list that was empty at first has those who were added and not taken out again. -/
theorem entries_of_run_empty (edits : List (Edit L)) :
    (empty.run edits).entries = ((empty.additions edits).filter (·.isLive)).map (·.entry) :=
  entries_of_run empty edits

/-! ## The ids -/

/-- A list counts the listeners that are added to it. -/
theorem next_run (list : ListenerList L) (edits : List (Edit L)) :
    (list.run edits).next = list.next + edits.countP (·.isAdd) := by
  induction edits generalizing list with
  | nil => rfl
  | cons edit later ih =>
    have hrun : list.run (edit :: later) = (list.edit edit).run later := rfl
    rw [hrun, ih]
    -- only an addition gives an id
    cases edit with
    | add listener =>
      rw [List.countP_cons_of_pos rfl]
      exact Nat.succ_add_eq_add_succ _ _
    | remove other => rw [List.countP_cons_of_neg Bool.false_ne_true]; rfl
    | clear => rw [List.countP_cons_of_neg Bool.false_ne_true]; rfl

/-- The ids that are given are counted through, whatever is taken out in between. -/
theorem map_number_additions (list : ListenerList L) (edits : List (Edit L)) :
    (list.additions edits).map (·.id.number) =
      List.range' list.next (edits.countP (·.isAdd)) := by
  induction edits generalizing list with
  | nil => rfl
  | cons edit later ih =>
    cases edit with
    | add listener =>
      rw [additions, List.map_cons, ih, List.countP_cons_of_pos rfl, List.range'_succ]
      rfl
    | remove other => rw [additions, ih, List.countP_cons_of_neg Bool.false_ne_true]; rfl
    | clear => rw [additions, ih, List.countP_cons_of_neg Bool.false_ne_true]; rfl

/-- Nobody gets an id that somebody else has got before. -/
theorem nodup_map_id_additions (list : ListenerList L) (edits : List (Edit L)) :
    ((list.additions edits).map (·.id)).Nodup := by
  -- an id is its number
  have hnumbers : (((list.additions edits).map (·.id)).map ListenerId.number).Nodup := by
    rw [List.map_map]
    exact map_number_additions list edits ▸ List.nodup_range'
  exact hnumbers.of_map _

/-- The ids that were given are below the next one. -/
theorem number_lt_of_mem_additions {edits : List (Edit L)} {x : Addition L}
    (hx : x ∈ list.additions edits) : x.id.number < (list.run edits).next := by
  have hnumber : x.id.number ∈ (list.additions edits).map (·.id.number) := List.mem_map_of_mem hx
  rw [map_number_additions, List.mem_range'_1] at hnumber
  rw [next_run]
  exact hnumber.2

/-- The ids in a list ascend, since its listeners stand in the order in which they were added. -/
theorem pairwise_number_run (edits : List (Edit L)) :
    ((empty.run edits).entries.map (·.1.number)).Pairwise (· < ·) := by
  have hsublist : ((empty.run edits).entries.map (·.1.number)).Sublist
      ((empty.additions edits).map (·.id.number)) := by
    rw [entries_of_run_empty, List.map_map]
    exact List.filter_sublist.map _
  rw [map_number_additions] at hsublist
  exact List.Pairwise.sublist hsublist List.pairwise_lt_range'

/-- No two listeners of a list share an id, whatever was done to it. -/
theorem nodup_id_run (edits : List (Edit L)) :
    ((empty.run edits).entries.map (·.1)).Nodup := by
  rw [entries_of_run_empty, List.map_map]
  exact (nodup_map_id_additions empty edits).sublist (List.filter_sublist.map _)

/-! ## Removals -/

/-- The list contains the ids that were given and not taken back. -/
theorem contains_run_empty (edits : List (Edit L)) (id : ListenerId) :
    (empty.run edits).contains id = true ↔
      ∃ x ∈ empty.additions edits, x.id = id ∧ x.isLive = true := by
  simp only [contains_eq_true_iff, entries_of_run_empty, List.map_map, List.mem_map,
    List.mem_filter, Function.comp_apply, Addition.entry, and_assoc]
  exact exists_congr fun x => and_congr_right fun _ => and_comm

/-- There is something to remove exactly if the list gets shorter. -/
theorem contains_eq_size_ne (list : ListenerList L) (id : ListenerId) :
    list.contains id = decide ((list.remove id).size ≠ list.size) := by
  cases hcontains : list.contains id with
  | false => simp [remove_of_not_contains hcontains]
  | true =>
    rw [contains_eq_true_iff, List.mem_map] at hcontains
    obtain ⟨entry, hentry, rfl⟩ := hcontains
    have hshorter : (list.remove entry.1).size < list.size :=
      List.length_filter_lt_length_iff_exists.2 ⟨entry, hentry, by simp⟩
    simp [Nat.ne_of_lt hshorter]

/-- A removal takes out one listener and leaves the others in their order. -/
theorem exists_entries_remove {entry : ListenerId × L} (hnodup : (list.entries.map (·.1)).Nodup)
    (hentry : entry ∈ list.entries) :
    ∃ front back, list.entries = front ++ entry :: back ∧
      (list.remove entry.1).entries = front ++ back := by
  obtain ⟨front, back, hentries⟩ := List.append_of_mem hentry
  refine ⟨front, back, hentries, ?_⟩
  -- nobody else has the id, neither before the listener nor after it
  rw [hentries, List.map_append, List.map_cons, List.nodup_middle, List.nodup_cons,
    ← List.map_append] at hnodup
  have hothers : (front ++ back).filter (fun other => other.1 != entry.1) = front ++ back := by
    refine List.filter_eq_self.2 fun other hother => bne_iff_ne.2 fun heq => hnodup.1 ?_
    exact heq ▸ List.mem_map_of_mem hother
  rw [remove, hentries, List.filter_append, List.filter_cons, bne_self_eq_false,
    if_neg Bool.false_ne_true, ← List.filter_append, hothers]

/-! ## Histories -/

/-- What the history of a list says of it.  The ids of the listeners ascend and so are distinct, and
    they are below the number of the next one, which is how many listeners were added.  No two
    additions get the same id, whatever is removed between them, and the next one gets another one
    again.  There is a listener to remove under an id exactly if one was added under it and neither
    it nor all of them were removed since; the answer of a removal is whether the list has become
    shorter.  The removal takes out that listener and keeps the others in their order; without such
    a listener it changes nothing.  Those who are called are those who were added and are not
    removed yet, in the order in which they were added. -/
theorem shows_history (edits : List (Edit L)) :
    let list : ListenerList L := empty.run edits
    let added := (empty : ListenerList L).additions edits
    ((list.entries.map (·.1)).Nodup ∧ (list.entries.map (·.1.number)).Pairwise (· < ·) ∧
      ∀ entry ∈ list.entries, entry.1.number < list.next) ∧
    (list.next = edits.countP (·.isAdd) ∧ (added.map (·.id)).Nodup ∧
      ∀ x ∈ added, x.id ≠ list.nextId) ∧
    (∀ id, (list.contains id = true ↔ ∃ x ∈ added, x.id = id ∧ x.isLive = true) ∧
      list.contains id = decide ((list.remove id).size ≠ list.size) ∧
      (list.contains id = false → list.remove id = list)) ∧
    (∀ x ∈ added, x.isLive = true → ∃ front back, list.entries = front ++ x.entry :: back ∧
      list.remove x.id = ⟨front ++ back, list.next⟩) ∧
    list.entries = (added.filter (·.isLive)).map (·.entry) ∧
    list.listeners = (added.filter (·.isLive)).map (·.listener) := by
  intro list added
  -- all of it is read off the live additions, which the entries are
  have hentries : list.entries = (added.filter (·.isLive)).map (·.entry) :=
    entries_of_run_empty edits
  have hbelow : ∀ x ∈ added, x.id.number < list.next := fun x => number_lt_of_mem_additions
  have hlive : ∀ x ∈ added, x.isLive = true → x.entry ∈ list.entries := fun x hx hlive =>
    hentries ▸ List.mem_map_of_mem (List.mem_filter.2 ⟨hx, hlive⟩)
  refine ⟨⟨nodup_id_run edits, pairwise_number_run edits, fun entry hentry => ?_⟩,
    ⟨?_, nodup_map_id_additions _ edits, fun x hx heq => ?_⟩,
    fun id => ⟨contains_run_empty edits id, contains_eq_size_ne list id, remove_of_not_contains⟩,
    fun x hx hx' => ?_, hentries, ?_⟩
  · rw [hentries, List.mem_map] at hentry
    obtain ⟨x, hx, rfl⟩ := hentry
    exact hbelow x (List.mem_filter.1 hx).1
  · exact (next_run empty edits).trans (Nat.zero_add _)
  · exact Nat.ne_of_lt (hbelow x hx) (congrArg ListenerId.number heq)
  · obtain ⟨front, back, hfront, hremove⟩ :=
      exists_entries_remove (nodup_id_run edits) (hlive x hx hx')
    exact ⟨front, back, hfront, congrArg (ListenerList.mk · list.next) hremove⟩
  · rw [listeners, hentries, List.map_map]
    rfl

/-- The list is emptied in between, and the listener that was added first had been removed already.
    Those who come later get new ids, so that the old ones remove nobody. -/
theorem shows_history_of_clear :
    let edits : List (Edit String) :=
      [.add "log", .add "sound", .remove ⟨0⟩, .clear, .add "rumble", .add "light"]
    let list := empty.run edits
    list.contains ⟨0⟩ = false ∧ list.remove ⟨0⟩ = list ∧
      ⟨⟨2⟩, "rumble", [.add "light"]⟩ ∈ empty.additions edits ∧
      (∃ front back, list.entries = front ++ (⟨2⟩, "rumble") :: back ∧
        list.remove ⟨2⟩ = ⟨front ++ back, list.next⟩) ∧
      list.listeners = ["rumble", "light"] ∧ list.nextId = ⟨4⟩ := by
  intro edits list
  obtain ⟨-, -, hremove, hlive, -, hlisteners⟩ := shows_history edits
  have hgone : list.contains ⟨0⟩ = false := rfl
  have hadded : ⟨⟨2⟩, "rumble", [.add "light"]⟩ ∈ empty.additions edits :=
    .tail _ (.tail _ (.head _))
  exact ⟨hgone, (hremove ⟨0⟩).2.2 hgone, hadded, hlive _ hadded rfl, hlisteners, rfl⟩

end InputMap.ListenerList
