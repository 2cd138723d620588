import InputMap.Player
import InputMap.Proofs.ForStd

/-!
# The turns of a tick

`Player.update` threads a pass through the turns of all actions.  Each turn looks at its own cell
only, and no earlier turn has touched that cell.  So what a turn comes to depends on the player
before the tick, and the whole pass can be written down without a fold: `Player.passAt` is the pass
after the first `n` turns.

## Key results

- `Player.turn_passAt`: one turn leads from `passAt n` to `passAt (n + 1)`
- `Player.update_eq`: `Player.update` is `passAt` after the last turn
-/

namespace InputMap

variable {L : Type}

/-- The turn of one action: its place and what it starts from. -/
structure Turn (L : Type) where
  place : Nat
  action : ActionId
  binding : Binding
  cell : Cell L

namespace Turn

/-- The value that the binding comes to. -/
def value (t : Turn L) (readings : Snapshot) : Value := t.binding.evaluate readings t.cell.value

/-- Whether the value is another one than the stored one. -/
def changes (t : Turn L) (readings : Snapshot) : Bool := !(t.value readings == t.cell.value)

/-- The cell after the turn. -/
def settled (t : Turn L) (readings : Snapshot) : Cell L :=
  if t.changes readings then { t.cell with value := t.value readings } else t.cell

end Turn

namespace Event

/-- Notices are no calls. -/
theorem filterMap_call?_notices (notices : List Notice) :
    (notices.map (Event.notice (L := L))).filterMap call? = [] := by
  rw [List.filterMap_map]
  exact List.filterMap_eq_nil_iff.2 fun _ _ => rfl

/-- A list of calls is read back from its events. -/
theorem filterMap_call?_calls (calls : List (Call L)) :
    (calls.map Event.call).filterMap call? = calls := by
  rw [List.filterMap_map]
  exact List.filterMap_some

end Event

namespace Player

variable {p : Player L} {readings : Snapshot} {shared : List (ListenerList L)} {t : Turn L}
  {i : Nat}

/-- The turns of all actions in evaluation order. -/
def turns (p : Player L) : List (Turn L) :=
  (p.table.entries.zip p.cells).zipIdx.map fun ((entry, cell), i) => ⟨i, entry.1, entry.2, cell⟩

/-- A turn has the action, the binding and the cell of its place. -/
theorem getElem?_turns :
    p.turns[i]? = some t ↔
      t.place = i ∧ p.table.entries[i]? = some (t.action, t.binding) ∧
        p.cells[i]? = some t.cell := by
  simp only [turns, List.getElem?_map, List.getElem?_zipIdx, Option.map_map, Option.map_eq_some_iff,
    Function.comp_apply, Nat.zero_add]
  constructor
  · rintro ⟨⟨entry, cell⟩, hget, rfl⟩
    exact ⟨rfl, List.getElem?_zip_eq_some.1 hget⟩
  · rintro ⟨rfl, hget⟩
    exact ⟨((t.action, t.binding), t.cell), List.getElem?_zip_eq_some.2 hget, rfl⟩

theorem place_eq (h : p.turns[i]? = some t) : t.place = i := (getElem?_turns.1 h).1

/-- There are as many turns as cells. -/
theorem length_turns (h : p.table.entries.length = p.cells.length) :
    p.turns.length = p.cells.length := by
  simp only [turns, List.length_map, List.length_zipIdx, List.length_zip, h, Nat.min_self]

/-- The player when the first `n` actions have had their turns. -/
def during (p : Player L) (readings : Snapshot) (n : Nat) : Player L :=
  { p with cells := (p.turns.take n).map (·.settled readings) ++ p.cells.drop n }

/-- The calls of one turn; they are shown the player as the turn leaves it. -/
def turnCalls (p : Player L) (readings : Snapshot) (shared : List (ListenerList L)) (t : Turn L) :
    List (Call L) :=
  if t.changes readings then
    (listenersAt t.cell shared t.place).map fun listener =>
      ⟨listener, t.action, t.value readings, p.during readings (t.place + 1)⟩
  else []

/-- What one turn does. -/
def turnEvents (p : Player L) (readings : Snapshot) (shared : List (ListenerList L)) (t : Turn L) :
    List (Event L) :=
  (valueNotices t.binding readings t.cell.value).map .notice ++
    if t.changes readings then
      .notice (.changed p.slot (p.actions.describe t.action) t.cell.value (t.value readings)) ::
        (p.turnCalls readings shared t).map .call
    else []

/-- The pass after the first `n` turns. -/
def passAt (p : Player L) (readings : Snapshot) (shared : List (ListenerList L)) (n : Nat) :
    Pass L where
  player := p.during readings n
  evaluated := (p.turns.take n).length
  changes := (p.turns.take n).countP (·.changes readings)
  calls := ((p.turns.take n).flatMap (p.turnCalls readings shared)).length
  events := (p.turns.take n).flatMap (p.turnEvents readings shared)

/-! ## One turn -/

/-- One turn more. -/
theorem take_turns_succ (h : p.turns[i]? = some t) :
    p.turns.take (i + 1) = p.turns.take i ++ [t] := by
  rw [List.take_add_one, h, Option.toList_some]

/-- The cells before the turn at place `i`: its own cell is the one from before the tick. -/
theorem cells_during (h : p.turns[i]? = some t) :
    (p.during readings i).cells =
      (p.turns.take i).map (·.settled readings) ++ t.cell :: p.cells.drop (i + 1) := by
  obtain ⟨hlt, hcell⟩ := List.getElem?_eq_some_iff.1 (getElem?_turns.1 h).2.2
  rw [during, List.drop_eq_getElem_cons hlt, hcell]

/-- The player after one turn more: the cell of the turn has its new value. -/
theorem during_succ (h : p.turns[i]? = some t) :
    p.during readings (i + 1) =
      { p with cells := (p.turns.take i).map (·.settled readings) ++
          t.settled readings :: p.cells.drop (i + 1) } := by
  rw [during, take_turns_succ h, List.map_append, List.append_assoc]
  rfl

/-- The cells in front of a turn are those that have had theirs. -/
theorem length_settled_take (h : p.turns[i]? = some t) :
    ((p.turns.take i).map (·.settled readings)).length = i := by
  obtain ⟨hlt, -⟩ := List.getElem?_eq_some_iff.1 h
  rw [List.length_map, List.length_take]
  omega

/-- Storing the value of a turn that is a change. -/
theorem store_during (h : p.turns[i]? = some t) (hchange : t.changes readings = true) :
    (p.during readings i).store i (t.value readings) = p.during readings (i + 1) := by
  rw [during_succ h, store, modifyCell, cells_during h, Turn.settled, if_pos hchange,
    List.modify_append_cons (length_settled_take h)]
  rfl

/-- A turn that is no change leaves the player as it is. -/
theorem during_succ_of_not_changes (h : p.turns[i]? = some t)
    (hchange : t.changes readings = false) :
    p.during readings (i + 1) = p.during readings i := by
  have hcells : (p.during readings i).cells = _ := cells_during h
  rw [during_succ h, Turn.settled, hchange, if_neg Bool.false_ne_true, ← hcells]
  rfl

/-- One turn. -/
theorem turn_passAt (h : p.turns[i]? = some t) :
    turn readings shared (p.passAt readings shared i) ((t.action, t.binding), i) =
      p.passAt readings shared (i + 1) := by
  have hplace : t.place = i := place_eq h
  -- no earlier turn has touched the cell of this one
  have hcell : (p.during readings i).cells[i]? = some t.cell := by
    rw [cells_during h, List.getElem?_append_right (Nat.le_of_eq (length_settled_take h)),
      length_settled_take h, Nat.sub_self, List.getElem?_cons_zero]
  -- in both cases each field of the pass grows by what the turn adds to it
  cases hchange : t.changes readings with
  | false =>
    have hsame : (t.binding.evaluate readings t.cell.value == t.cell.value) = true := by
      simpa only [Turn.changes, Turn.value, Bool.not_eq_false'] using hchange
    simp only [turn, passAt, hcell, hsame, if_true, take_turns_succ h,
      during_succ_of_not_changes h hchange]
    simp only [List.length_append, List.length_singleton, List.countP_append, List.countP_singleton,
      List.flatMap_append, List.flatMap_singleton, turnCalls, turnEvents, hchange,
      if_neg Bool.false_ne_true, List.append_nil, Nat.add_zero]
  | true =>
    have hother : (t.binding.evaluate readings t.cell.value == t.cell.value) = false := by
      simpa only [Turn.changes, Turn.value, Bool.not_eq_true'] using hchange
    have hstore := store_during h hchange
    rw [Turn.value] at hstore
    simp only [turn, passAt, hcell, hother, if_neg Bool.false_ne_true, take_turns_succ h, hstore]
    simp only [List.length_append, List.length_singleton, List.countP_append, List.countP_singleton,
      List.flatMap_append, List.flatMap_singleton, turnCalls, turnEvents, hchange, if_true, hplace,
      List.length_map, List.map_map, List.append_assoc, Turn.value]
    rfl

/-! ## All turns -/

/-- The pass of a tick, without a fold. -/
theorem update_eq (hlength : p.table.entries.length = p.cells.length) :
    p.update readings shared = p.passAt readings shared p.turns.length := by
  have hstep : ∀ i entry, p.table.entries.zipIdx[i]? = some entry →
      turn readings shared (p.passAt readings shared i) entry =
        p.passAt readings shared (i + 1) := by
    intro i ⟨⟨action, binding⟩, j⟩ hentry
    rw [List.getElem?_zipIdx, Nat.zero_add, Option.map_eq_some_iff] at hentry
    obtain ⟨entry, hget, heq⟩ := hentry
    cases heq
    -- every entry of the table has a cell, so it is one of the turns
    have hlt : i < p.cells.length := by
      rw [← hlength]
      exact (List.getElem?_eq_some_iff.1 hget).1
    have hturn : p.turns[i]? = some ⟨i, action, binding, p.cells[i]⟩ :=
      getElem?_turns.2 ⟨rfl, hget, List.getElem?_eq_getElem hlt⟩
    exact turn_passAt hturn
  have hrun := List.foldl_eq_of_step (p.passAt readings shared) hstep
  rwa [List.length_zipIdx, hlength, ← length_turns hlength] at hrun

end Player

end InputMap
