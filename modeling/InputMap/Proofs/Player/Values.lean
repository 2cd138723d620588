import InputMap.Proofs.Expr.Held
import InputMap.Proofs.Player.Trace

/-!
# The stored values of a player

What a tick makes of the stored value of an action depends on the binding of the action, the
readings and the value itself.  `Binding.next` is that function; neither the other actions nor any
listeners come into it.

## Key results

- `Binding.next_congr`: the next value depends on the readings of the binding's own signals only
- `Binding.next_beq`: the next value is equal to what the binding comes to
- `Player.WellFormed.state?_update_of`: a tick stores the next value of each action
- `Player.WellFormed.update_update`: with the same readings and bindings that hold their previous
  value, a second tick changes nothing
-/

namespace InputMap

variable {b : Binding} {r r' : Snapshot} {v : Value}

namespace Binding

/-- The stored value after a tick with the stored value `v` before it. -/
def next (b : Binding) (r : Snapshot) (v : Value) : Value :=
  if b.evaluate r v == v then v else b.evaluate r v

/-- A binding reads nothing but its signals. -/
theorem evaluate_congr (hr : ∀ s ∈ b.expr.signals, r.get s = r'.get s) (v : Value) :
    b.evaluate r v = b.evaluate r' v := by
  rw [evaluate, evaluate, Expr.evaluate?_congr hr fun _ => rfl]

/-- The next value on readings that agree on the binding's own signals. -/
theorem next_congr (hr : ∀ s ∈ b.expr.signals, r.get s = r'.get s) (v : Value) :
    b.next r v = b.next r' v := by
  rw [next, next, evaluate_congr hr]

/-- What is stored is always finite, also if the binding has no value or an infinite one. -/
theorem isFinite_evaluate (b : Binding) (r : Snapshot) (v : Value) :
    (b.evaluate r v).isFinite = true := by
  unfold evaluate
  split
  · exact Value.isFinite_sanitized _
  · exact Value.isFinite_neutral _

/-- What is stored is equal to what the binding comes to, whether it was kept or replaced. -/
theorem next_beq (b : Binding) (r : Snapshot) (v : Value) :
    (b.next r v == b.evaluate r v) = true := by
  by_cases hsame : (b.evaluate r v == v) = true
  · rw [next, if_pos hsame]
    exact PartialEquivBEq.symm hsame
  · rw [next, if_neg hsame]
    exact Value.beq_self_of_isFinite (b.isFinite_evaluate r v)

/-- A switch has one value for each position, so that what is stored is what it comes to. -/
theorem next_eq_of_bool {c : Bool} (h : b.evaluate r v = .bool c) : b.next r v = .bool c := by
  rw [next, h]
  split
  · rename_i hsame
    cases v with
    | bool d =>
      rw [Value.bool_beq, beq_iff_eq] at hsame
      rw [hsame]
    | _ => exact nomatch hsame
  · rfl

/-- A binding that holds its previous value is settled after one tick: with the same readings it
    comes to what is stored. -/
theorem evaluate_next (h : b.expr.Holds) {u : Value} (hu : b.expr.evaluate? r v = some u) :
    (b.evaluate r (b.next r v) == b.next r v) = true := by
  by_cases hsame : (b.evaluate r v == v) = true
  · -- the stored value was kept, and was the one that the value is equal to
    rw [next, if_pos hsame]
    exact hsame
  · -- the new value was stored, and it is finite and hence equal to itself
    rw [next, if_neg hsame, evaluate_evaluate h hu]
    exact Value.beq_self_of_isFinite (b.isFinite_evaluate r v)

end Binding

variable {L : Type} {p : Player L} {a : ActionId} {t : Turn L}
  {shared : List (ListenerList L)}

/-! ## One turn -/

namespace Turn

/-- The value after a turn is the next one of the binding. -/
theorem value_settled (t : Turn L) (r : Snapshot) :
    (t.settled r).value = t.binding.next r t.cell.value := by
  -- the turn stores a value only if it is not `==` the old one, and so does `next`
  by_cases hsame : (t.binding.evaluate r t.cell.value == t.cell.value) = true
  · have hchange : t.changes r = false := by
      rw [changes, value, hsame]
      rfl
    rw [settled, hchange, if_neg Bool.false_ne_true, Binding.next, if_pos hsame]
  · have hchange : t.changes r = true := by
      rw [changes, value, Bool.eq_false_iff.2 hsame]
      rfl
    rw [settled, hchange, if_pos rfl, Binding.next, if_neg hsame]
    rfl

/-- The turn of the same action at the next tick, if nothing happens in between. -/
def again (t : Turn L) (r : Snapshot) : Turn L := { t with cell := t.settled r }

/-- A binding that holds its previous value makes no change at a second tick. -/
theorem changes_again (h : t.binding.expr.Holds) {u : Value}
    (hu : t.binding.expr.evaluate? r t.cell.value = some u) : (t.again r).changes r = false := by
  have hsettled := Binding.evaluate_next h hu
  rw [← value_settled] at hsettled
  rw [changes, Bool.not_eq_false']
  exact hsettled

/-- A turn without a change leaves the cell. -/
theorem settled_of_not_changes (h : t.changes r = false) : t.settled r = t.cell := by
  rw [settled, h, if_neg Bool.false_ne_true]

end Turn

/-! ## One tick -/

namespace Player.WellFormed

/-- Every action has its turn. -/
theorem exists_turn_of_position {i : Nat} (h : p.WellFormed)
    (ha : p.actions.position? a = some i) : ∃ t ∈ p.turns, t.action = a := by
  have horder : a ∈ p.turns.map (·.action) := by
    rw [h.map_action_turns]
    exact List.mem_of_getElem? (ActionSet.getElem?_order.2 ha)
  exact List.mem_map.1 horder

/-- Each binding has its turn. -/
theorem exists_turn (h : p.WellFormed) (hb : p.table.binding? a = some b) :
    ∃ t ∈ p.turns, t.action = a ∧ t.binding = b := by
  obtain ⟨i, hi, -⟩ := BindingTable.binding?_eq_some_iff.1 hb
  rw [h.actions_eq] at hi
  obtain ⟨t, ht, rfl⟩ := h.exists_turn_of_position hi
  have hbinding := (h.turn_eq ht).2.1
  exact ⟨t, ht, rfl, Option.some.inj (hbinding.symm.trans hb)⟩

/-- A tick stores the next value of each action. -/
theorem state?_update_of (h : p.WellFormed) (hb : p.table.binding? a = some b)
    (hv : p.state? a = some v) : (p.update r shared).player.state? a = some (b.next r v) := by
  obtain ⟨t, ht, rfl, rfl⟩ := h.exists_turn hb
  have hstored : p.state? t.action = some t.cell.value :=
    state?_eq_some_iff.2 ⟨t.cell, (h.turn_eq ht).2.2, rfl⟩
  rw [hv, Option.some.injEq] at hstored
  rw [h.state?_update ht, Turn.value_settled, hstored]

/-- An action with a binding has a stored value. -/
theorem exists_state? (h : p.WellFormed) (hb : p.table.binding? a = some b) :
    ∃ v, p.state? a = some v := by
  obtain ⟨t, ht, rfl, -⟩ := h.exists_turn hb
  exact ⟨_, state?_eq_some_iff.2 ⟨t.cell, (h.turn_eq ht).2.2, rfl⟩⟩

/-- The turns take up all cells. -/
theorem map_cell_turns (h : p.WellFormed) : p.turns.map (·.cell) = p.cells := by
  refine List.ext_getElem? fun i => ?_
  rw [List.getElem?_map]
  cases hturn : p.turns[i]? with
  | none =>
    rw [List.getElem?_eq_none_iff, h.length_turns, ← h.length_cells] at hturn
    rw [Option.map_none, List.getElem?_eq_none hturn]
  | some t => rw [Option.map_some, (getElem?_turns.1 hturn).2.2]

/-- If no turn is a change, the tick leaves the player as it is and calls nobody. -/
theorem update_of_not_changes (h : p.WellFormed) (hquiet : ∀ t ∈ p.turns, t.changes r = false) :
    (p.update r shared).player = p ∧ (p.update r shared).changes = 0 ∧
      (p.update r shared).calls = 0 := by
  refine ⟨?_, ?_, ?_⟩
  · -- every cell is settled as it was
    have hcells : p.turns.map (·.settled r) = p.cells := by
      rw [← h.map_cell_turns]
      exact List.map_congr_left fun t ht => Turn.settled_of_not_changes (hquiet t ht)
    rw [h.player_update, hcells]
  · rw [update_eq h.length_entries, passAt, List.take_length]
    exact List.countP_eq_zero.2 fun t ht => Bool.eq_false_iff.1 (hquiet t ht)
  · have hcalls : p.turns.flatMap (p.turnCalls r shared) = [] := by
      refine List.flatMap_eq_nil_iff.2 fun t ht => ?_
      rw [turnCalls, hquiet t ht, if_neg Bool.false_ne_true]
    rw [update_eq h.length_entries, passAt, List.take_length, hcalls, List.length_nil]

/-- The turns of a second tick: each action starts from where the first tick has left it. -/
theorem turns_update (h : p.WellFormed) :
    (p.update r shared).player.turns = p.turns.map (·.again r) := by
  refine List.ext_getElem? fun i => Option.ext fun t => ?_
  rw [getElem?_turns, h.player_update, List.getElem?_map, List.getElem?_map,
    Option.map_eq_some_iff, Option.map_eq_some_iff]
  -- at each place the table is the same, and the cell is the settled one
  constructor
  · rintro ⟨rfl, hentry, before, hbefore, hcell⟩
    obtain ⟨hplace, hentry', -⟩ := getElem?_turns.1 hbefore
    rw [hentry, Option.some.injEq, Prod.mk.injEq] at hentry'
    refine ⟨before, hbefore, ?_⟩
    rw [Turn.again, hcell, hplace, ← hentry'.1, ← hentry'.2]
  · rintro ⟨before, hbefore, rfl⟩
    obtain ⟨hplace, hentry, -⟩ := getElem?_turns.1 hbefore
    exact ⟨hplace, hentry, before, hbefore, rfl⟩

/-- A second tick with the same readings: bindings that hold their previous value have settled. -/
theorem update_update (h : p.WellFormed) (hreadings : r.Fits)
    (hbindings : ∀ b ∈ p.table.bindings, b.expr.Holds) (shared' : List (ListenerList L)) :
    let q := (p.update r shared).player
    (q.update r shared').player = q ∧ (q.update r shared').changes = 0 ∧
      (q.update r shared').calls = 0 := by
  intro q
  refine (h.update hreadings).update_of_not_changes fun t ht => ?_
  rw [h.turns_update, List.mem_map] at ht
  obtain ⟨before, hbefore, rfl⟩ := ht
  -- the binding had a value at the first tick, from which the second one follows
  obtain ⟨-, hb, hcell⟩ := h.turn_eq hbefore
  obtain ⟨u, hu, -⟩ :=
    h.evaluate?_eq_some hreadings hb (state?_eq_some_iff.2 ⟨before.cell, hcell, rfl⟩)
  obtain ⟨i, -, hget⟩ := BindingTable.binding?_eq_some_iff.1 hb
  exact Turn.changes_again (hbindings _ (List.mem_of_getElem? hget)) hu

end Player.WellFormed

end InputMap
