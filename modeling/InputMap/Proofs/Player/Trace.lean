import InputMap.Proofs.Player.WellFormed

/-!
# The calls of one player

What a tick calls is said here action by action, in terms of the player before and after the tick
only.  The turns of the tick are then seen to make just these calls.

## Key results

- `Player.WellFormed.calls_update`: the calls of a tick are those of the actions, in evaluation
  order
- `Player.WellFormed.state?_between`: what a listener sees of the player
- `Player.WellFormed.changes_update`: the changes of a tick are counted by comparing the player
  before and after
-/

namespace InputMap.Player

variable {L : Type} {p : Player L} {a b : ActionId} {i j : Nat} {t : Turn L} {readings : Snapshot}
  {shared : List (ListenerList L)}

/-- A player on its way from `before` to `after`: the actions up to the place `i` are as after, all
    others are as before. -/
def between (before after : Player L) (i : Nat) : Player L :=
  { before with cells := after.cells.take (i + 1) ++ before.cells.drop (i + 1) }

/-- The calls that one action makes in a tick from `before` to `after`.  There are none unless its
    new value differs from the stored one; else its own listeners are called, and then the shared
    ones, with the player on its way. -/
def callsOf (before after : Player L) (readings : Snapshot) (shared : List (ListenerList L))
    (a : ActionId) : List (Call L) :=
  match before.actions.position? a, before.table.binding? a, before.cell? a with
  | some i, some binding, some cell =>
    let value := binding.evaluate readings cell.value
    let own := cell.listeners.listeners
    let everyone := (shared[i]?.map (·.listeners)).getD []
    if value == cell.value then []
    else (own ++ everyone).map fun listener => ⟨listener, a, value, before.between after i⟩
  | _, _, _ => []

/-! ## Calls -/

/-- The calls of a turn among its events. -/
theorem filterMap_turnEvents (p : Player L) (readings : Snapshot) (shared : List (ListenerList L))
    (t : Turn L) :
    (p.turnEvents readings shared t).filterMap Event.call? = p.turnCalls readings shared t := by
  rw [turnEvents, List.filterMap_append, Event.filterMap_call?_notices, List.nil_append]
  split
  · rw [List.filterMap_cons_none rfl, Event.filterMap_call?_calls]
  · rename_i hsame
    rw [List.filterMap_nil, turnCalls, if_neg hsame]

/-- A player on its way has had its turns up to the place. -/
theorem WellFormed.between_update (h : p.WellFormed) (i : Nat) :
    p.between (p.update readings shared).player i = p.during readings (i + 1) := by
  rw [h.player_update, between, during, List.map_take]

/-- The listeners of an action are called in the turn of that action, and in no other turn. -/
theorem WellFormed.callsOf_update (h : p.WellFormed) (ht : t ∈ p.turns) :
    p.callsOf (p.update readings shared).player readings shared t.action =
      p.turnCalls readings shared t := by
  obtain ⟨hposition, hbinding, hcell⟩ := h.turn_eq ht
  have hlisteners : t.cell.listeners.listeners ++ (shared[t.place]?.map (·.listeners)).getD [] =
      listenersAt t.cell shared t.place := by
    rw [listenersAt]
    cases shared[t.place]? <;> rfl
  simp only [callsOf, hposition, hbinding, hcell, hlisteners, h.between_update]
  -- a value that is `==` to the old one calls nobody
  cases hchange : t.changes readings with
  | false =>
    have hsame : (t.binding.evaluate readings t.cell.value == t.cell.value) = true := by
      simpa only [Turn.changes, Turn.value, Bool.not_eq_false'] using hchange
    rw [if_pos hsame, turnCalls, hchange, if_neg Bool.false_ne_true]
  | true =>
    have hother : ¬(t.binding.evaluate readings t.cell.value == t.cell.value) = true := by
      simpa only [Turn.changes, Turn.value, Bool.not_eq_true', Bool.not_eq_true] using hchange
    rw [if_neg hother, turnCalls, if_pos hchange]
    rfl

/-- The calls of a tick, in terms of the player before and after it. -/
theorem WellFormed.calls_update (h : p.WellFormed) :
    (p.update readings shared).events.filterMap Event.call? =
      p.actions.order.flatMap (p.callsOf (p.update readings shared).player readings shared) := by
  have hcalls : ∀ t ∈ p.turns, p.turnCalls readings shared t =
      p.callsOf (p.update readings shared).player readings shared t.action :=
    fun t ht => (h.callsOf_update ht).symm
  -- both sides run over the turns
  rw [← h.map_action_turns, List.flatMap_map, List.flatMap_def, ← List.map_congr_left hcalls,
    ← List.flatMap_def, update_eq h.length_entries, passAt, List.take_length,
    List.filterMap_flatMap]
  simp only [filterMap_turnEvents]

/-- A tick counts its calls. -/
theorem WellFormed.length_calls_update (h : p.WellFormed) :
    (p.update readings shared).calls =
      ((p.update readings shared).events.filterMap Event.call?).length := by
  rw [update_eq h.length_entries, passAt, List.filterMap_flatMap]
  simp only [filterMap_turnEvents]

/-! ## States -/

/-- The stored values after a tick. -/
theorem WellFormed.state?_update (h : p.WellFormed) (ht : t ∈ p.turns) :
    (p.update readings shared).player.state? t.action = some (t.settled readings).value := by
  obtain ⟨i, hi⟩ := List.getElem?_of_mem ht
  have hplace := (h.turn_eq ht).1
  rw [place_eq hi] at hplace
  rw [h.player_update, state?_eq_some_iff]
  refine ⟨t.settled readings, cell?_eq_some_iff.2 ⟨i, hplace, ?_⟩, rfl⟩
  rw [List.getElem?_map, hi, Option.map_some]

/-- What a listener of the action at the place `i` sees: actions up to there have their new values,
    later ones their old values. -/
theorem WellFormed.state?_between (h : p.WellFormed) (ha : p.actions.position? a = some i)
    (hb : p.actions.position? b = some j) :
    (p.between (p.update readings shared).player i).state? b =
      if j ≤ i then (p.update readings shared).player.state? b else p.state? b := by
  have hlt : i < p.turns.length := by
    rw [h.length_turns]
    exact ActionSet.position?_lt_size ha
  -- the front part has the places up to `i`, and the rest is as before the tick
  have hfront : ((p.turns.map (·.settled readings)).take (i + 1)).length = i + 1 := by
    rw [List.length_take, List.length_map]
    omega
  rw [h.player_update]
  simp only [between, state?, cell?, hb, Option.bind_eq_bind, Option.bind_some]
  split
  · rw [List.getElem?_append_left (by omega), List.getElem?_take_of_lt (by omega)]
  · rw [List.getElem?_append_right (by omega), List.getElem?_drop, hfront,
      Nat.add_sub_cancel' (by omega)]

/-- A tick counts the actions whose stored value differs afterwards. -/
theorem WellFormed.changes_update (h : p.WellFormed) :
    (p.update readings shared).changes =
      p.actions.order.countP fun a => p.state? a != (p.update readings shared).player.state? a := by
  rw [← h.map_action_turns, List.countP_map, update_eq h.length_entries]
  show (p.turns.take p.turns.length).countP _ = _
  rw [List.take_length, ← update_eq h.length_entries]
  refine List.countP_congr fun t ht => ?_
  have hbefore : p.state? t.action = some t.cell.value :=
    state?_eq_some_iff.2 ⟨t.cell, (h.turn_eq ht).2.2, rfl⟩
  have hafter : (p.update readings shared).player.state? t.action = _ := h.state?_update ht
  rw [Function.comp_apply, hbefore, hafter]
  cases hchange : t.changes readings with
  | false =>
    -- the cell is kept, and a stored value is equal to itself since it is finite
    have hself : (t.cell.value == t.cell.value) = true :=
      Value.beq_self_of_isFinite (h.stored _ _ hbefore).2
    rw [Turn.settled, hchange, if_neg Bool.false_ne_true, bne, Option.some_beq_some, hself]
    rfl
  | true =>
    have hother : (t.value readings == t.cell.value) = false := by
      simpa only [Turn.changes, Bool.not_eq_true'] using hchange
    rw [Turn.settled, if_pos hchange, bne, Option.some_beq_some, BEq.comm, hother]
    rfl

end InputMap.Player
