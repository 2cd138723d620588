import InputMap.Proofs.BindingTable.WellFormed
import InputMap.Proofs.Expr.Strict
import InputMap.Proofs.Player.Turns
import InputMap.Proofs.Value.Equality

/-!
# Well-formed players

A player keeps several lists by the place of an action: the order of the actions, the bindings of
its table and its cells.  A player is well formed if these agree, its table is well formed and made
for the player's own actions and signals, and each stored value is finite and of its action's
category.

The stored value of an action is what its binding is evaluated on at the next tick.  So a
well-formed player is one whose ticks meet no surprise: every binding has a value.

## Key results

- `Player.atomic_setTable`, `Player.atomic_bind`: a change of the table that is refused leaves the
  player
- `Player.WellFormed.setTable`, `bind`, `listen`, `unlisten`, `update`: what keeps a player well
  formed
- `Player.WellFormed.evaluate?_eq_some`: every binding has a value of its category
-/

namespace InputMap.Player

variable {L : Type} {p q : Player L} {a : ActionId} {i : Nat} {t : Turn L} {readings : Snapshot}
  {shared : List (ListenerList L)}

/-- The cell of an action is the one at the action's place. -/
theorem cell?_eq_some_iff {cell : Cell L} :
    p.cell? a = some cell ↔ ∃ i, p.actions.position? a = some i ∧ p.cells[i]? = some cell := by
  simp only [cell?, Option.bind_eq_bind, Option.bind_eq_some_iff]

/-- The state of an action is the value of its cell. -/
theorem state?_eq_some_iff {v : Value} :
    p.state? a = some v ↔ ∃ cell, p.cell? a = some cell ∧ cell.value = v := by
  simp only [state?, Option.map_eq_some_iff]

/-- A value that can be stored for an action: finite, and of the action's category. -/
def Storable (a : ActionId) (v : Value) : Prop := v.category = a.category ∧ v.isFinite = true

/-- The lists of a player agree, and so do its table and its stored values with its actions. -/
structure WellFormed (p : Player L) : Prop where
  actions_eq : p.table.actions = p.actions
  signals_eq : p.table.signals = p.signals
  table : p.table.WellFormed
  length_cells : p.cells.length = p.actions.size
  stored : ∀ a v, p.state? a = some v → Storable a v

/-- Every action can be at rest. -/
theorem storable_neutral (a : ActionId) : Storable a a.category.neutral :=
  ⟨Value.category_neutral _, Value.isFinite_neutral _⟩

/-- Every action of a fresh player is at rest. -/
theorem eq_neutral_of_create {slot : Nat} {table : BindingTable} {v : Value}
    (hv : (create slot table : Player L).state? a = some v) : v = a.category.neutral := by
  obtain ⟨cell, hcell, rfl⟩ := state?_eq_some_iff.1 hv
  obtain ⟨i, hi, hget⟩ := cell?_eq_some_iff.1 hcell
  have horder : table.actions.order[i]? = some a := ActionSet.getElem?_order.2 hi
  simp only [create, List.getElem?_map, horder, Option.map_some, Option.some.injEq] at hget
  rw [← hget]

/-- A new player has a cell for each action of its table. -/
theorem wellFormed_create {slot : Nat} {table : BindingTable} (h : table.WellFormed) :
    (create slot table : Player L).WellFormed where
  actions_eq := rfl
  signals_eq := rfl
  table := h
  length_cells := by
    show (table.actions.order.map _).length = _
    rw [List.length_map, ActionSet.length_order]
    rfl
  stored a v hv := by
    -- nothing but neutral values is stored yet
    rw [eq_neutral_of_create hv]
    exact storable_neutral a

/-! ## Changes of the table -/

/-- A table for another set is refused before its signals are looked at. -/
theorem setTable_of_actions_ne {table : BindingTable} (h : table.actions ≠ p.actions) :
    p.setTable table = (.error .foreignActionSet, p) := by
  rw [setTable, if_pos h, changing_bind, changing_throw]

/-- A table that was made for the player's own signals is put in as it is. -/
theorem setTable_of_signals_eq {table : BindingTable} (h : table.actions = p.actions)
    (hsignals : table.signals = p.signals) :
    p.setTable table = (.ok (), { p with table }) := by
  rw [setTable, if_neg (not_not_intro h), if_neg (not_not_intro hsignals)]
  rfl

/-- Any other table is moved first, and put in if that can be done. -/
theorem setTable_of_signals_ne {table : BindingTable} (h : table.actions = p.actions)
    (hsignals : table.signals ≠ p.signals) :
    p.setTable table = settled p (table.rebase p.signals).1 fun _ =>
      { p with table := (table.rebase p.signals).2 } := by
  rw [setTable, if_neg (not_not_intro h), if_pos hsignals]
  obtain ⟨answer, moved⟩ := table.rebase p.signals
  cases answer <;> rfl

/-- A player that refuses a table keeps its own one. -/
theorem atomic_setTable (p : Player L) (table : BindingTable) :
    Atomic p (p.setTable table) := by
  by_cases h : table.actions = p.actions
  · by_cases hsignals : table.signals = p.signals
    · rw [setTable_of_signals_eq h hsignals]
      exact fun _ herror => nomatch herror
    · rw [setTable_of_signals_ne h hsignals]
      exact atomic_settled _ _ _
  · rw [setTable_of_actions_ne h]
    exact fun _ _ => rfl

/-- The table of the player is the only thing that is written, and that is left if it is refused. -/
theorem atomic_bind (p : Player L) (a : ActionId) (e : Expr) : Atomic p (p.bind a e) := by
  intro error herror
  show { p with table := (p.table.bind a e).2 } = p
  rw [p.table.atomic_bind a e error herror]

/-- A table that a player takes is for the same actions, and has been moved to its signals if need
    be. -/
theorem setTable_eq_ok {table : BindingTable} (h : p.setTable table = (.ok (), q)) :
    table.actions = p.actions ∧
      ∃ moved, (moved = table ∨ table.rebase p.signals = (.ok (), moved)) ∧
        moved.signals = p.signals ∧ q = { p with table := moved } := by
  by_cases hactions : table.actions = p.actions
  · refine ⟨hactions, ?_⟩
    by_cases hsignals : table.signals = p.signals
    · -- a table for the same signals is taken as it is
      rw [setTable_of_signals_eq hactions hsignals] at h
      exact ⟨table, .inl rfl, hsignals, (Prod.ext_iff.1 h).2.symm⟩
    · -- any other one is moved to the signals of the player
      rw [setTable_of_signals_ne hactions hsignals, settled_eq_ok] at h
      obtain ⟨_, hanswer, hq⟩ := h
      have hmoved : table.rebase p.signals = (.ok (), (table.rebase p.signals).2) :=
        Prod.ext hanswer rfl
      exact ⟨_, .inr hmoved, by rw [(BindingTable.rebase_eq_ok.1 hmoved).2], hq⟩
  · rw [setTable_of_actions_ne hactions] at h
    cases h

/-- A player has bound an action if its table has. -/
theorem bind_eq_ok {e : Expr} (h : p.bind a e = (.ok (), q)) :
    ∃ table, p.table.bind a e = (.ok (), table) ∧ q = { p with table } := by
  obtain ⟨hanswer, hq⟩ := Prod.ext_iff.1 h
  exact ⟨_, Prod.ext hanswer rfl, hq.symm⟩

/-- A player stays well formed, whether it takes the table or not. -/
theorem WellFormed.setTable {table : BindingTable} (h : p.WellFormed) (htable : table.WellFormed) :
    (p.setTable table).2.WellFormed := by
  refine (p.atomic_setTable table).preserves h fun q hq => ?_
  obtain ⟨hactions, moved, hmoved, hsignals, rfl⟩ := setTable_eq_ok hq
  rcases hmoved with rfl | hrebase
  · exact ⟨hactions, hsignals, htable, h.length_cells, h.stored⟩
  · -- a table that is moved to other signals keeps its actions
    have hkept : moved.actions = table.actions := by rw [(BindingTable.rebase_eq_ok.1 hrebase).2]
    have hmoved : moved.WellFormed := by
      have hwf := htable.rebase p.signals
      rwa [hrebase] at hwf
    exact ⟨hkept.trans hactions, hsignals, hmoved, h.length_cells, h.stored⟩

/-- Binding keeps the actions and the signals of the table. -/
theorem WellFormed.bind (h : p.WellFormed) (a : ActionId) (e : Expr) :
    (p.bind a e).2.WellFormed := by
  refine (p.atomic_bind a e).preserves h fun q hq => ?_
  obtain ⟨table, htable, rfl⟩ := bind_eq_ok hq
  -- binding changes the table only, and keeps it well formed
  have hwf : table.WellFormed := by
    have hwf := h.table.bind a e
    rwa [htable] at hwf
  obtain ⟨i, b, -, -, heq⟩ := BindingTable.bind_eq_ok.1 htable
  refine ⟨?_, ?_, hwf, h.length_cells, h.stored⟩
  · rw [heq]
    exact h.actions_eq
  · rw [heq]
    exact h.signals_eq

/-! ## Changes of the cells -/

/-- Changing the listeners of one cell leaves the stored values. -/
theorem state?_modifyCell {f : Cell L → Cell L} (hf : ∀ cell, (f cell).value = cell.value) :
    (p.modifyCell i f).state? a = p.state? a := by
  rw [state?, state?, cell?, cell?, Player.modifyCell]
  cases p.actions.position? a with
  | none => rfl
  | some j =>
    simp only [Option.bind_eq_bind, Option.bind_some, List.getElem?_modify, Option.map_eq_map]
    cases p.cells[j]? with
    | none => rfl
    | some cell =>
      rw [Option.map_some, Option.map_some, Option.map_some, Option.some.injEq]
      -- whether the cell is the changed one or not, its value is the old one
      split
      · exact hf cell
      · rfl

/-- Changing listeners keeps a player well formed. -/
theorem WellFormed.modifyCell {f : Cell L → Cell L} (h : p.WellFormed)
    (hf : ∀ cell, (f cell).value = cell.value) : (p.modifyCell i f).WellFormed where
  actions_eq := h.actions_eq
  signals_eq := h.signals_eq
  table := h.table
  length_cells := by
    show (p.cells.modify i f).length = _
    rw [List.length_modify]
    exact h.length_cells
  stored a v hv := by
    rw [state?_modifyCell hf] at hv
    exact h.stored a v hv

/-- Adding a listener keeps a player well formed, be it refused or not. -/
theorem WellFormed.listen {listener : L} (h : p.WellFormed) :
    (p.listen a listener).2.WellFormed := by
  unfold Player.listen
  split
  · exact h.modifyCell fun _ => rfl
  · exact h

/-- So does removing one. -/
theorem WellFormed.unlisten {id : ListenerId} (h : p.WellFormed) :
    (p.unlisten a id).2.WellFormed := by
  unfold Player.unlisten
  split
  · exact h.modifyCell fun _ => rfl
  · exact h

/-! ## Ticks -/

/-- A well-formed player has a cell for each entry of its table. -/
theorem WellFormed.length_entries (h : p.WellFormed) : p.table.entries.length = p.cells.length := by
  rw [h.table.length_entries, h.actions_eq, h.length_cells]

/-- Each action has a turn. -/
theorem WellFormed.length_turns (h : p.WellFormed) : p.turns.length = p.actions.size := by
  rw [Player.length_turns h.length_entries, h.length_cells]

/-- The turns are those of all actions in evaluation order. -/
theorem WellFormed.map_action_turns (h : p.WellFormed) :
    p.turns.map (·.action) = p.actions.order := by
  -- place by place; a turn takes its action from the entry of its place
  refine List.ext_getElem? fun i => ?_
  rw [List.getElem?_map]
  cases hturn : p.turns[i]? with
  | none =>
    rw [List.getElem?_eq_none_iff, h.length_turns] at hturn
    rw [Option.map_none, List.getElem?_eq_none (by rwa [ActionSet.length_order])]
  | some t =>
    have hentry := (getElem?_turns.1 hturn).2.1
    rw [BindingTable.entries, List.getElem?_zip_eq_some, h.actions_eq] at hentry
    rw [Option.map_some, hentry.1]

/-- What a turn starts from is what the player has for the action of the turn. -/
theorem WellFormed.turn_eq (h : p.WellFormed) (ht : t ∈ p.turns) :
    p.actions.position? t.action = some t.place ∧ p.table.binding? t.action = some t.binding ∧
      p.cell? t.action = some t.cell := by
  obtain ⟨i, hi⟩ := List.getElem?_of_mem ht
  obtain ⟨rfl, hentry, hcell⟩ := getElem?_turns.1 hi
  have horder : p.actions.order[t.place]? = some t.action := by
    rw [← h.map_action_turns, List.getElem?_map, hi, Option.map_some]
  have hposition : p.actions.position? t.action = some t.place := ActionSet.getElem?_order.1 horder
  exact ⟨hposition, BindingTable.mem_entries_iff.1 (List.mem_of_getElem? hentry),
    cell?_eq_some_iff.2 ⟨t.place, hposition, hcell⟩⟩

/-- Every binding has a value of its category, whatever the readings of the tick are. -/
theorem WellFormed.evaluate?_eq_some {b : Binding} {v : Value} (h : p.WellFormed)
    (hreadings : readings.Fits) (hb : p.table.binding? a = some b) (hv : p.state? a = some v) :
    ∃ w, b.expr.evaluate? readings v = some w ∧ w.category = a.category := by
  have hfits := h.table.fits a b hb
  -- the stored value may come from an earlier binding, but it has the category of the action
  have hprevious : v.category = b.category := by rw [(h.stored a v hv).1, hfits.category_eq]
  obtain ⟨w, -, hw, hcategory⟩ := hfits.hasCategory.evaluate hreadings hprevious
  exact ⟨w, hw, hcategory.trans hfits.category_eq⟩

/-- The value of a turn can be stored. -/
theorem WellFormed.storable_value (h : p.WellFormed) (hreadings : readings.Fits)
    (ht : t ∈ p.turns) : Storable t.action (t.value readings) := by
  obtain ⟨-, hb, hcell⟩ := h.turn_eq ht
  obtain ⟨w, hw, hcategory⟩ :=
    h.evaluate?_eq_some hreadings hb (state?_eq_some_iff.2 ⟨t.cell, hcell, rfl⟩)
  rw [Turn.value, Binding.evaluate, hw]
  exact ⟨(Value.category_sanitized w).trans hcategory, Value.isFinite_sanitized w⟩

/-- After its turn an action has a value that can be stored, be it a new one or the old one. -/
theorem WellFormed.storable_settled (h : p.WellFormed) (hreadings : readings.Fits)
    (ht : t ∈ p.turns) : Storable t.action (t.settled readings).value := by
  unfold Turn.settled
  split
  · exact h.storable_value hreadings ht
  · exact h.stored t.action _ (state?_eq_some_iff.2 ⟨t.cell, (h.turn_eq ht).2.2, rfl⟩)

/-- The player after a tick: every cell has had its turn. -/
theorem WellFormed.player_update (h : p.WellFormed) :
    (p.update readings shared).player = { p with cells := p.turns.map (·.settled readings) } := by
  have hall : p.cells.drop p.turns.length = [] := by
    rw [Player.length_turns h.length_entries, List.drop_length]
  rw [update_eq h.length_entries, passAt, during, List.take_length, hall, List.append_nil]

/-- A tick keeps a player well formed if its readings are of the right kinds. -/
theorem WellFormed.update (h : p.WellFormed) (hreadings : readings.Fits) :
    (p.update readings shared).player.WellFormed := by
  rw [h.player_update]
  refine ⟨h.actions_eq, h.signals_eq, h.table, ?_, fun a v hv => ?_⟩
  · show (p.turns.map _).length = _
    rw [List.length_map, h.length_turns]
  · obtain ⟨cell, hcell, rfl⟩ := state?_eq_some_iff.1 hv
    obtain ⟨i, hi, hget⟩ := cell?_eq_some_iff.1 hcell
    rw [List.getElem?_map, Option.map_eq_some_iff] at hget
    obtain ⟨t, ht, rfl⟩ := hget
    have hmem : t ∈ p.turns := List.mem_of_getElem? ht
    -- the turn at the place of `a` is that of `a`
    have hplace := (h.turn_eq hmem).1
    rw [place_eq ht] at hplace
    rw [ActionSet.position?_inj hi hplace]
    exact h.storable_settled hreadings hmem

end InputMap.Player
