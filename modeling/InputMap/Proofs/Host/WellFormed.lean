import InputMap.Pad.Simulated
import InputMap.Proofs.Host.Operation
import InputMap.Proofs.Host.Tick

/-!
# Well-formed hosts

A host keeps one list of shared listeners for each action, and its players are well formed and made
for the host's own actions and signals.  Hosts start well formed.  An operation is a tick or a
change of one part, and either keeps a host well formed, whatever the pad answers.  So each tick has
a value for each binding, and a place in each list for each action.

## Key results

- `Host.WellFormed.perform`: one operation keeps a host well formed
- `Host.Reachable.wellFormed`: hosts are well formed after any operations
-/

namespace InputMap

variable {σ L : Type}

namespace Player

variable {p : Player L} {readings : Snapshot} {shared : List (ListenerList L)}

/-- A tick gives every action its turn. -/
theorem WellFormed.evaluated_update (h : p.WellFormed) :
    (p.update readings shared).evaluated = p.actions.size := by
  rw [update_eq h.length_entries, passAt, List.take_length, h.length_turns]

/-- No turn of a well-formed player tells that a binding had no value. -/
theorem WellFormed.noValue_notMem_update (h : p.WellFormed) (hreadings : readings.Fits)
    (c : Category) : .notice (.noValue c) ∉ (p.update readings shared).events := by
  rw [update_eq h.length_entries, passAt, List.take_length, List.mem_flatMap]
  rintro ⟨t, ht, hmem⟩
  obtain ⟨-, hb, hcell⟩ := h.turn_eq ht
  obtain ⟨w, hw, -⟩ :=
    h.evaluate?_eq_some hreadings hb (state?_eq_some_iff.2 ⟨t.cell, hcell, rfl⟩)
  -- each turn has a value, so only a change can be told
  have hnone : valueNotices t.binding readings t.cell.value = [] := by rw [valueNotices, hw]
  rw [turnEvents, hnone, List.map_nil, List.nil_append] at hmem
  split at hmem
  · simp at hmem
  · exact absurd hmem List.not_mem_nil

end Player

namespace Host

variable {h h' : Host σ L} {slot : Nat} {p q : Player L}

/-- A player in its slot of a host, well formed and made for the host's actions and signals. -/
structure Owns (h : Host σ L) (slot : Nat) (p : Player L) : Prop where
  slot_eq : p.slot = slot
  actions_eq : p.actions = h.actions
  signals_eq : p.signals = h.signals
  wellFormed : p.WellFormed

/-- A host has a list of shared listeners for each action, and owns its players. -/
structure WellFormed (h : Host σ L) : Prop where
  length_shared : h.shared.length = h.actions.size
  owns : ∀ slot p, h.players[slot]? = some p → h.Owns slot p

/-- A new host has one player for each slot, with every action at rest. -/
theorem wellFormed_create [Pad σ] (actions : ActionSet) (pad : σ) (settings : Settings) :
    (create actions pad settings : Host σ L).WellFormed where
  length_shared := by
    show (actions.order.map _).length = _
    rw [List.length_map, ActionSet.length_order]
    rfl
  owns slot p hp := by
    rw [create, List.getElem?_map] at hp
    -- the player of a slot is made with the number of the slot
    obtain ⟨place, hplace, rfl⟩ := Option.map_eq_some_iff.1 hp
    obtain ⟨_, hget⟩ := List.getElem?_eq_some_iff.1 hplace
    rw [List.getElem_range] at hget
    subst hget
    exact ⟨rfl, rfl, rfl, Player.wellFormed_create (BindingTable.wellFormed_neutral _ _)⟩

/-- A host stays well formed if a player that belongs to a slot is put there. -/
theorem WellFormed.setPlayer (h₀ : h.WellFormed) (hq : h.Owns slot q) :
    (h.setPlayer slot q).WellFormed where
  length_shared := h₀.length_shared
  owns slot' p hp := by
    -- `p` is the new player, or it was there before
    have howns : h.Owns slot' p := by
      rw [Host.setPlayer, List.getElem?_set] at hp
      split at hp
      · rename_i heq
        subst heq
        split at hp
        · cases hp
          exact hq
        · cases hp
      · exact h₀.owns slot' p hp
    exact ⟨howns.slot_eq, howns.actions_eq, howns.signals_eq, howns.wellFormed⟩

/-- A player that is changed still belongs to its slot. -/
theorem Owns.changed (hp : h.Owns slot p) (hq : p.Changed q) : h.Owns slot q := by
  obtain ⟨hslot, hactions, hsignals⟩ := hq.frame
  exact ⟨hslot.trans hp.slot_eq, hactions.trans hp.actions_eq, hsignals.trans hp.signals_eq,
    hq.wellFormed hp.wellFormed⟩

/-- No change spoils a host. -/
theorem WellFormed.changed (h₀ : h.WellFormed) (hchanged : h.Changed h') : h'.WellFormed := by
  cases hchanged with
  | refl => exact h₀
  | player hp hq => exact h₀.setPlayer ((h₀.owns _ _ hp).changed hq)
  -- the players are the old ones in the other two cases
  | shared hlength =>
    exact ⟨hlength.trans h₀.length_shared, fun slot p hp =>
      let ⟨hslot, hactions, hsignals, hwf⟩ := h₀.owns slot p hp
      ⟨hslot, hactions, hsignals, hwf⟩⟩
  | pad f =>
    exact ⟨h₀.length_shared, fun slot p hp =>
      let ⟨hslot, hactions, hsignals, hwf⟩ := h₀.owns slot p hp
      ⟨hslot, hactions, hsignals, hwf⟩⟩

/-- Nor does a tick, since it stores finite values of the right category. -/
theorem WellFormed.update [Pad σ] (h₀ : h.WellFormed) : h.update.host.WellFormed where
  length_shared := h₀.length_shared
  owns slot q hq := by
    obtain ⟨p, readings, hp, hreadings, rfl⟩ := getElem?_players_update.1 hq
    obtain ⟨hslot, hactions, hsignals, hwf⟩ := h₀.owns slot p hp
    have hfits : readings.Fits := fits_of_mem_readings (List.mem_of_getElem? hreadings)
    -- a tick changes nothing but the cells
    have hupdated : (p.update readings h.shared).player.WellFormed := hwf.update hfits
    rw [hwf.player_update] at hupdated ⊢
    exact ⟨hslot, hactions, hsignals, hupdated⟩

/-- One operation keeps a host well formed. -/
theorem WellFormed.perform [Pad σ] {operation : Operation σ L} (h₀ : h.WellFormed)
    (hadmissible : operation.Admissible) : (h.perform operation).host.WellFormed := by
  rcases h.perform_cases hadmissible with rfl | ⟨-, hchanged⟩
  · exact h₀.update
  · exact h₀.changed hchanged

/-- A session keeps a host well formed. -/
theorem WellFormed.run [Pad σ] {session : List (Operation σ L)} (h₀ : h.WellFormed)
    (hsession : ∀ operation ∈ session, operation.Admissible) : (h.run session).WellFormed := by
  induction session generalizing h with
  | nil => exact h₀
  | cons operation session ih =>
    obtain ⟨hfirst, hlater⟩ := List.forall_mem_cons.1 hsession
    exact ih (h₀.perform hfirst) hlater

/-- So a host is well formed after anything that may have happened to it. -/
theorem Reachable.wellFormed [Pad σ] (hreach : h.Reachable) : h.WellFormed := by
  induction hreach with
  | create actions pad settings => exact wellFormed_create actions pad settings
  | perform _ hadmissible ih => exact ih.perform hadmissible

/-- A tick of a reachable host has all it needs.  The host is well formed, every binding has a value
    of its action's category on the readings of its slot, so that the tick never tells of a binding
    without one, every player gives each action its turn, and each action has its place in every
    list that is looked up by place. -/
theorem Reachable.update_total [Pad σ] (hreach : h.Reachable) :
    h.WellFormed ∧
    (∀ (slot : Nat) (p : Player L), h.players[slot]? = some p →
      ∃ readings, h.readings[slot]? = some readings ∧
        h.update.host.players[slot]? = some (p.update readings h.shared).player ∧
        (p.update readings h.shared).evaluated = h.actions.size ∧
        ∀ a b v, p.table.binding? a = some b → p.state? a = some v →
          ∃ w, b.expr.evaluate? readings v = some w ∧ w.category = a.category) ∧
    (∀ c, .notice (.noValue c) ∉ h.update.events) ∧
    ∀ a i, h.actions.position? a = some i →
      i < h.shared.length ∧
        ∀ p ∈ h.players, i < p.table.bindings.length ∧ i < p.cells.length := by
  have hwf : h.WellFormed := hreach.wellFormed
  refine ⟨hwf, fun slot p hp => ?_, fun c hmem => ?_, fun a i hi => ?_⟩
  · -- the pass of one slot
    obtain ⟨-, hactions, -, hplayer⟩ := hwf.owns slot p hp
    obtain ⟨readings, hreadings⟩ := exists_readings hp
    have hfits : readings.Fits := fits_of_mem_readings (List.mem_of_getElem? hreadings)
    have hpass := getElem?_passes.2 ⟨p, readings, hp, hreadings, rfl⟩
    refine ⟨readings, hreadings, ?_, ?_, fun a b v => hplayer.evaluate?_eq_some hfits⟩
    · rw [players_update, List.getElem?_map, hpass, Option.map_some]
    · rw [hplayer.evaluated_update, hactions]
  · -- such a notice would come from the pass of one slot
    obtain ⟨pass, hpass, hnotice⟩ := noValue_mem_update hmem
    obtain ⟨slot, hslot⟩ := List.getElem?_of_mem hpass
    obtain ⟨p, readings, hp, hreadings, rfl⟩ := getElem?_passes.1 hslot
    have hfits : readings.Fits := fits_of_mem_readings (List.mem_of_getElem? hreadings)
    exact (hwf.owns slot p hp).wellFormed.noValue_notMem_update hfits c hnotice
  · -- all lists have the length of the list of actions
    have hlt : i < h.actions.size := ActionSet.position?_lt_size hi
    refine ⟨by rwa [hwf.length_shared], fun p hp => ?_⟩
    obtain ⟨slot, hslot⟩ := List.getElem?_of_mem hp
    obtain ⟨-, hactions, -, hplayer⟩ := hwf.owns slot p hslot
    rw [hplayer.table.length_bindings, hplayer.actions_eq, hplayer.length_cells, hactions]
    exact ⟨hlt, hlt⟩

/-- An action that adds the largest number to its stored value at each tick: the sum overflows, and
    the stored value stays finite. -/
theorem update_total_of_overflow :
    let grow : ActionId := ⟨.analog1, 0, 0⟩
    let h : Host SimulatedPad String := (create ⟨0, [], ["grow"], []⟩ (.create 1 .all) .default).run
      [.bind 0 grow (.add .previous (.constant (.scalar largest))), .update, .update]
    h.Reachable ∧ h.WellFormed ∧ (∀ c, .notice (.noValue c) ∉ h.update.events) ∧
      h.players.map (·.state? grow) = [some (.scalar largest)] := by
  intro grow h
  have hreach : h.Reachable := (Reachable.create _ _ _).run (by simp [Operation.Admissible])
  obtain ⟨hwf, -, hevents, -⟩ := Reachable.update_total hreach
  exact ⟨hreach, hwf, hevents, by decide +kernel⟩

end Host

end InputMap
