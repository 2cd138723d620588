import InputMap.Proofs.Host.Listeners
import InputMap.Proofs.Host.NonInterference

/-!
# The calls for one action of one slot

An operation either leaves the stored value of an action alone and calls nobody for it, or it is a
tick that stores an unequal value and calls everyone who listens to the action, once and with that
value.  Those who listen are the player's own listeners and then those for all players.

## Key results

- `Host.WellFormed.callsFor_update`: the calls of a tick for one action of one slot
- `Host.WellFormed.events_of_not_update`: only ticks call listeners
- `Host.WellFormed.announces`: what an operation does about an action of a slot
-/

namespace InputMap

variable {σ L : Type}

/-! ## One player -/

namespace Player

variable {p q : Player L} {a : ActionId} {i : Nat} {r : Snapshot}
  {shared : List (ListenerList L)}

/-- The calls for an action say so, and show the player that they belong to. -/
theorem mem_callsOf {call : Call L} (h : call ∈ p.callsOf q r shared a) :
    call.action = a ∧ call.player.slot = p.slot := by
  unfold callsOf at h
  split at h
  · dsimp only at h
    split at h
    · exact absurd h List.not_mem_nil
    · obtain ⟨listener, -, rfl⟩ := List.mem_map.1 h
      exact ⟨rfl, rfl⟩
  · exact absurd h List.not_mem_nil

/-- The calls of a tick for one action. -/
theorem WellFormed.filter_calls_update (h : p.WellFormed) (ha : p.actions.position? a = some i) :
    ((p.update r shared).events.filterMap Event.call?).filter (·.action = a) =
      p.callsOf (p.update r shared).player r shared a := by
  rw [h.calls_update, List.filter_flatMap]
  -- an action has one place in the evaluation order, and the calls of other places are not its own
  have hother : ∀ j b, p.actions.order[j]? = some b → j ≠ i →
      (p.callsOf (p.update r shared).player r shared b).filter (·.action = a) = [] := by
    intro j b hj hne
    refine List.filter_eq_nil_iff.2 fun call hcall heq => ?_
    have hab : b = a := (mem_callsOf hcall).1.symm.trans (of_decide_eq_true heq)
    rw [ActionSet.getElem?_order, hab, ha, Option.some.injEq] at hj
    exact hne hj.symm
  rw [List.flatMap_eq_of_getElem? (ActionSet.getElem?_order.2 ha) hother, List.filter_eq_self]
  exact fun call hcall => decide_eq_true (mem_callsOf hcall).1

/-- A call of a tick is for an action of the player. -/
theorem WellFormed.of_mem_calls_update {call : Call L} (h : p.WellFormed)
    (hcall : call ∈ (p.update r shared).events.filterMap Event.call?) :
    call.player.slot = p.slot ∧ ∃ i, p.actions.position? call.action = some i := by
  rw [h.calls_update, List.mem_flatMap] at hcall
  obtain ⟨b, hb, hmem⟩ := hcall
  obtain ⟨haction, hslot⟩ := mem_callsOf hmem
  obtain ⟨i, hi⟩ := List.getElem?_of_mem hb
  exact ⟨hslot, i, by rwa [haction, ← ActionSet.getElem?_order]⟩

end Player

/-- A listener with the handle by which it can be removed. -/
structure Registration (L : Type) where
  /-- The slot of the player that the listener was added for; there is none for all players. -/
  owner? : Option Nat
  id : ListenerId
  listener : L

namespace Host

variable {h : Host σ L} {slot i : Nat} {a : ActionId} {p : Player L} {r : Snapshot}

/-- The listeners of an action that were added for `owner?`, in the order of their calls. -/
def registrations (h : Host σ L) (owner? : Option Nat) (a : ActionId) : List (Registration L) :=
  match h.list? owner? a with
  | some list => list.entries.map fun (id, listener) => ⟨owner?, id, listener⟩
  | none => []

/-- Everyone who listens to an action of the player of a slot: the player's own listeners, and then
    those for all players. -/
def audience (h : Host σ L) (slot : Nat) (a : ActionId) : List (Registration L) :=
  h.registrations (some slot) a ++ h.registrations none a

/-- Who is called for an action of the player of a slot, and with which value. -/
def callsFor (slot : Nat) (a : ActionId) (events : List (Event L)) : List (L × Value) :=
  ((events.filterMap Event.call?).filter fun call =>
    call.player.slot = slot ∧ call.action = a).map fun call => (call.listener, call.value)

/-- A stored value is that of a player and an action of the host. -/
theorem WellFormed.exists_of_state? {v : Value} (h₀ : h.WellFormed)
    (hv : h.state? slot a = some v) :
    slot < h.players.length ∧ ∃ i, h.actions.position? a = some i := by
  obtain ⟨p, hp, hstate⟩ := Option.bind_eq_some_iff.1 hv
  obtain ⟨cell, hcell, -⟩ := Player.state?_eq_some_iff.1 hstate
  obtain ⟨i, hi, -⟩ := Player.cell?_eq_some_iff.1 hcell
  rw [(h₀.owns slot p hp).actions_eq] at hi
  exact ⟨(List.getElem?_eq_some_iff.1 hp).1, i, hi⟩

/-- Each stored value is finite and of its action's category. -/
theorem WellFormed.storable_of_state? {v : Value} (h₀ : h.WellFormed)
    (hv : h.state? slot a = some v) : Player.Storable a v := by
  obtain ⟨p, hp, hstate⟩ := Option.bind_eq_some_iff.1 hv
  exact (h₀.owns slot p hp).wellFormed.stored a v hstate

/-- The stored values of a host are finite, and so equal to themselves. -/
theorem WellFormed.state?_beq_self (h₀ : h.WellFormed) (slot : Nat) (a : ActionId) :
    (h.state? slot a == h.state? slot a) = true := by
  cases hv : h.state? slot a with
  | none => rfl
  | some v =>
    rw [Option.some_beq_some]
    exact Value.beq_self_of_isFinite (h₀.storable_of_state? hv).2

/-- The listeners of an audience are those that a tick calls. -/
theorem map_listener_audience {cell : Cell L} (hp : h.player? slot = some p)
    (hcell : p.cell? a = some cell) (ha : h.actions.position? a = some i) :
    (h.audience slot a).map (·.listener) = Player.listenersAt cell h.shared i := by
  have hown : h.list? (some slot) a = some cell.listeners := by
    rw [list?, hp, Option.bind_some, Player.list?, hcell, Option.map_some]
  have hshared : h.list? none a = h.shared[i]? := by rw [list?, ha, Option.bind_some]
  -- the audience is made of the own listeners and the shared ones, in this order
  rw [audience, registrations, registrations, hown, hshared, List.map_append, List.map_map,
    Player.listenersAt]
  congr 1
  cases h.shared[i]? with
  | none => rfl
  | some list =>
    simp only [List.map_map]
    rfl

variable [Pad σ]

/-! ## A tick -/

/-- The calls of a tick for one action of one slot are the calls in the turn of that action. All
    other players call for other slots, and the other turns of the player for other actions. -/
theorem WellFormed.callsFor_update (h₀ : h.WellFormed) (hp : h.player? slot = some p)
    (hr : h.readings[slot]? = some r) (ha : p.actions.position? a = some i) :
    callsFor slot a h.update.events =
      (p.callsOf (p.update r h.shared).player r h.shared a).map fun call =>
        (call.listener, call.value) := by
  have hown := h₀.owns slot p hp
  have hpass : h.passes[slot]? = some (p.update r h.shared) :=
    getElem?_passes.2 ⟨p, r, hp, hr, rfl⟩
  -- the calls of the other passes are for other slots
  have hother : ∀ j pass, h.passes[j]? = some pass → j ≠ slot →
      (pass.events.filterMap Event.call?).filter (fun call =>
        call.player.slot = slot ∧ call.action = a) = [] := by
    intro j pass hj hne
    obtain ⟨p', r', hp', -, rfl⟩ := getElem?_passes.1 hj
    have hown' := h₀.owns j p' hp'
    refine List.filter_eq_nil_iff.2 fun call hcall heq => ?_
    have hslot := (hown'.wellFormed.of_mem_calls_update hcall).1
    rw [(of_decide_eq_true heq).1, hown'.slot_eq] at hslot
    exact hne hslot.symm
  -- the calls of this pass are all for this slot, so only the action has to be asked
  have hsame : ((p.update r h.shared).events.filterMap Event.call?).filter (fun call =>
        call.player.slot = slot ∧ call.action = a) =
      ((p.update r h.shared).events.filterMap Event.call?).filter (·.action = a) := by
    refine List.filter_congr fun call hcall => ?_
    have hslot := (hown.wellFormed.of_mem_calls_update hcall).1
    rw [hown.slot_eq] at hslot
    simp only [hslot, true_and]
  rw [callsFor, calls_update, List.filter_flatMap, List.flatMap_eq_of_getElem? hpass hother, hsame,
    hown.wellFormed.filter_calls_update ha]

/-- A call is for a player and an action of the host. -/
theorem WellFormed.exists_of_mem_callsFor {call : L × Value} (h₀ : h.WellFormed)
    (hcall : call ∈ callsFor slot a h.update.events) :
    slot < h.players.length ∧ ∃ i, h.actions.position? a = some i := by
  obtain ⟨full, hfull, -⟩ := List.mem_map.1 hcall
  obtain ⟨hmem, hfor⟩ := List.mem_filter.1 hfull
  obtain ⟨hslot, haction⟩ := of_decide_eq_true hfor
  rw [calls_update, List.mem_flatMap] at hmem
  obtain ⟨pass, hpass, hmem⟩ := hmem
  obtain ⟨j, hj⟩ := List.getElem?_of_mem hpass
  obtain ⟨p, r, hp, -, rfl⟩ := getElem?_passes.1 hj
  have hown := h₀.owns j p hp
  obtain ⟨hown', i, hi⟩ := hown.wellFormed.of_mem_calls_update hmem
  -- the call names the slot of the pass that made it, and an action of its player
  rw [hslot, hown.slot_eq] at hown'
  rw [haction, hown.actions_eq] at hi
  subst hown'
  exact ⟨(List.getElem?_eq_some_iff.1 hp).1, i, hi⟩

/-! ## What an operation does about one action -/

/-- What an operation does about an action of the player of a slot.  The stored value stays, and
    nobody is called; or the operation is a tick, and an unequal value is stored, with which
    everyone who listens is called once. -/
inductive Announces (h : Host σ L) (operation : Operation σ L) (slot : Nat) (a : ActionId) :
    Option Value → Prop
  | kept (hstate : (h.perform operation).host.state? slot a = h.state? slot a)
    (hcalls : callsFor slot a (h.perform operation).events = []) :
    Announces h operation slot a none
  | changed {v w : Value} (htick : operation.isUpdate = true) (hbefore : h.state? slot a = some v)
    (hafter : (h.perform operation).host.state? slot a = some w) (hne : (v == w) = false)
    (hcalls : callsFor slot a (h.perform operation).events =
      (h.audience slot a).map fun registration => (registration.listener, w)) :
    Announces h operation slot a (some w)

/-- The stored value of an action after an operation, if it is unequal to the one before. -/
def change? (h : Host σ L) (operation : Operation σ L) (slot : Nat) (a : ActionId) : Option Value :=
  let after := (h.perform operation).host.state? slot a
  if h.state? slot a == after then none else after

/-- Only ticks call listeners. -/
theorem WellFormed.events_of_not_update (h₀ : h.WellFormed) {operation : Operation σ L}
    (hother : operation.isUpdate = false) :
    ∃ notices : List Notice, (h.perform operation).events = notices.map .notice := by
  cases htable : operation.tableSlot? with
  | some slot =>
    have hretabled := h₀.retabled_perform htable
    generalize h.perform operation = performed at hretabled
    cases hretabled with
    | refused notices _ => exact ⟨notices, rfl⟩
    | accepted notices _ _ _ => exact ⟨notices, rfl⟩
  | none =>
    -- what is left but ticks has no events at all
    cases operation with
    | update => cases hother
    | modifyPad f => exact ⟨[], rfl⟩
    | listen slot? b listener =>
      cases slot? with
      | none => exact ⟨[], rfl⟩
      | some slot =>
        simp only [Host.perform]
        split <;> exact ⟨[], rfl⟩
    | unlisten slot? b id =>
      cases slot? with
      | none => exact ⟨[], rfl⟩
      | some slot =>
        simp only [Host.perform]
        split <;> exact ⟨[], rfl⟩
    | _ => cases htable

/-- There is nothing to be announced if the value is the old one. -/
theorem WellFormed.change?_of_eq (h₀ : h.WellFormed) (operation : Operation σ L)
    (hstate : (h.perform operation).host.state? slot a = h.state? slot a) :
    h.change? operation slot a = none := by
  rw [change?, hstate, if_pos (h₀.state?_beq_self slot a)]

/-- A value that is another one is announced as it is. -/
theorem change?_of_ne (operation : Operation σ L) {v w : Value} (hbefore : h.state? slot a = some v)
    (hafter : (h.perform operation).host.state? slot a = some w) (hne : (v == w) = false) :
    h.change? operation slot a = some w := by
  rw [change?, hbefore, hafter, Option.some_beq_some, hne, if_neg Bool.false_ne_true]

/-- The turn of an action at a tick. -/
theorem WellFormed.announces_turn {t : Turn L} (h₀ : h.WellFormed) (hp : h.player? slot = some p)
    (ht : t ∈ p.turns) : h.Announces .update slot t.action (h.change? .update slot t.action) := by
  obtain ⟨r, hr⟩ := exists_readings hp
  have hown := h₀.owns slot p hp
  obtain ⟨hposition, -, hcell⟩ := hown.wellFormed.turn_eq ht
  have hplayer : h.update.host.player? slot = some (p.update r h.shared).player :=
    getElem?_players_update.2 ⟨p, r, hp, hr, rfl⟩
  have hbefore : h.state? slot t.action = some t.cell.value := by
    rw [state?, hp, Option.bind_some, Player.state?, hcell, Option.map_some]
  have hafter : h.update.host.state? slot t.action = some (t.settled r).value := by
    rw [state?, hplayer, Option.bind_some]
    exact hown.wellFormed.state?_update ht
  have hcalls := h₀.callsFor_update hp hr hposition
  rw [hown.wellFormed.callsOf_update ht, Player.turnCalls] at hcalls
  -- whether the turn is a change decides both about the stored value and about the calls
  cases hchange : t.changes r with
  | false =>
    rw [Turn.settled_of_not_changes hchange, ← hbefore] at hafter
    rw [hchange, if_neg Bool.false_ne_true] at hcalls
    rw [h₀.change?_of_eq .update hafter]
    exact .kept hafter hcalls
  | true =>
    -- the stored value is compared from the other side
    have hne : (t.cell.value == t.value r) = false := by
      rw [BEq.comm]
      simpa only [Turn.changes, Bool.not_eq_true'] using hchange
    rw [Turn.settled, if_pos hchange] at hafter
    rw [hown.actions_eq] at hposition
    rw [if_pos hchange, ← map_listener_audience hp hcell hposition, List.map_map,
      List.map_map] at hcalls
    rw [change?_of_ne .update hbefore hafter hne]
    exact .changed rfl hbefore hafter hne hcalls

/-- Without the player or the action there is no value, and there are no calls. -/
theorem WellFormed.announces_of_not_declared (h₀ : h.WellFormed)
    (hnone : ¬(slot < h.players.length ∧ ∃ i, h.actions.position? a = some i)) :
    h.Announces .update slot a (h.change? .update slot a) := by
  have hbefore : h.state? slot a = none := by
    rw [Option.eq_none_iff_forall_ne_some]
    exact fun v hv => hnone (h₀.exists_of_state? hv)
  -- a tick neither adds players nor declares actions
  have hafter : h.update.host.state? slot a = none := by
    rw [Option.eq_none_iff_forall_ne_some]
    intro v hv
    have hexists := h₀.update.exists_of_state? hv
    rw [length_players_update] at hexists
    exact hnone hexists
  have hstate : h.update.host.state? slot a = h.state? slot a := hafter.trans hbefore.symm
  rw [h₀.change?_of_eq .update hstate]
  refine .kept hstate (List.eq_nil_iff_forall_not_mem.2 fun call hcall => ?_)
  exact hnone (h₀.exists_of_mem_callsFor hcall)

/-- A tick announces what has changed, be the action declared or not. -/
theorem WellFormed.announces_update (h₀ : h.WellFormed) (slot : Nat) (a : ActionId) :
    h.Announces .update slot a (h.change? .update slot a) := by
  by_cases hdeclared : slot < h.players.length ∧ ∃ i, h.actions.position? a = some i
  · obtain ⟨hslot, i, hi⟩ := hdeclared
    have hp : h.player? slot = some h.players[slot] := List.getElem?_eq_getElem hslot
    have hown := h₀.owns slot _ hp
    rw [← hown.actions_eq] at hi
    obtain ⟨t, ht, rfl⟩ := hown.wellFormed.exists_turn_of_position hi
    exact h₀.announces_turn hp ht
  · exact h₀.announces_of_not_declared hdeclared

/-- What an operation does about an action of a slot. -/
theorem WellFormed.announces (h₀ : h.WellFormed) {operation : Operation σ L}
    (hadmissible : operation.Admissible) (slot : Nat) (a : ActionId) :
    h.Announces operation slot a (h.change? operation slot a) := by
  rcases h.perform_cases hadmissible with rfl | ⟨hother, hchanged⟩
  · exact h₀.announces_update slot a
  · have hstate := hchanged.state?_eq slot a
    obtain ⟨notices, hnotices⟩ := h₀.events_of_not_update hother
    rw [h₀.change?_of_eq operation hstate]
    refine .kept hstate ?_
    rw [callsFor, hnotices, Event.filterMap_call?_notices]
    rfl

end Host

end InputMap
