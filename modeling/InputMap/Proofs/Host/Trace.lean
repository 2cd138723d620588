import InputMap.Proofs.Host.WellFormed
import InputMap.Proofs.Player.Trace

/-!
# The calls of a tick

A tick lets the players have their passes slot by slot.  So its calls are those of the players, one
after the other, and its counts are sums over the players.  The number of a tick is the number of
ticks so far, whatever else has been done to the host in between.

## Key results

- `Host.tick_run`: a session counts its ticks
- `Host.WellFormed.calls_eq`: the calls of a tick
- `Host.WellFormed.report_calls`, `Host.WellFormed.report_changes`: the counts of its report
-/

namespace InputMap.Host

variable {σ L : Type} {h h' : Host σ L}

/-! ## Counts -/

/-- A total over passes that each count a list. -/
theorem total_map_eq_length {α β : Type} {count : Pass L → Nat} {pass : β → Pass L}
    {list : β → List α} {slots : List β}
    (hcount : ∀ slot ∈ slots, count (pass slot) = (list slot).length) :
    total count (slots.map pass) = (slots.flatMap list).length := by
  induction slots with
  | nil => rfl
  | cons slot rest ih =>
    have hrest := ih fun later hlater => hcount later (List.mem_cons_of_mem _ hlater)
    rw [List.flatMap_cons, List.length_append, ← hrest, ← hcount slot List.mem_cons_self]
    rfl

/-- Nothing but a tick changes the number of ticks. -/
theorem Changed.tick_eq (hchanged : h.Changed h') : h'.tick = h.tick := by
  cases hchanged <;> rfl

/-- A session counts its ticks. -/
theorem tick_run [Pad σ] {session : List (Operation σ L)}
    (hsession : ∀ operation ∈ session, operation.Admissible) (h : Host σ L) :
    (h.run session).tick = h.tick + session.countP (·.isUpdate) := by
  -- on the session; an operation counts as one tick, or leaves the number of ticks
  induction session generalizing h with
  | nil => rfl
  | cons operation session ih =>
    have hfirst : operation.Admissible := hsession operation List.mem_cons_self
    have hrest := ih (fun later hlater => hsession later (List.mem_cons_of_mem _ hlater))
      (h.perform operation).host
    rw [run_cons, hrest]
    rcases h.perform_cases hfirst with rfl | ⟨hother, hchanged⟩
    · rw [List.countP_cons_of_pos rfl]
      show h.tick + 1 + _ = _
      omega
    · rw [List.countP_cons_of_neg (by rw [hother]; exact Bool.false_ne_true), hchanged.tick_eq]

/-! ## The tick, slot by slot -/

/-- The calls of a tick from `h` to `after`: player by player, and action by action. -/
def callsTo [Pad σ] (h after : Host σ L) : List (Call L) :=
  ((h.players.zip h.readings).zip after.players).flatMap fun ((p, readings), q) =>
    h.actions.order.flatMap (p.callsOf q readings h.shared)

/-- The actions of all players whose stored value differs between two hosts, with their slots. -/
def changesTo (h after : Host σ L) : List (Nat × ActionId) :=
  (h.players.zip after.players).flatMap fun (p, q) =>
    (h.actions.order.filter fun a => p.state? a != q.state? a).map fun a => (p.slot, a)

/-- The players stand in the order of their slots. -/
theorem WellFormed.map_slot (h₀ : h.WellFormed) :
    h.players.map (·.slot) = List.range h.players.length := by
  refine List.ext_getElem (by rw [List.length_map, List.length_range]) fun slot hslot _ => ?_
  rw [List.length_map] at hslot
  rw [List.getElem_map, List.getElem_range]
  exact (h₀.owns slot _ (List.getElem?_eq_getElem hslot)).slot_eq

variable [Pad σ]

/-- The players' parts of a tick, with the readings that each of them has. -/
theorem passes_eq (h : Host σ L) :
    h.passes = (h.players.zip h.readings).map fun (p, readings) => p.update readings h.shared := by
  rw [List.map_zip_eq_zipWith]
  rfl

/-- The players after a tick. -/
theorem players_update_eq (h : Host σ L) :
    h.update.host.players =
      (h.players.zip h.readings).map fun (p, readings) => (p.update readings h.shared).player := by
  rw [players_update, passes_eq, List.map_map]
  rfl

/-- Each player that takes part is well formed and has the host's actions. -/
theorem WellFormed.of_mem_zip {p : Player L} {readings : Snapshot} (h₀ : h.WellFormed)
    (hmem : (p, readings) ∈ h.players.zip h.readings) : p.WellFormed ∧ p.actions = h.actions := by
  obtain ⟨slot, hslot⟩ := List.getElem?_of_mem (List.of_mem_zip hmem).1
  have howns := h₀.owns slot p hslot
  exact ⟨howns.wellFormed, howns.actions_eq⟩

/-- The calls of a tick, one player after the other, are those that the states before and after call
    for. -/
theorem WellFormed.calls_eq (h₀ : h.WellFormed) :
    h.update.events.filterMap Event.call? = h.callsTo h.update.host := by
  have hzip : (h.players.zip h.readings).zip h.update.host.players =
      (h.players.zip h.readings).map fun (p, readings) =>
        ((p, readings), (p.update readings h.shared).player) := by
    -- the players after the tick are a function of the players and readings before it
    have hself := List.zip_map' (f := id) (l := h.players.zip h.readings)
      (g := fun (p, readings) => (p.update readings h.shared).player)
    rwa [List.map_id, ← players_update_eq] at hself
  rw [calls_update, passes_eq, callsTo, hzip, List.flatMap_map, List.flatMap_map, List.flatMap_def,
    List.flatMap_def]
  refine congrArg _ (List.map_congr_left fun ⟨p, readings⟩ hmem => ?_)
  obtain ⟨hp, hactions⟩ := h₀.of_mem_zip hmem
  rw [← hactions]
  exact hp.calls_update

/-- The report counts the calls that have been made. -/
theorem WellFormed.report_calls (h₀ : h.WellFormed) :
    h.update.report.calls = (h.update.events.filterMap Event.call?).length := by
  rw [calls_update, passes_eq, List.flatMap_map]
  show total (·.calls) h.passes = _
  rw [passes_eq]
  refine total_map_eq_length fun ⟨p, readings⟩ hmem => ?_
  exact (h₀.of_mem_zip hmem).1.length_calls_update

/-- It counts the actions whose value is another one than before. -/
theorem WellFormed.report_changes (h₀ : h.WellFormed) :
    h.update.report.changes = (h.changesTo h.update.host).length := by
  -- each player has readings, so none is lost when they are put side by side
  have hzip : h.players.zip h.update.host.players =
      (h.players.zip h.readings).map fun (p, readings) =>
        (p, (p.update readings h.shared).player) := by
    have hfst := List.zip_map' (f := Prod.fst) (l := h.players.zip h.readings)
      (g := fun (p, readings) => (p.update readings h.shared).player)
    rwa [List.map_fst_zip (Nat.le_of_eq h.length_readings.symm), ← players_update_eq] at hfst
  rw [changesTo, hzip, List.flatMap_map]
  show total (·.changes) h.passes = _
  rw [passes_eq]
  refine total_map_eq_length fun ⟨p, readings⟩ hmem => ?_
  obtain ⟨hp, hactions⟩ := h₀.of_mem_zip hmem
  rw [List.length_map, ← List.countP_eq_length_filter, ← hactions]
  exact hp.changes_update

/-- A listener of the action at the place `i` sees the new values up to that place, and the old ones
    from there on. -/
theorem WellFormed.state?_between {slot i j : Nat} {p q : Player L} {a b : ActionId}
    (h₀ : h.WellFormed) (hp : h.players[slot]? = some p)
    (hq : h.update.host.players[slot]? = some q) (ha : h.actions.position? a = some i)
    (hb : h.actions.position? b = some j) :
    (p.between q i).state? b = if j ≤ i then q.state? b else p.state? b := by
  obtain ⟨-, hactions, -, hplayer⟩ := h₀.owns slot p hp
  rw [← hactions] at ha hb
  obtain ⟨p', readings, hp', -, rfl⟩ := getElem?_players_update.1 hq
  cases hp.symm.trans hp'
  exact hplayer.state?_between ha hb

/-- The tick after any session.  Its calls are those of the players in the order of their slots, and
    of the actions in evaluation order.  A listener sees the actions up to its own with their new
    values, and later ones with their old values.  The report has the number of the tick, the number
    of actions of all players whose stored value has changed, and the number of calls. -/
theorem trace_update (actions : ActionSet) (pad : σ) (settings : Settings)
    {session : List (Operation σ L)} (hsession : ∀ operation ∈ session, operation.Admissible) :
    let h : Host σ L := (create actions pad settings).run session
    let after := h.update.host
    (h.players.map (·.slot) = List.range h.players.length ∧
      h.readings.length = h.players.length ∧ after.players.length = h.players.length) ∧
    h.update.events.filterMap Event.call? = h.callsTo after ∧
    (∀ (slot : Nat) (p q : Player L), h.players[slot]? = some p → after.players[slot]? = some q →
      ∀ a b i j, h.actions.position? a = some i → h.actions.position? b = some j →
        (p.between q i).state? b = if j ≤ i then q.state? b else p.state? b) ∧
    h.update.report =
      ⟨session.countP (·.isUpdate) + 1, (h.changesTo after).length, (h.callsTo after).length⟩ := by
  intro h after
  have h₀ : h.WellFormed := ((Reachable.create actions pad settings).run hsession).wellFormed
  -- the number of the tick counts all ticks of the session
  have htick : h.tick = session.countP (·.isUpdate) := by
    rw [tick_run hsession]
    exact Nat.zero_add _
  refine ⟨⟨h₀.map_slot, h.length_readings, ?_⟩, h₀.calls_eq, ?_, ?_⟩
  · rw [players_update_eq, List.length_map, List.length_zip, h.length_readings, Nat.min_self]
  · intro slot p q hp hq a b i j ha hb
    exact h₀.state?_between hp hq ha hb
  · rw [← h₀.report_changes, ← h₀.calls_eq, ← h₀.report_calls, ← htick]
    rfl

/-- A host with one slot and one action on a button that is held: its listeners are called, the
    player's own one first. -/
theorem trace_update_of_button :
    let jump : ActionId := ⟨.digital, 0, 0⟩
    let session : List (Operation SimulatedPad String) :=
      [.bind 0 jump (.input (.button .faceDown)), .listen none jump "shared",
        .listen (some 0) jump "own", .modifyPad (·.set 0 (.button .faceDown) true)]
    let h := (create ⟨0, ["jump"], [], []⟩ (.create 1 .all) .default).run session
    (∀ operation ∈ session, operation.Admissible) ∧
      h.update.events.filterMap Event.call? = h.callsTo h.update.host ∧
        (h.callsTo h.update.host).map (·.listener) = ["own", "shared"] := by
  intro jump session h
  have hsession : ∀ operation ∈ session, operation.Admissible := by
    simp [session, Operation.Admissible]
  exact ⟨hsession, (trace_update _ _ _ hsession).2.1, by decide⟩

end InputMap.Host
