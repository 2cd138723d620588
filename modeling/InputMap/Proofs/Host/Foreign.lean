import InputMap.Pad.Simulated
import InputMap.Proofs.ActionSet.Builders
import InputMap.Proofs.BindingTable.Placing
import InputMap.Proofs.Host.WellFormed

/-!
# Actions of another set

An action remembers the set that declared it.  Its category and its number may be those of a local
action, and both sets may look the same; still a table, a player and a host over one set take no
action of another set for one of their own.  All of them look an action up by its place, so that it
comes down to one fact: an action of another set has none.  That two sets are not taken for each
other is up to the counter, which gives a new number to each builder.

## Key results

- `ActionSet.ignores_of_ne`, `BindingTable.ignores_of_ne`, `Player.ignores_of_ne`,
  `Host.ignores_of_ne`: what each of the parts answers for an action of another set
- `Host.Reachable.ignores_handedOut`: two builders, and whatever is made with their sets
-/

namespace InputMap

variable {σ L : Type} {a : ActionId}

/-! ## Sets -/

namespace ActionSet

/-- A set that knows nothing of an action. -/
structure Ignores (actions : ActionSet) (a : ActionId) : Prop where
  contains_eq : actions.contains a = false
  position?_eq : actions.position? a = none
  name?_eq : actions.name? a = none

/-- The number of the set is asked first, so that category and number of the action do not
    matter. -/
theorem ignores_of_ne {actions : ActionSet} (h : a.set ≠ actions.id) : actions.Ignores a := by
  have hcontains : actions.contains a = false := by
    rw [← Bool.not_eq_true, contains_eq_true_iff]
    exact fun hlocal => h hlocal.1
  refine ⟨hcontains, ?_, ?_⟩
  · rw [position?, hcontains, if_neg Bool.false_ne_true]
  · rw [name?, hcontains, if_neg Bool.false_ne_true]

end ActionSet

/-! ## Tables -/

namespace BindingTable

variable {t : BindingTable} {e : Expr} {front back : List (ActionId × Expr)}

/-- A table that has nothing for an action, refuses each change of its binding by the category and
    the number of the action, and is left as it is. -/
structure Ignores (t : BindingTable) (a : ActionId) : Prop where
  binding?_eq : t.binding? a = none
  bind_eq : ∀ e, t.bind a e = (.error (.unknownAction a.category a.index), t)
  unbind_eq : t.unbind a = (.error (.unknownAction a.category a.index), t)
  /-- What stands in front of the action in a list can be installed. -/
  install_eq : ∀ front e back, t.Accepts front →
    t.install (front ++ (a, e) :: back) = (.error (.unknownAction a.category a.index), t)

/-- There is no place to be had for the action. -/
theorem position_of_ignores (h : t.actions.Ignores a) :
    t.position a = .error (.unknownAction a.category a.index) := by
  rw [position, h.position?_eq]

/-- So the expression is not even looked at. -/
theorem check_of_ignores (h : t.actions.Ignores a) (e : Expr) :
    t.check a e = .error (.unknownAction a.category a.index) := by
  rw [check, position_of_ignores h]
  rfl

/-- The action is met when the front has been placed. -/
theorem Accepts.install_append_of_ignores (hfront : t.Accepts front) (h : t.actions.Ignores a)
    (e : Expr) (back : List (ActionId × Expr)) :
    t.install (front ++ (a, e) :: back) = (.error (.unknownAction a.category a.index), t) := by
  -- what stands in front belongs to the table, so that the action is not refused as a second one
  have hnew : a ∉ front.map (·.1) := fun hseen =>
    Bool.false_ne_true (h.contains_eq.symm.trans (hfront.contains hseen))
  exact hfront.install_append_of_offends (.refused hnew (check_of_ignores h e)) back

/-- All changes of a binding ask for the place of the action. -/
theorem ignores_of_ne (h : a.set ≠ t.actions.id) : t.Ignores a := by
  have hactions : t.actions.Ignores a := ActionSet.ignores_of_ne h
  refine ⟨?_, fun e => ?_, ?_, fun front e back hfront => ?_⟩
  · rw [binding?, hactions.position?_eq]
    rfl
  · rw [bind_eq, check_of_ignores hactions]
    rfl
  · rw [unbind_eq, position_of_ignores hactions]
    rfl
  · exact hfront.install_append_of_ignores hactions e back

end BindingTable

/-! ## Players -/

namespace Player

variable {p : Player L} {t : BindingTable}

/-- A player that has nothing for an action, and stays as it is whatever is asked of it. -/
structure Ignores (p : Player L) (a : ActionId) : Prop where
  state?_eq : p.state? a = none
  digital?_eq : p.digital? a = none
  analog1?_eq : p.analog1? a = none
  analog2?_eq : p.analog2? a = none
  listenerCount?_eq : p.listenerCount? a = none
  listen_eq : ∀ listener, p.listen a listener = (none, p)
  unlisten_eq : ∀ id, p.unlisten a id = (false, p)
  bind_eq : ∀ e, p.bind a e = (.error (.unknownAction a.category a.index), p)

/-- A player finds the cell and the binding of an action by its place, and has none for this one. -/
theorem WellFormed.ignores_of_ne (hp : p.WellFormed) (h : a.set ≠ p.actions.id) : p.Ignores a := by
  have hactions : p.actions.Ignores a := ActionSet.ignores_of_ne h
  have htable : p.table.Ignores a := BindingTable.ignores_of_ne (by rwa [hp.actions_eq])
  -- without a place in the set there is no cell either, and so no value
  have hcell : p.cell? a = none := by
    rw [cell?, hactions.position?_eq]
    rfl
  have hstate : p.state? a = none := by rw [state?, hcell, Option.map_none]
  refine ⟨hstate, ?_, ?_, ?_, ?_, fun listener => ?_, fun id => ?_, fun e => ?_⟩
  · rw [digital?, hstate, Option.bind_none]
  · rw [analog1?, hstate, Option.bind_none]
  · rw [analog2?, hstate, Option.bind_none]
  · rw [listenerCount?, hcell, Option.map_none]
  · simp only [Player.listen, hactions.position?_eq]
  · simp only [Player.unlisten, hactions.position?_eq]
  · rw [Player.bind, htable.bind_eq]

/-- A player that refuses a table, stays as it is, and does not come to the table's signals: the one
    notice is that the table is for another set. -/
structure Refuses (p : Player L) (t : BindingTable) : Prop where
  setTable_eq : p.setTable t = (.error .foreignActionSet, p)
  setTableNotices_eq : p.setTableNotices t = [.playerTableForeign p.slot]

/-- Tables for another set are told apart by the numbers of the sets, even if all names are the
    same. -/
theorem refuses_of_ne (h : t.actions.id ≠ p.actions.id) : p.Refuses t := by
  have hactions : t.actions ≠ p.actions := fun heq => h (congrArg ActionSet.id heq)
  exact ⟨setTable_of_actions_ne hactions, by rw [setTableNotices, if_pos hactions]⟩

end Player

/-! ## Hosts -/

/-- The action that an operation names. -/
def Operation.action? : Operation σ L → Option ActionId
  | .bind _ a _ | .bindPlayer _ a _ | .listen _ a _ | .unlisten _ a _ => some a
  | _ => none

/-- The table that an operation brings. -/
def Operation.table? : Operation σ L → Option BindingTable
  | .configure _ t | .configurePlayer _ t => some t
  | _ => none

namespace Host

variable {h : Host σ L} {t : BindingTable} {slot : Nat}

/-- If the player stays as it is, the host does. -/
theorem modifyPlayer_eq_self {f : Player L → Except BindError Unit × Player L}
    (hf : ∀ p, h.player? slot = some p → (f p).2 = p) : (h.modifyPlayer slot f).2 = h := by
  cases hp : h.player? slot with
  | none => rw [modifyPlayer_of_none hp]
  | some p =>
    rw [modifyPlayer_of_some hp, hf p hp]
    exact setPlayer_self hp

/-- What leaves the player of a slot leaves the host. -/
theorem changePlayer_eq_self {notices : Player L → List Notice}
    {f : Player L → Except BindError Unit × Player L}
    (hf : ∀ p, h.player? slot = some p → (f p).2 = p) :
    (h.changePlayer slot notices f).host = h := by
  rw [host_changePlayer]
  exact modifyPlayer_eq_self hf

variable [Pad σ]

/-- A host that has nothing for an action, and stays as it is whatever is asked of it. -/
structure Ignores (h : Host σ L) (a : ActionId) : Prop where
  listen_eq : ∀ listener, h.listen a listener = (none, h)
  unlisten_eq : ∀ id, h.unlisten a id = (false, h)
  bind_eq : ∀ slot p e, h.player? slot = some p →
    h.bind slot a e = (.error (.bind (.unknownAction a.category a.index)), h)
  player : ∀ slot p, h.player? slot = some p → p.Ignores a
  perform_eq : ∀ operation : Operation σ L, operation.action? = some a →
    (h.perform operation).host = h

/-- A host that refuses a table, and stays as it is. -/
structure Refuses (h : Host σ L) (t : BindingTable) : Prop where
  configure_eq : ∀ slot p, h.player? slot = some p →
    h.configure slot t = (.error (.bind .foreignActionSet), h)
  player : ∀ slot p, h.player? slot = some p → p.Refuses t
  perform_eq : ∀ operation : Operation σ L, operation.table? = some t →
    (h.perform operation).host = h

/-- A host asks its own set or one of its players, and all of them have the same set. So the action
    is unknown wherever it is asked for, and no operation that names it does anything. -/
theorem WellFormed.ignores_of_ne (h₀ : h.WellFormed) (ha : a.set ≠ h.actions.id) :
    h.Ignores a := by
  have hactions : h.actions.Ignores a := ActionSet.ignores_of_ne ha
  -- every player is over the set of the host
  have hplayer : ∀ slot p, h.player? slot = some p → p.Ignores a := by
    intro slot p hp
    have howns := h₀.owns slot p hp
    exact howns.wellFormed.ignores_of_ne (by rwa [howns.actions_eq])
  have hlisten : ∀ listener, h.listen a listener = (none, h) := by
    intro listener
    simp only [Host.listen, hactions.position?_eq]
  have hunlisten : ∀ id, h.unlisten a id = (false, h) := by
    intro id
    simp only [Host.unlisten, hactions.position?_eq]
  refine ⟨hlisten, hunlisten, fun slot p e hp => ?_, hplayer, fun operation hoperation => ?_⟩
  · -- the player is put back as it was
    rw [Host.bind, modifyPlayer_of_some hp, (hplayer slot p hp).bind_eq, setPlayer_self hp]
    rfl
  -- each operation that names an action asks the host or one player, and none of them changes
  cases operation with
  | bind slot b e =>
    cases hoperation
    exact modifyPlayer_eq_self fun p hp =>
      congrArg Prod.snd ((hplayer slot p hp).bind_eq e)
  | bindPlayer slot b e =>
    cases hoperation
    exact changePlayer_eq_self fun p hp =>
      congrArg Prod.snd ((hplayer slot p hp).bind_eq e)
  | listen slot? b listener =>
    cases hoperation
    cases slot? with
    | none => simp only [Host.perform, hlisten]
    | some slot =>
      simp only [Host.perform]
      split
      · rfl
      · rename_i p hp
        rw [(hplayer slot p hp).listen_eq]
        exact setPlayer_self hp
  | unlisten slot? b id =>
    cases hoperation
    cases slot? with
    | none => simp only [Host.perform, hunlisten]
    | some slot =>
      simp only [Host.perform]
      split
      · rfl
      · rename_i p hp
        rw [(hplayer slot p hp).unlisten_eq]
        exact setPlayer_self hp
  | _ => cases hoperation

/-- All players of a host have the host's set, and refuse a table for another one. -/
theorem WellFormed.refuses_of_ne (h₀ : h.WellFormed) (ht : t.actions.id ≠ h.actions.id) :
    h.Refuses t := by
  have hplayer : ∀ slot p, h.player? slot = some p → p.Refuses t := by
    intro slot p hp
    exact Player.refuses_of_ne (by rwa [(h₀.owns slot p hp).actions_eq])
  refine ⟨fun slot p hp => ?_, hplayer, fun operation hoperation => ?_⟩
  · rw [configure, modifyPlayer_of_some hp, (hplayer slot p hp).setTable_eq, setPlayer_self hp]
    rfl
  -- only two operations bring a table
  cases operation with
  | configure slot u =>
    cases hoperation
    exact modifyPlayer_eq_self fun p hp =>
      congrArg Prod.snd (hplayer slot p hp).setTable_eq
  | configurePlayer slot u =>
    cases hoperation
    exact changePlayer_eq_self fun p hp =>
      congrArg Prod.snd (hplayer slot p hp).setTable_eq
  | _ => exact nomatch hoperation

/-- Two builders of a program, whatever has been declared with them and with any others, and in
    whatever order.  An action that one of them has handed out, or that its set knows in the end, is
    nothing to the set of the other one, nor to any table, host or player over that set, and a table
    over the set of the one is refused by every host and player over the set of the other.  All of
    them are left as they are. -/
theorem Reachable.ignores_handedOut {steps : List BuilderStep} {i j : Nat}
    {ours theirs : ActionSet} (hours : (Builders.start.run steps).sets[i]? = some ours)
    (htheirs : (Builders.start.run steps).sets[j]? = some theirs) (hij : i ≠ j) :
    (∀ a, a ∈ Builders.start.handedOut j steps ∨ theirs.contains a = true →
      ours.Ignores a ∧
      (∀ t : BindingTable, t.Reachable → t.actions = ours → t.Ignores a) ∧
      (∀ h : Host σ L, h.Reachable → h.actions = ours → h.Ignores a) ∧
      (BindError.unknownAction a.category a.index).message = "Unknown action: " ++ a.text) ∧
    ∀ t : BindingTable, t.actions = theirs →
      ∀ h : Host σ L, h.Reachable → h.actions = ours → h.Refuses t := by
  -- the two builders have drawn different numbers
  have hne : theirs.id ≠ ours.id := (Builders.id_ne_of_ne hours htheirs hij).symm
  constructor
  · intro a ha
    have hset : a.set ≠ ours.id := by
      rcases ha with ha | ha
      · rw [Builders.set_of_mem_handedOut_run htheirs ha]
        exact hne
      · rw [(ActionSet.contains_eq_true_iff.1 ha).1]
        exact hne
    refine ⟨ActionSet.ignores_of_ne hset, fun t _ ht => ?_, fun h hreach hactions => ?_, rfl⟩
    · exact BindingTable.ignores_of_ne (by rwa [ht])
    · exact hreach.wellFormed.ignores_of_ne (by rwa [hactions])
  · intro t ht h hreach hactions
    exact hreach.wellFormed.refuses_of_ne (by rwa [ht, hactions])

/-- Two builders that take turns, and end up with sets that look the same.  The player has bound its
    own `jump` and listens to it, and knows nothing of the other one; nor can the other one be
    installed behind the own one. -/
theorem ignores_handedOut_of_twins :
    let steps : List BuilderStep :=
      [.new, .declare 0 .digital "jump", .new, .declare 1 .digital "jump",
        .declare 1 .analog2 "aim", .declare 0 .analog2 "aim"]
    let ours : ActionSet := ⟨0, ["jump"], [], ["aim"]⟩
    let theirs : ActionSet := ⟨1, ["jump"], [], ["aim"]⟩
    let jump : ActionId := ⟨.digital, 0, 0⟩
    let other : ActionId := ⟨.digital, 0, 1⟩
    let press : Expr := .input (.button .faceDown)
    let t : BindingTable := .neutral ours .all
    let h : Host SimulatedPad String := (create ours (.create 1 .all) .default).run
      [.bind 0 jump press, .listen (some 0) jump "sound"]
    (Builders.start.run steps).sets = [ours, theirs] ∧
      other ∈ Builders.start.handedOut 1 steps ∧ h.Reachable ∧ h.actions = ours ∧
      h.Ignores other ∧ h.Refuses (.neutral theirs .all) ∧
      t.install [(jump, press), (other, press)] = (.error (.unknownAction .digital 0), t) ∧
      h.players.map (·.listenerCount? jump) = [some 1] := by
  intro steps ours theirs jump other press t h
  have hreach : h.Reachable := (Reachable.create _ _ _).run (by simp [Operation.Admissible])
  have hsets : (Builders.start.run steps).sets = [ours, theirs] := by decide
  have hother : other ∈ Builders.start.handedOut 1 steps := by decide
  have hours : (Builders.start.run steps).sets[0]? = some ours := by rw [hsets]; rfl
  have htheirs : (Builders.start.run steps).sets[1]? = some theirs := by rw [hsets]; rfl
  obtain ⟨hignores, hrefuses⟩ :=
    @Reachable.ignores_handedOut SimulatedPad String _ steps 0 1 ours theirs hours htheirs
      (by decide)
  -- the own entry in front is accepted, so it is the other one that is refused
  obtain ⟨-, htable, hhost, -⟩ := hignores other (.inl hother)
  have haccepts : t.Accepts [(jump, press)] := by
    refine ⟨by decide, fun a e hmem => ?_⟩
    cases List.mem_singleton.1 hmem
    exact ⟨_, rfl⟩
  exact ⟨hsets, hother, hreach, rfl, hhost h hreach rfl, hrefuses _ rfl h hreach rfl,
    (htable t (.neutral _ _) rfl).install_eq [(jump, press)] press [] haccepts, by decide +kernel⟩

end Host

end InputMap
