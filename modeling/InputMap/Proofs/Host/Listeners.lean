import InputMap.Proofs.Host.Agreement
import InputMap.Proofs.Host.TableChange
import InputMap.Proofs.ListenerList
import InputMap.Proofs.Player.Values

/-!
# The listeners of a host

For each action a host has a list of listeners for each player, and one for all players.  Only the
operations that add or remove a listener come into these lists, and each of them into one list only.
`Operation.edit` says what an operation does to a list, so that a list can be followed through a
session without looking at the host.

## Key results

- `Operation.edit_cases`, `Operation.under_edit`: a listener stays under its id until it is removed
- `Host.WellFormed.list?_perform`: an operation edits the lists of a host
- `Host.nextId_of_listening`: the id that a listener gets
- `Host.Reachable.sound`: a list of a host has given all the ids that its listeners have
-/

namespace InputMap

variable {σ L : Type}

namespace Operation

/-- What an operation does to the listeners of an action that were added for the player of the slot
    `owner?`, or for all players. -/
def edit (owner? : Option Nat) (a : ActionId) :
    Operation σ L → ListenerList L → ListenerList L
  | .listen slot? b listener, list => if slot? = owner? ∧ b = a then list.add listener else list
  | .unlisten slot? b id, list => if slot? = owner? ∧ b = a then list.remove id else list
  | _, list => list

variable {list : ListenerList L}

/-- An operation leaves a list, adds a listener to it or removes one from it. -/
theorem edit_cases (operation : Operation σ L) (owner? : Option Nat) (a : ActionId)
    (list : ListenerList L) :
    operation.edit owner? a list = list ∨
    (∃ listener, operation.edit owner? a list = list.add listener) ∨
    ∃ id, operation = .unlisten owner? a id ∧ operation.edit owner? a list = list.remove id := by
  -- only two operations edit lists, and each of them one list
  cases operation with
  | listen slot? b listener =>
    rw [edit]
    split
    · exact .inr (.inl ⟨listener, rfl⟩)
    · exact .inl rfl
  | unlisten slot? b id =>
    rw [edit]
    split
    · rename_i hsame
      obtain ⟨rfl, rfl⟩ := hsame
      exact .inr (.inr ⟨id, rfl, rfl⟩)
    · exact .inl rfl
  | _ => exact .inl rfl

/-- No operation spoils a list of listeners. -/
theorem sound_edit (operation : Operation σ L) (h : list.Sound) (owner? : Option Nat)
    (a : ActionId) : (operation.edit owner? a list).Sound := by
  obtain heq | ⟨listener, heq⟩ | ⟨id, -, heq⟩ := operation.edit_cases owner? a list
  · rwa [heq]
  · rw [heq]
    exact h.add listener
  · rw [heq]
    exact h.remove id

/-- An id that was given stays so. -/
theorem issued_edit {id : ListenerId} (operation : Operation σ L) (hid : list.Issued id)
    (owner? : Option Nat) (a : ActionId) : (operation.edit owner? a list).Issued id := by
  obtain heq | ⟨listener, heq⟩ | ⟨other, -, heq⟩ := operation.edit_cases owner? a list
  · rwa [heq]
  · rw [heq]
    exact hid.add listener
  · rw [heq]
    exact hid.remove other

/-- What is found under an id that was given stays there, unless it is removed. -/
theorem under_edit {id : ListenerId} {operation : Operation σ L} {owner? : Option Nat}
    {a : ActionId} (hid : list.Issued id)
    (hkept : operation = .unlisten owner? a id → list.under id = []) :
    (operation.edit owner? a list).under id = list.under id := by
  obtain heq | ⟨listener, heq⟩ | ⟨other, hoperation, heq⟩ := operation.edit_cases owner? a list
  · rw [heq]
  · rw [heq, ListenerList.under_add hid]
  · -- what is removed has another id, or there was nothing to remove
    by_cases hother : other = id
    · subst hother
      rw [heq, ListenerList.under_remove_self, hkept hoperation]
    · rw [heq, ListenerList.under_remove_ne hother]

end Operation

/-! ## One player -/

namespace Player

variable {p : Player L}

/-- The player's own listeners of an action. -/
def list? (p : Player L) (a : ActionId) : Option (ListenerList L) := (p.cell? a).map (·.listeners)

/-- Editing the listeners of an action changes one cell, if there are any. -/
theorem editListeners_cases {α : Type} (p : Player L) (a : ActionId) (answer : ListenerList L → α)
    (f : ListenerList L → ListenerList L) (absent : α) :
    (∃ i list, p.actions.position? a = some i ∧ p.list? a = some list ∧
      p.editListeners a answer f absent =
        (answer list, p.modifyCell i fun c => { c with listeners := f c.listeners })) ∨
    p.list? a = none ∧ p.editListeners a answer f absent = (absent, p) := by
  cases hcell : p.cell? a with
  | none =>
    refine .inr ⟨by rw [list?, hcell, Option.map_none], ?_⟩
    rw [editListeners, hcell]
    cases p.actions.position? a <;> rfl
  | some cell =>
    obtain ⟨i, hi, -⟩ := cell?_eq_some_iff.1 hcell
    refine .inl ⟨i, cell.listeners, hi, by rw [list?, hcell, Option.map_some], ?_⟩
    rw [editListeners, hi, hcell]

/-- Editing the listeners of one action leaves those of all others. -/
theorem list?_editListeners {α : Type} (p : Player L) (b a : ActionId)
    (answer : ListenerList L → α) (f : ListenerList L → ListenerList L) (absent : α) :
    (p.editListeners b answer f absent).2.list? a =
      (p.list? a).map fun list => if b = a then f list else list := by
  rcases p.editListeners_cases b answer f absent with ⟨i, _, hi, -, heq⟩ | ⟨hnone, heq⟩
  · rw [heq, list?, list?, cell?, cell?, modifyCell]
    cases hj : p.actions.position? a with
    | none => rfl
    | some j =>
      -- the changed cell is that of `a` exactly if `a` is the action
      have hplace : i = j ↔ b = a := by
        constructor
        · rintro rfl
          exact ActionSet.position?_inj hi hj
        · rintro rfl
          exact Option.some.inj (hi.symm.trans hj)
      simp only [Option.bind_eq_bind, Option.bind_some, List.getElem?_modify, Option.map_eq_map,
        Option.map_map, hplace]
      refine Option.map_congr fun cell _ => ?_
      rw [Function.comp_apply, Function.comp_apply]
      split <;> rfl
  · rw [heq]
    by_cases hb : b = a
    · rw [← hb, hnone, Option.map_none]
    · simp only [if_neg hb, Option.map_id']

/-- A tick leaves the listeners. -/
theorem WellFormed.list?_update {r : Snapshot} {shared : List (ListenerList L)} (h : p.WellFormed)
    (a : ActionId) : (p.update r shared).player.list? a = p.list? a := by
  rw [h.player_update, list?, list?, cell?, cell?]
  cases p.actions.position? a with
  | none => rfl
  | some i =>
    simp only [Option.bind_eq_bind, Option.bind_some]
    rw [← h.map_cell_turns, List.getElem?_map, List.getElem?_map, Option.map_map, Option.map_map]
    refine Option.map_congr fun t _ => ?_
    simp only [Function.comp_apply, Turn.settled]
    split <;> rfl

end Player

/-! ## The host -/

namespace Host

variable {h : Host σ L} {slot : Nat} {owner? : Option Nat} {a b : ActionId} {p q : Player L}

/-- The listeners of an action that were added for the player of the slot `owner?`, or for all
    players. -/
def list? (h : Host σ L) (owner? : Option Nat) (a : ActionId) : Option (ListenerList L) :=
  match owner? with
  | some slot => (h.player? slot).bind (·.list? a)
  | none => (h.actions.position? a).bind fun i => h.shared[i]?

/-- Replacing a player by one whose listeners are the edited ones. -/
theorem list?_setPlayer {f : ActionId → ListenerList L → ListenerList L}
    (hp : h.player? slot = some p) (hq : ∀ a, q.list? a = (p.list? a).map (f a))
    (owner? : Option Nat) (a : ActionId) :
    (h.setPlayer slot q).list? owner? a =
      (h.list? owner? a).map fun list => if some slot = owner? then f a list else list := by
  -- the lists for all players are not kept by a player
  cases owner? with
  | none =>
    simp only [reduceCtorEq, if_false, Option.map_id']
    rfl
  | some other =>
    by_cases heq : slot = other
    · subst heq
      have hlt : slot < h.players.length := (List.getElem?_eq_some_iff.1 hp).1
      have hset : (h.setPlayer slot q).player? slot = some q := List.getElem?_set_self hlt
      simp only [if_true, list?, hset, hp, Option.bind_some]
      exact hq a
    · have hset : (h.setPlayer slot q).player? other = h.player? other :=
        List.getElem?_set_ne heq
      simp only [Option.some.injEq, heq, if_false, Option.map_id', list?, hset]

/-- Editing one list of a player's own listeners leaves all others. -/
theorem list?_editPlayer {α : Type} (hp : h.player? slot = some p) (b : ActionId)
    (answer : ListenerList L → α) (f : ListenerList L → ListenerList L) (absent : α)
    (owner? : Option Nat) (a : ActionId) :
    (h.setPlayer slot (p.editListeners b answer f absent).2).list? owner? a =
      (h.list? owner? a).map fun list => if some slot = owner? ∧ b = a then f list else list := by
  have hset := list?_setPlayer (f := fun a list => if b = a then f list else list) hp
    (fun a => p.list?_editListeners b a answer f absent) owner? a
  simpa only [ite_and] using hset

/-- There is nothing to edit without the player. -/
theorem list?_of_player?_eq_none (hp : h.player? slot = none) (b : ActionId)
    (f : ListenerList L → ListenerList L) (owner? : Option Nat) (a : ActionId) :
    h.list? owner? a =
      (h.list? owner? a).map fun list => if some slot = owner? ∧ b = a then f list else list := by
  by_cases howner : some slot = owner?
  · rw [← howner, list?, hp]
    rfl
  · simp only [howner, false_and, if_false, Option.map_id']

/-- Changes the listeners of an action for all players.  The answer depends on them as they were. -/
def editShared {α : Type} (h : Host σ L) (a : ActionId) (answer : ListenerList L → α)
    (f : ListenerList L → ListenerList L) (absent : α) : α × Host σ L :=
  match h.actions.position? a with
  | none => (absent, h)
  | some i =>
    match h.shared[i]? with
    | none => (absent, h)
    | some list => (answer list, { h with shared := h.shared.set i (f list) })

theorem listen_eq (h : Host σ L) (a : ActionId) (listener : L) :
    h.listen a listener = h.editShared a (some ·.nextId) (·.add listener) none := rfl

theorem unlisten_eq (h : Host σ L) (a : ActionId) (id : ListenerId) :
    h.unlisten a id = h.editShared a (·.contains id) (·.remove id) false := rfl

/-- Editing the listeners of an action for all players changes one list, if there is one. -/
theorem editShared_cases {α : Type} (h : Host σ L) (a : ActionId) (answer : ListenerList L → α)
    (f : ListenerList L → ListenerList L) (absent : α) :
    (∃ i list, h.actions.position? a = some i ∧ h.shared[i]? = some list ∧
      h.editShared a answer f absent =
        (answer list, { h with shared := h.shared.set i (f list) })) ∨
    h.list? none a = none ∧ h.editShared a answer f absent = (absent, h) := by
  unfold editShared
  cases hi : h.actions.position? a with
  | none => exact .inr ⟨by rw [list?, hi, Option.bind_none], rfl⟩
  | some i =>
    cases hlist : h.shared[i]? with
    | none => exact .inr ⟨by rw [list?, hi, Option.bind_some, hlist], by simp only [hlist]⟩
    | some list => exact .inl ⟨i, list, rfl, hlist, by simp only [hlist]⟩

/-- Editing one list of listeners for all players leaves all others. -/
theorem list?_editShared {α : Type} (h : Host σ L) (b : ActionId) (answer : ListenerList L → α)
    (f : ListenerList L → ListenerList L) (absent : α) (owner? : Option Nat) (a : ActionId) :
    (h.editShared b answer f absent).2.list? owner? a =
      (h.list? owner? a).map fun list => if none = owner? ∧ b = a then f list else list := by
  rcases h.editShared_cases b answer f absent with ⟨i, list, hi, hlist, heq⟩ | ⟨hnone, heq⟩
  · rw [heq]
    cases owner? with
    | some slot =>
      simp only [reduceCtorEq, false_and, if_false, Option.map_id']
      rfl
    | none =>
      simp only [list?, true_and]
      -- the lists for all players are found by the places of their actions
      cases hj : h.actions.position? a with
      | none => rfl
      | some j =>
        simp only [Option.bind_some, List.getElem?_set]
        by_cases hb : b = a
        · subst hb
          cases hi.symm.trans hj
          have hlt : i < h.shared.length := (List.getElem?_eq_some_iff.1 hlist).1
          simp only [if_true, hlt, hlist, Option.map_some]
        · have hne : i ≠ j := by
            rintro rfl
            exact hb (ActionSet.position?_inj hi hj)
          simp only [hne, hb, if_false, Option.map_id']
  · rw [heq]
    by_cases hb : none = owner? ∧ b = a
    · rw [← hb.1, ← hb.2, hnone, Option.map_none]
    · simp only [if_neg hb, Option.map_id']

/-! ## One operation -/

/-- A change of a table leaves the listeners. -/
theorem Retabled.list?_eq {installs : Player L → BindingTable → Prop} {performed : Performed σ L}
    (hretabled : h.Retabled slot installs performed) (owner? : Option Nat) (a : ActionId) :
    performed.host.list? owner? a = h.list? owner? a := by
  cases hretabled with
  | refused _ _ => rfl
  | @accepted _ p t _ _ hp _ =>
    -- a table is put into a player beside its cells, which hold the listeners
    have hkept : ∀ a, ({ p with table := t } : Player L).list? a =
        (p.list? a).map fun list => list := by
      intro a
      rw [Option.map_id']
      rfl
    have hset := list?_setPlayer (f := fun _ list => list) hp hkept owner? a
    simpa only [ite_self, Option.map_id'] using hset

/-- A tick leaves the listeners. -/
theorem WellFormed.list?_update [Pad σ] (h₀ : h.WellFormed) (owner? : Option Nat) (a : ActionId) :
    h.update.host.list? owner? a = h.list? owner? a := by
  cases owner? with
  | none => rfl
  | some slot =>
    rcases h.player?_update slot with ⟨hp, hafter⟩ | ⟨p, r, hp, -, hafter⟩
    · rw [list?, list?, hp, hafter]
    · rw [list?, list?, hp, hafter, Option.bind_some, Option.bind_some]
      exact (h₀.owns slot p hp).wellFormed.list?_update a

/-- An operation edits the lists of a host. -/
theorem WellFormed.list?_perform [Pad σ] (h₀ : h.WellFormed) (operation : Operation σ L)
    (owner? : Option Nat) (a : ActionId) :
    (h.perform operation).host.list? owner? a =
      (h.list? owner? a).map (operation.edit owner? a) := by
  -- most operations edit no list, and leave them all in the host
  have hkept : operation.edit owner? a = id →
      (h.perform operation).host.list? owner? a = h.list? owner? a →
        (h.perform operation).host.list? owner? a =
          (h.list? owner? a).map (operation.edit owner? a) := by
    intro hid heq
    rw [hid, heq, Option.map_id_fun, id]
  cases operation with
  | update => exact hkept rfl (h₀.list?_update owner? a)
  | bind slot b e => exact hkept rfl ((h₀.retabled_perform rfl).list?_eq owner? a)
  | configure slot t => exact hkept rfl ((h₀.retabled_perform rfl).list?_eq owner? a)
  | applyProfile slot profile => exact hkept rfl ((h₀.retabled_perform rfl).list?_eq owner? a)
  | bindPlayer slot b e => exact hkept rfl ((h₀.retabled_perform rfl).list?_eq owner? a)
  | configurePlayer slot t => exact hkept rfl ((h₀.retabled_perform rfl).list?_eq owner? a)
  | modifyPad f => exact hkept rfl (by cases owner? <;> rfl)
  | listen slot? b listener =>
    cases slot? with
    | none => exact list?_editShared h b (some ·.nextId) (·.add listener) none owner? a
    | some slot =>
      -- a slot that is missing has no list to edit
      simp only [Host.perform]
      split
      · rename_i hp
        exact list?_of_player?_eq_none hp b (·.add listener) owner? a
      · rename_i p hp
        exact list?_editPlayer hp b (some ·.nextId) (·.add listener) none owner? a
  | unlisten slot? b id =>
    cases slot? with
    | none => exact list?_editShared h b (·.contains id) (·.remove id) false owner? a
    | some slot =>
      simp only [Host.perform]
      split
      · rename_i hp
        exact list?_of_player?_eq_none hp b (·.remove id) owner? a
      · rename_i p hp
        exact list?_editPlayer hp b (·.contains id) (·.remove id) false owner? a

/-- The id that a listener gets is the next one of its list. -/
theorem nextId_of_listening [Pad σ] {listener : L} {id : ListenerId}
    (hid : (h.perform (.listen owner? a listener)).outcome = .listening (some id)) :
    ∃ list, h.list? owner? a = some list ∧ list.nextId = id := by
  -- the id that is given out is the next one of the list that the listener goes into
  cases owner? with
  | none =>
    simp only [perform, Outcome.listening.injEq, listen_eq] at hid
    rcases h.editShared_cases a (some ·.nextId) (·.add listener) none with
      ⟨i, list, hi, hlist, heq⟩ | ⟨-, heq⟩
    · rw [heq, Option.some.injEq] at hid
      exact ⟨list, by rw [list?, hi, Option.bind_some, hlist], hid⟩
    · rw [heq] at hid
      cases hid
  | some slot =>
    simp only [perform] at hid
    split at hid
    · cases hid
    · rename_i p hp
      simp only [Outcome.listening.injEq, Player.listen_eq] at hid
      rcases p.editListeners_cases a (some ·.nextId) (·.add listener) none with
        ⟨i, list, -, hlist, heq⟩ | ⟨-, heq⟩
      · rw [heq, Option.some.injEq] at hid
        exact ⟨list, by rw [list?, hp, Option.bind_some, hlist], hid⟩
      · rw [heq] at hid
        cases hid

/-! ## All operations -/

/-- A fresh host has no listeners. -/
theorem eq_empty_of_create [Pad σ] {actions : ActionSet} {pad : σ} {settings : Settings}
    {list : ListenerList L}
    (hlist : (create actions pad settings : Host σ L).list? owner? a = some list) :
    list = .empty := by
  -- lists for all players are made by the host, and all others by its players
  cases owner? with
  | none =>
    obtain ⟨i, -, hget⟩ := Option.bind_eq_some_iff.1 hlist
    rw [create, List.getElem?_map, Option.map_eq_some_iff] at hget
    obtain ⟨_, -, rfl⟩ := hget
    rfl
  | some slot =>
    obtain ⟨p, hp, hown⟩ := Option.bind_eq_some_iff.1 hlist
    rw [player?, create, List.getElem?_map, Option.map_eq_some_iff] at hp
    obtain ⟨_, -, rfl⟩ := hp
    obtain ⟨cell, hcell, rfl⟩ := Option.map_eq_some_iff.1 hown
    obtain ⟨i, -, hget⟩ := Player.cell?_eq_some_iff.1 hcell
    simp only [Player.create, List.getElem?_map, Option.map_eq_some_iff] at hget
    obtain ⟨_, -, rfl⟩ := hget
    rfl

/-- A list of a host has given all the ids that its listeners have. -/
theorem Reachable.sound [Pad σ] (hreach : h.Reachable) {list : ListenerList L}
    (hlist : h.list? owner? a = some list) : list.Sound := by
  induction hreach generalizing list with
  | create actions pad settings =>
    rw [eq_empty_of_create hlist]
    exact ListenerList.sound_empty
  | @perform h operation hreach _ ih =>
    rw [hreach.wellFormed.list?_perform, Option.map_eq_some_iff] at hlist
    obtain ⟨before, hbefore, rfl⟩ := hlist
    exact operation.sound_edit (ih hbefore) owner? a

end Host

end InputMap
