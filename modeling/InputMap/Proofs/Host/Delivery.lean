import InputMap.Proofs.Host.Calls

/-!
# What a listener is told over a session

A listener is known by its handle: whom it was added for, and the id that it got.  What an operation
tells it are the calls that it gets from its place in the audience.  Over a whole session these are
the changes of the stored value between the time it was added and the time it is removed, one call
for each change, and nothing else, whatever else is done to the host.

So a listener that was there from the first tick knows the stored value at any time: it is what the
listener was told last, and the values that it was told are unequal one to the next.

## Key results

- `Host.WellFormed.told_eq`: what one operation tells a listener
- `Host.Reachable.toldDuring_eq_replicate`: nobody is told anything under an id before it is given
- `Host.WellFormed.toldDuring_eq`: a session tells a listener of each change while it has its id
- `Host.WellFormed.toldDuring_unlisten`: a listener is told nothing once it is removed
- `Host.Reachable.toldDuring_session`: the three of them put together
- `Host.WellFormed.isChain_changesDuring`: the changes of a session lead to the value at its end
- `Host.WellFormed.changesDuring_of_rest`: the changes of an action that is at rest
-/

namespace InputMap

variable {σ L : Type}

/-! ## Switches -/

/-- Switch positions that are unequal one to the next alternate. -/
theorem Value.alternates {b : Bool} {values : List Value}
    (hchain : (.bool b :: values).IsChain fun v w => (v == w) = false)
    (hdigital : ∀ v ∈ values, v.category = .digital) {i : Nat} {v : Value}
    (hv : values[i]? = some v) : v = .bool (b ^^ (i % 2 == 0)) := by
  -- on the values; each of them is the other position than the one before
  induction values generalizing b i with
  | nil => exact nomatch hv
  | cons w rest ih =>
    obtain ⟨hne, hrest⟩ := List.isChain_cons_cons.1 hchain
    obtain ⟨c, rfl⟩ := eq_bool_of_category (hdigital w List.mem_cons_self)
    have hc : c = !b := by
      rw [bool_beq, beq_eq_false_iff_ne] at hne
      exact Bool.eq_not.2 hne.symm
    subst hc
    cases i with
    | zero =>
      cases hv
      rw [Nat.zero_mod, beq_self_eq_true, Bool.xor_true]
    | succ i =>
      have hrec := ih hrest (fun u hu => hdigital u (List.mem_cons_of_mem _ hu)) hv
      have hparity : ((i + 1) % 2 == 0) = !(i % 2 == 0) := by
        rcases Nat.mod_two_eq_zero_or_one i with h | h <;> simp [Nat.add_mod, h]
      rw [hrec, hparity, Bool.not_xor, Bool.xor_not]

namespace Host

variable [Pad σ] {h : Host σ L} {session : List (Operation σ L)} {operation : Operation σ L}
  {slot : Nat} {owner? : Option Nat} {a : ActionId} {id : ListenerId} {list : ListenerList L}

/-! ## Sessions -/

/-- The operations of a session, each with the host that it finds. -/
def steps (h : Host σ L) : List (Operation σ L) → List (Host σ L × Operation σ L)
  | [] => []
  | operation :: session => (h, operation) :: (h.perform operation).host.steps session

/-- The steps of a session are those of its first part, and then those of the rest. -/
theorem steps_append (h : Host σ L) (first second : List (Operation σ L)) :
    h.steps (first ++ second) = h.steps first ++ (h.run first).steps second := by
  induction first generalizing h with
  | nil => rfl
  | cons operation first ih => rw [List.cons_append, steps, ih, steps, run_cons, List.cons_append]

/-- Each step of a session starts from a well-formed host. -/
theorem WellFormed.of_mem_steps {x : Host σ L} (h₀ : h.WellFormed)
    (hsession : ∀ operation ∈ session, operation.Admissible)
    (hmem : (x, operation) ∈ h.steps session) : x.WellFormed ∧ operation.Admissible := by
  induction session generalizing h with
  | nil => exact absurd hmem List.not_mem_nil
  | cons first session ih =>
    obtain ⟨hfirst, hlater⟩ := List.forall_mem_cons.1 hsession
    rcases List.mem_cons.1 hmem with heq | hmem
    · cases heq
      exact ⟨h₀, hfirst⟩
    · exact ih (h₀.perform hfirst) hlater hmem

/-- What an operation tells the listener with a handle about the player of a slot: the calls go to
    the audience in order. -/
def told (h : Host σ L) (operation : Operation σ L) (slot : Nat) (a : ActionId)
    (owner? : Option Nat) (id : ListenerId) : List (L × Value) :=
  ((h.audience slot a).zip (callsFor slot a (h.perform operation).events)).filterMap
    fun (registration, call) =>
      if registration.owner? = owner? ∧ registration.id = id then some call else none

/-- What each operation of a session tells the listener with a handle. -/
def toldDuring (h : Host σ L) (session : List (Operation σ L)) (slot : Nat) (a : ActionId)
    (owner? : Option Nat) (id : ListenerId) : List (List (L × Value)) :=
  (h.steps session).map fun (x, operation) => x.told operation slot a owner? id

/-- What each operation of a session makes of a stored value, if that is a change. -/
def changesDuring (h : Host σ L) (session : List (Operation σ L)) (slot : Nat) (a : ActionId) :
    List (Option Value) :=
  (h.steps session).map fun (x, operation) => x.change? operation slot a

/-- What a listener is told during a session is what its first operation tells it, and the rest. -/
theorem toldDuring_cons (h : Host σ L) (operation : Operation σ L) (session : List (Operation σ L))
    (slot : Nat) (a : ActionId) (owner? : Option Nat) (id : ListenerId) :
    h.toldDuring (operation :: session) slot a owner? id =
      h.told operation slot a owner? id ::
        (h.perform operation).host.toldDuring session slot a owner? id :=
  rfl

/-- What a handle is told in a session is what it is told in both parts of it. -/
theorem toldDuring_append (h : Host σ L) (first second : List (Operation σ L)) (slot : Nat)
    (a : ActionId) (owner? : Option Nat) (id : ListenerId) :
    h.toldDuring (first ++ second) slot a owner? id =
      h.toldDuring first slot a owner? id ++ (h.run first).toldDuring second slot a owner? id := by
  rw [toldDuring, steps_append, List.map_append]
  rfl

/-- There is one entry for each operation, be there a change or not. -/
theorem length_changesDuring (h : Host σ L) (session : List (Operation σ L)) (slot : Nat)
    (a : ActionId) : (h.changesDuring session slot a).length = session.length := by
  rw [changesDuring, List.length_map]
  induction session generalizing h with
  | nil => rfl
  | cons operation session ih => rw [steps, List.length_cons, ih, List.length_cons]

/-- The changes during a session are the one of its first operation and those of the rest. -/
theorem changesDuring_cons (h : Host σ L) (operation : Operation σ L)
    (session : List (Operation σ L)) (slot : Nat) (a : ActionId) :
    h.changesDuring (operation :: session) slot a =
      h.change? operation slot a :: (h.perform operation).host.changesDuring session slot a :=
  rfl

/-! ## One listener -/

/-- What a registration that is told `v` passes on to the listener with a handle. -/
def pick (owner? : Option Nat) (id : ListenerId) (v : Value) (registration : Registration L) :
    Option (L × Value) :=
  if registration.owner? = owner? ∧ registration.id = id then some (registration.listener, v)
  else none

omit [Pad σ] in
/-- The calls that are for a handle are for the listener under its id. -/
theorem filterMap_pick (hlist : h.list? owner? a = some list) (id : ListenerId) (v : Value) :
    (h.registrations owner? a).filterMap (pick owner? id v) = (list.under id).map (·, v) := by
  rw [registrations, hlist, ListenerList.map_under, List.filterMap_map]
  refine congrArg (List.filterMap · list.entries) (funext fun entry => ?_)
  simp only [Function.comp_apply, pick, true_and]

omit [Pad σ] in
/-- Those who were added for someone else have other handles. -/
theorem filterMap_pick_of_ne {other? : Option Nat} (hne : other? ≠ owner?) (h : Host σ L)
    (a : ActionId) (id : ListenerId) (v : Value) :
    (h.registrations other? a).filterMap (pick owner? id v) = [] := by
  rw [List.filterMap_eq_nil_iff]
  intro registration hmem
  have hother : registration.owner? = other? := by
    rw [registrations] at hmem
    split at hmem
    · obtain ⟨entry, -, rfl⟩ := List.mem_map.1 hmem
      rfl
    · exact absurd hmem List.not_mem_nil
  rw [pick, hother, if_neg fun hboth => hne hboth.1]

/-- What an operation tells those with a handle. -/
theorem WellFormed.told_eq (h₀ : h.WellFormed) (hadmissible : operation.Admissible)
    (howner : owner? = none ∨ owner? = some slot) (hlist : h.list? owner? a = some list) :
    h.told operation slot a owner? id =
      (list.under id).flatMap fun listener =>
        (h.change? operation slot a).toList.map (listener, ·) := by
  have hannounces := h₀.announces hadmissible slot a
  generalize h.change? operation slot a = change? at hannounces
  cases hannounces with
  -- without a change nobody is told
  | kept _ hcalls =>
    rw [told, hcalls, List.zip_nil_right]
    exact (List.flatMap_eq_nil_iff.2 fun _ _ => rfl).symm
  | @changed _ w _ _ _ _ hcalls =>
    have htold : h.told operation slot a owner? id =
        (h.registrations (some slot) a).filterMap (pick owner? id w) ++
          (h.registrations none a).filterMap (pick owner? id w) := by
      rw [told, hcalls, ← List.map_prod_left_eq_zip, List.filterMap_map, audience,
        List.filterMap_append]
      rfl
    have hunder : (list.under id).map (·, w) =
        (list.under id).flatMap fun listener => (some w).toList.map (listener, ·) :=
      List.map_eq_flatMap
    -- the handle is found in one half of the audience
    rcases howner with rfl | rfl
    · rw [htold, filterMap_pick_of_ne (Option.some_ne_none slot), filterMap_pick hlist,
        List.nil_append, hunder]
    · rw [htold, filterMap_pick_of_ne (Option.some_ne_none slot).symm, filterMap_pick hlist,
        List.append_nil, hunder]

/-- An operation other than a tick makes no change. -/
theorem WellFormed.change?_eq_none (h₀ : h.WellFormed) (hadmissible : operation.Admissible)
    (hother : operation.isUpdate = false) (slot : Nat) (a : ActionId) :
    h.change? operation slot a = none := by
  have hannounces := h₀.announces hadmissible slot a
  generalize h.change? operation slot a = change? at hannounces
  cases hannounces with
  | kept _ _ => rfl
  | changed htick _ _ _ _ => exact absurd (hother.symm.trans htick) Bool.false_ne_true

/-- While a listener has its id, it is told of each change. -/
theorem WellFormed.toldDuring_eq (h₀ : h.WellFormed)
    (hsession : ∀ operation ∈ session, operation.Admissible)
    (howner : owner? = none ∨ owner? = some slot) (hlist : h.list? owner? a = some list)
    (hid : list.Issued id) (hkept : .unlisten owner? a id ∈ session → list.under id = []) :
    h.toldDuring session slot a owner? id =
        (h.changesDuring session slot a).map (fun change? =>
          (list.under id).flatMap fun listener => change?.toList.map (listener, ·)) ∧
      ∃ after, (h.run session).list? owner? a = some after ∧ after.Issued id := by
  -- on the session; an operation leaves what is under the id
  induction session generalizing h list with
  | nil => exact ⟨rfl, list, hlist, hid⟩
  | cons operation session ih =>
    obtain ⟨hfirst, hlater⟩ := List.forall_mem_cons.1 hsession
    have hnext : (h.perform operation).host.list? owner? a =
        some (operation.edit owner? a list) := by
      rw [h₀.list?_perform, hlist, Option.map_some]
    have hunder : (operation.edit owner? a list).under id = list.under id :=
      Operation.under_edit hid fun heq => hkept (heq ▸ List.mem_cons_self)
    obtain ⟨htold, hend⟩ := ih (h₀.perform hfirst) hlater hnext
      (operation.issued_edit hid owner? a)
      fun hmem => hunder.trans (hkept (List.mem_cons_of_mem _ hmem))
    rw [hunder] at htold
    refine ⟨?_, hend⟩
    rw [toldDuring_cons, changesDuring_cons, List.map_cons, h₀.told_eq hfirst howner hlist, htold]

/-- From its removal on, a listener is told nothing. -/
theorem WellFormed.toldDuring_unlisten (h₀ : h.WellFormed)
    (hsession : ∀ operation ∈ session, operation.Admissible)
    (howner : owner? = none ∨ owner? = some slot) (hlist : h.list? owner? a = some list)
    (hid : list.Issued id) :
    h.toldDuring (.unlisten owner? a id :: session) slot a owner? id =
      List.replicate (session.length + 1) [] := by
  have hfirst : (Operation.unlisten owner? a id : Operation σ L).Admissible := trivial
  have hnext : (h.perform (.unlisten owner? a id)).host.list? owner? a = some (list.remove id) := by
    rw [h₀.list?_perform, hlist, Option.map_some, Operation.edit, if_pos ⟨rfl, rfl⟩]
  have hnone : (list.remove id).under id = [] := list.under_remove_self id
  obtain ⟨hrest, -⟩ := (h₀.perform hfirst).toldDuring_eq hsession howner hnext (hid.remove id)
    fun _ => hnone
  have hsilent : (h.perform (.unlisten owner? a id)).host.toldDuring session slot a owner? id =
      List.replicate session.length [] := by
    rw [hrest, hnone, ← length_changesDuring _ session slot a]
    exact List.map_eq_replicate_iff.2 fun _ _ => rfl
  -- the removal itself is no tick
  have hself : h.told (.unlisten owner? a id) slot a owner? id = [] := by
    rw [h₀.told_eq hfirst howner hlist, h₀.change?_eq_none hfirst rfl]
    exact List.flatMap_eq_nil_iff.2 fun _ _ => rfl
  rw [toldDuring_cons, hself, hsilent, List.replicate_succ]

/-- Under an id that is not given yet, nobody is told anything. -/
theorem Reachable.toldDuring_eq_replicate (hreach : h.Reachable)
    (hsession : ∀ operation ∈ session, operation.Admissible)
    (howner : owner? = none ∨ owner? = some slot)
    (hafter : (h.run session).list? owner? a = some list) (hid : ¬list.Issued id) :
    h.toldDuring session slot a owner? id = List.replicate session.length [] ∧
      ∃ before, h.list? owner? a = some before ∧ ¬before.Issued id := by
  -- on the session; what is not given at its end was not given earlier
  induction session generalizing h with
  | nil => exact ⟨rfl, list, hafter, hid⟩
  | cons operation session ih =>
    obtain ⟨hfirst, hlater⟩ := List.forall_mem_cons.1 hsession
    obtain ⟨htold, next, hnext, hnot'⟩ := ih (hreach.perform hfirst) hlater hafter
    rw [hreach.wellFormed.list?_perform, Option.map_eq_some_iff] at hnext
    obtain ⟨before, hbefore, rfl⟩ := hnext
    have hnot : ¬before.Issued id := fun hissued =>
      hnot' (operation.issued_edit hissued owner? a)
    refine ⟨?_, before, hbefore, hnot⟩
    rw [toldDuring_cons, hreach.wellFormed.told_eq hfirst howner hbefore,
      (hreach.sound hbefore).under_eq_nil hnot, List.flatMap_nil, htold, List.length_cons,
      List.replicate_succ]

/-! ## One stored value -/

/-- The changes of a session lead from the stored value at its beginning to the one at its end. -/
theorem WellFormed.isChain_changesDuring (h₀ : h.WellFormed)
    (hsession : ∀ operation ∈ session, operation.Admissible) {v : Value}
    (hv : h.state? slot a = some v) :
    (v :: (h.changesDuring session slot a).reduceOption).IsChain (fun v w => (v == w) = false) ∧
      (h.run session).state? slot a =
        (v :: (h.changesDuring session slot a).reduceOption).getLast? := by
  -- on the session; a change is the first link of a chain from the value that it stores
  induction session generalizing h v with
  | nil => exact ⟨List.IsChain.singleton v, hv⟩
  | cons operation session ih =>
    obtain ⟨hfirst, hlater⟩ := List.forall_mem_cons.1 hsession
    have hannounces := h₀.announces hfirst slot a
    rw [changesDuring_cons, run_cons]
    generalize h.change? operation slot a = change? at hannounces ⊢
    cases hannounces with
    | kept hstate _ =>
      rw [List.reduceOption_cons_of_none]
      exact ih (h₀.perform hfirst) hlater (hstate.trans hv)
    | @changed _ w _ hbefore hafter hne _ =>
      cases hv.symm.trans hbefore
      obtain ⟨hchain, hlast⟩ := ih (h₀.perform hfirst) hlater hafter
      rw [List.reduceOption_cons_of_some, List.getLast?_cons_cons]
      exact ⟨List.isChain_cons_cons.2 ⟨hne, hchain⟩, hlast⟩

/-- A change has the category of the action. -/
theorem WellFormed.category_of_mem_changesDuring (h₀ : h.WellFormed)
    (hsession : ∀ operation ∈ session, operation.Admissible) {v : Value}
    (hv : v ∈ (h.changesDuring session slot a).reduceOption) : v.category = a.category := by
  obtain ⟨⟨x, operation⟩, hmem, hchange⟩ := List.mem_map.1 (List.reduceOption_mem_iff.1 hv)
  obtain ⟨hx, hadmissible⟩ := h₀.of_mem_steps hsession hmem
  have hannounces : x.Announces operation slot a (some v) :=
    hchange ▸ hx.announces hadmissible slot a
  cases hannounces with
  | changed _ _ hafter _ _ => exact ((hx.perform hadmissible).storable_of_state? hafter).1

/-- Without a tick the stored values stay. -/
theorem state?_run_of_not_update (hsession : ∀ operation ∈ session, operation.Admissible)
    (hquiet : ∀ operation ∈ session, operation.isUpdate = false) (slot : Nat) (a : ActionId) :
    (h.run session).state? slot a = h.state? slot a := by
  induction session generalizing h with
  | nil => rfl
  | cons operation session ih =>
    obtain ⟨hfirst, hlater⟩ := List.forall_mem_cons.1 hsession
    obtain ⟨hother, hquiet⟩ := List.forall_mem_cons.1 hquiet
    rcases h.perform_cases hfirst with rfl | ⟨-, hchanged⟩
    · exact absurd hother.symm Bool.false_ne_true
    · exact (ih hlater hquiet).trans (hchanged.state?_eq slot a)

omit [Pad σ] in
/-- No operation but a tick changes the number of players. -/
theorem Changed.length_players {h' : Host σ L} (hchanged : h.Changed h') :
    h'.players.length = h.players.length := by
  cases hchanged with
  | player _ _ => exact List.length_set
  | _ => rfl

/-- A session keeps the number of players. -/
theorem length_players_run (hsession : ∀ operation ∈ session, operation.Admissible) :
    (h.run session).players.length = h.players.length := by
  induction session generalizing h with
  | nil => rfl
  | cons operation session ih =>
    obtain ⟨hfirst, hlater⟩ := List.forall_mem_cons.1 hsession
    rcases h.perform_cases hfirst with rfl | ⟨-, hchanged⟩
    · exact (ih hlater).trans h.length_players_update
    · exact (ih hlater).trans hchanged.length_players

omit [Pad σ] in
/-- An action that has a list of listeners is one of the host. -/
theorem WellFormed.exists_position_of_list? (h₀ : h.WellFormed)
    (hlist : h.list? owner? a = some list) : ∃ i, h.actions.position? a = some i := by
  cases owner? with
  | none =>
    obtain ⟨i, hi, -⟩ := Option.bind_eq_some_iff.1 hlist
    exact ⟨i, hi⟩
  | some other =>
    obtain ⟨p, hp, hown⟩ := Option.bind_eq_some_iff.1 hlist
    obtain ⟨cell, hcell, -⟩ := Option.map_eq_some_iff.1 hown
    obtain ⟨i, hi, -⟩ := Player.cell?_eq_some_iff.1 hcell
    exact ⟨i, by rwa [(h₀.owns other p hp).actions_eq] at hi⟩

omit [Pad σ] in
/-- Such an action has a stored value in each slot. -/
theorem WellFormed.exists_state?_of_list? (h₀ : h.WellFormed) (hslot : slot < h.players.length)
    (hlist : h.list? owner? a = some list) : ∃ v, h.state? slot a = some v := by
  obtain ⟨i, hi⟩ := h₀.exists_position_of_list? hlist
  have hp : h.player? slot = some h.players[slot] := List.getElem?_eq_getElem hslot
  have hown := h₀.owns slot _ hp
  rw [← hown.actions_eq] at hi
  obtain ⟨t, ht, rfl⟩ := hown.wellFormed.exists_turn_of_position hi
  have hstate := Player.state?_eq_some_iff.2 ⟨t.cell, (hown.wellFormed.turn_eq ht).2.2, rfl⟩
  exact ⟨t.cell.value, by rw [state?, hp, Option.bind_some, hstate]⟩

/-! ## The whole session -/

/-- From the operation that adds a listener on, the listener is told of each change until it is
    removed, and of nothing after that. -/
theorem Reachable.toldDuring_listen {listener : L} {during after : List (Operation σ L)}
    (hreach : h.Reachable) (howner : owner? = none ∨ owner? = some slot)
    (hlist : h.list? owner? a = some list)
    (hsession : ∀ operation ∈ during ++ after, operation.Admissible)
    (hduring : .unlisten owner? a list.nextId ∉ during)
    (hafter : after = [] ∨ ∃ later, after = .unlisten owner? a list.nextId :: later) :
    h.toldDuring (.listen owner? a listener :: (during ++ after)) slot a owner? list.nextId =
      [] ::
        (((h.perform (.listen owner? a listener)).host.changesDuring during slot a).map
          (fun change? => change?.toList.map (listener, ·)) ++ List.replicate after.length []) := by
  have hlisten : (Operation.listen owner? a listener : Operation σ L).Admissible := trivial
  obtain ⟨hmiddle, hrest⟩ := List.forall_mem_append.1 hsession
  -- before the operation there is nothing under the id, and after it the listener
  have hsound : list.Sound := hreach.sound hlist
  have hself : h.told (.listen owner? a listener) slot a owner? list.nextId = [] := by
    rw [hreach.wellFormed.told_eq hlisten howner hlist,
      hsound.under_eq_nil list.not_issued_nextId, List.flatMap_nil]
  have hadded : (h.perform (.listen owner? a listener)).host.list? owner? a =
      some (list.add listener) := by
    rw [hreach.wellFormed.list?_perform, hlist, Option.map_some, Operation.edit, if_pos ⟨rfl, rfl⟩]
  have hwf := hreach.wellFormed.perform hlisten
  obtain ⟨htold, last, hlast, hissued⟩ := hwf.toldDuring_eq hmiddle howner hadded
    (list.issued_nextId_add listener) fun hmem => absurd hmem hduring
  rw [hsound.under_add_nextId] at htold
  simp only [List.flatMap_singleton] at htold
  have hend : ((h.perform (.listen owner? a listener)).host.run during).toldDuring after slot a
      owner? list.nextId = List.replicate after.length [] := by
    rcases hafter with rfl | ⟨later, rfl⟩
    · rfl
    · exact (hwf.run hmiddle).toldDuring_unlisten (List.forall_mem_cons.1 hrest).2 howner hlast
        hissued
  rw [toldDuring_cons, hself, toldDuring_append, htold, hend]

/-- A whole session in which a listener is added: before that, nobody is told anything under the id
    that it gets. -/
theorem Reachable.toldDuring_session {before during after : List (Operation σ L)}
    (hreach : h.Reachable) (listener : L) (howner : owner? = none ∨ owner? = some slot)
    (hsession : ∀ operation ∈ before ++ .listen owner? a listener :: (during ++ after),
      operation.Admissible)
    (hlist : (h.run before).list? owner? a = some list)
    (hduring : .unlisten owner? a list.nextId ∉ during)
    (hafter : after = [] ∨ ∃ later, after = .unlisten owner? a list.nextId :: later) :
    let added := ((h.run before).perform (.listen owner? a listener)).host
    h.toldDuring (before ++ .listen owner? a listener :: (during ++ after)) slot a owner?
        list.nextId =
      List.replicate (before.length + 1) [] ++
        ((added.changesDuring during slot a).map
          (fun change? => change?.toList.map (listener, ·)) ++ List.replicate after.length []) := by
  intro added
  obtain ⟨hbefore, hlater⟩ := List.forall_mem_append.1 hsession
  obtain ⟨-, hlater⟩ := List.forall_mem_cons.1 hlater
  -- before the listener is there, nobody has the id that it will get
  obtain ⟨hfirst, -⟩ :=
    hreach.toldDuring_eq_replicate hbefore howner hlist list.not_issued_nextId
  rw [toldDuring_append, hfirst,
    (hreach.run hbefore).toldDuring_listen howner hlist hlater hduring hafter,
    List.replicate_succ', List.append_assoc]
  rfl

/-- The changes of an action that is at rest.  They are unequal one to the next, beginning with the
    value at rest, they lead to the stored value, and those of a switch alternate. -/
theorem WellFormed.changesDuring_of_rest (h₀ : h.WellFormed)
    (hsession : ∀ operation ∈ session, operation.Admissible)
    (hrest : h.state? slot a = some a.category.neutral) :
    let values := (h.changesDuring session slot a).reduceOption
    (a.category.neutral :: values).IsChain (fun v w => (v == w) = false) ∧
      (h.run session).state? slot a = (a.category.neutral :: values).getLast? ∧
      (a.category = .digital → ∀ i v, values[i]? = some v → v = Value.bool (i % 2 == 0)) := by
  intro values
  obtain ⟨hchain, hlast⟩ := h₀.isChain_changesDuring hsession hrest
  refine ⟨hchain, hlast, fun hdigital i v hv => ?_⟩
  have hcategory : ∀ w ∈ values, w.category = .digital := fun w hw =>
    (h₀.category_of_mem_changesDuring hsession hw).trans hdigital
  -- a switch at rest is off, so the first change turns it on
  have hoff : a.category.neutral = .bool false := by
    rw [hdigital]
    rfl
  rw [hoff] at hchain
  rw [Value.alternates hchain hcategory hv, Bool.false_xor]

/-- Until the first tick every action is at rest. -/
theorem state?_run_create {actions : ActionSet} {pad : σ} {settings : Settings}
    (hsession : ∀ operation ∈ session, operation.Admissible)
    (hquiet : ∀ operation ∈ session, operation.isUpdate = false) (hslot : slot < Pad.slotCount pad)
    (hlist : ((create actions pad settings).run session).list? owner? a = some list) :
    ((create actions pad settings).run session).state? slot a = some a.category.neutral := by
  have hreach : (create actions pad settings : Host σ L).Reachable := .create actions pad settings
  have hlength : slot < ((create actions pad settings).run session).players.length := by
    rw [length_players_run hsession, create, List.length_map, List.length_range]
    exact hslot
  obtain ⟨v, hv⟩ := (hreach.run hsession).wellFormed.exists_state?_of_list? hlength hlist
  have hstart := (state?_run_of_not_update hsession hquiet slot a).symm.trans hv
  rw [hv, eq_neutral_of_create hstart]

/-- A session in which a listener is added, for one player or for all of them, and may be removed
    later.  Each operation leaves the stored value of an action and calls nobody for it, or is a
    tick that stores an unequal value, and calls everyone who listens once and with that value.  The
    listener itself is told of the changes from the time it is added to the time it is removed, of
    each of them once and in their order, and of nothing before or after.  If no tick has come
    before it, then the values that it is told are unequal one to the next, the first one is unequal
    to the value at rest, and the last one is the stored value; those of a switch alternate, and the
    first one is on. -/
theorem delivers_changes (actions : ActionSet) (pad : σ) (settings : Settings)
    {before during after : List (Operation σ L)} {slot : Nat} {owner? : Option Nat} {a : ActionId}
    {listener : L} {id : ListenerId} (howner : owner? = none ∨ owner? = some slot)
    (hadmissible : ∀ operation ∈ before ++ .listen owner? a listener :: (during ++ after),
      operation.Admissible)
    (hid : (((create actions pad settings).run before).perform
      (.listen owner? a listener)).outcome = .listening (some id))
    (hduring : .unlisten owner? a id ∉ during)
    (hafter : after = [] ∨ ∃ later, after = .unlisten owner? a id :: later) :
    let session := before ++ .listen owner? a listener :: (during ++ after)
    let start : Host σ L := create actions pad settings
    let added := ((start.run before).perform (.listen owner? a listener)).host
    let told := start.toldDuring session slot a owner? id
    let values := told.flatten.map (·.2)
    (∀ x operation, (x, operation) ∈ start.steps session → ∀ slot b,
      x.Announces operation slot b (x.change? operation slot b)) ∧
    told = List.replicate (before.length + 1) [] ++
      ((added.changesDuring during slot a).map (fun change? => change?.toList.map (listener, ·)) ++
        List.replicate after.length []) ∧
    (slot < Pad.slotCount pad → (∀ operation ∈ before, operation.isUpdate = false) →
      (a.category.neutral :: values).IsChain (fun v w => (v == w) = false) ∧
      (added.run during).state? slot a = (a.category.neutral :: values).getLast? ∧
      (a.category = .digital → ∀ i v, values[i]? = some v → v = Value.bool (i % 2 == 0))) := by
  intro session start added told values
  have hstart : start.Reachable := .create actions pad settings
  obtain ⟨hbefore, hlater⟩ := List.forall_mem_append.1 hadmissible
  obtain ⟨hlisten, hlater⟩ := List.forall_mem_cons.1 hlater
  have hduring' : ∀ operation ∈ during, operation.Admissible :=
    (List.forall_mem_append.1 hlater).1
  -- the listener gets an id that nobody has had before
  have hreach : (start.run before).Reachable := hstart.run hbefore
  obtain ⟨list, hlist, rfl⟩ := nextId_of_listening hid
  have htold := hstart.toldDuring_session listener howner hadmissible hlist hduring hafter
  have hvalues : values = (added.changesDuring during slot a).reduceOption := by
    show (start.toldDuring session slot a owner? list.nextId).flatten.map _ = _
    rw [htold, List.flatten_append, List.flatten_append, List.flatten_replicate_nil,
      List.flatten_replicate_nil, List.nil_append, List.append_nil]
    exact List.map_snd_flatten_toList listener _
  refine ⟨fun x operation hmem slot b => ?_, htold, fun hslot hquiet => ?_⟩
  · obtain ⟨hx, hoperation⟩ := hstart.wellFormed.of_mem_steps hadmissible hmem
    exact hx.announces hoperation slot b
  · -- nothing has changed when the listener is added
    have hrest : added.state? slot a = some a.category.neutral := by
      rcases (start.run before).perform_cases hlisten with heq | ⟨-, hchanged⟩
      · exact nomatch heq
      · exact (hchanged.state?_eq slot a).trans (state?_run_create hbefore hquiet hslot hlist)
    rw [hvalues]
    exact (hreach.wellFormed.perform hlisten).changesDuring_of_rest hduring' hrest

/-- A button that is pressed, held and let go, with a listener for all players that is there from
    the start, and is removed before the button is pressed again. -/
theorem delivers_changes_of_button :
    let jump : ActionId := ⟨.digital, 0, 0⟩
    let press : Operation SimulatedPad String := .modifyPad (·.set 0 (.button .faceDown) true)
    let release : Operation SimulatedPad String := .modifyPad (·.set 0 (.button .faceDown) false)
    let before : List (Operation SimulatedPad String) :=
      [.bind 0 jump (.input (.button .faceDown))]
    let during : List (Operation SimulatedPad String) :=
      [press, .update, .listen none jump "echo", .update, release, .update]
    let after : List (Operation SimulatedPad String) := [.unlisten none jump ⟨0⟩, press, .update]
    let session := before ++ .listen none jump "sound" :: (during ++ after)
    let start : Host SimulatedPad String :=
      create ⟨0, ["jump"], [], []⟩ (.create 1 .all) .default
    let told := start.toldDuring session 0 jump none ⟨0⟩
    let values := told.flatten.map (·.2)
    (∀ operation ∈ session, operation.Admissible) ∧
      ((start.run before).perform (.listen none jump "sound")).outcome = .listening (some ⟨0⟩) ∧
      .unlisten none jump ⟨0⟩ ∉ during ∧
      (Value.bool false :: values).IsChain (fun v w => (v == w) = false) ∧
      told = [[], [], []] ++ [[("sound", .bool true)], [], [], [], [("sound", .bool false)]] ++
        [[], [], []] := by
  intro jump press release before during after session start told values
  have hadmissible : ∀ operation ∈ session, operation.Admissible := by
    simp [session, before, during, after, press, release, Operation.Admissible]
  have hid : ((start.run before).perform (.listen none jump "sound")).outcome =
      .listening (some ⟨0⟩) := by
    rfl
  have hduring : .unlisten none jump ⟨0⟩ ∉ during := by
    simp [during, press, release]
  -- the operations before the listener is added are no ticks, so that the value is still at rest
  obtain ⟨-, -, hrest⟩ := delivers_changes ⟨0, ["jump"], [], []⟩ (.create 1 .all) .default
    (.inl rfl) hadmissible hid hduring (.inr ⟨[press, .update], rfl⟩)
  have hquiet : ∀ operation ∈ before, operation.isUpdate = false := by
    simp [before, Operation.isUpdate]
  exact ⟨hadmissible, hid, hduring, (hrest (by decide) hquiet).1, by decide +kernel⟩

end Host

end InputMap
