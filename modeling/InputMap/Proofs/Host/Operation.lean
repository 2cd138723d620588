import InputMap.Host.Session
import InputMap.Proofs.Player.WellFormed
import InputMap.Proofs.Profile.Application

/-!
# What an operation can change

A host has many operations, but apart from a tick they come to few things: nothing happens, one
player changes, a list of listeners for all players changes, or the pad does.  `Host.Changed` lists
these, so that what holds of a host is looked at once for each of them.

A change of a table passes through the host and one of its players.  Each of them writes what the
part below has left, and all of them are atomic, since the table is.

## Key results

- `Host.atomic_bind`, `Host.atomic_configure`, `Host.atomic_applyProfile`: a refused change leaves
  the host
- `Player.Changed.wellFormed`: a change keeps a player well formed
- `Host.perform_cases`: an operation is a tick or a change
-/

namespace InputMap

variable {σ L : Type}

namespace Player

/-- A change of a player other than a tick, be it refused or not. -/
inductive Changed (p : Player L) : Player L → Prop
  | bind (a : ActionId) (e : Expr) : Changed p (p.bind a e).2
  | setTable {t : BindingTable} (ht : t.WellFormed) : Changed p (p.setTable t).2
  | listen (a : ActionId) (listener : L) : Changed p (p.listen a listener).2
  | unlisten (a : ActionId) (id : ListenerId) : Changed p (p.unlisten a id).2

variable {p q : Player L}

/-- A change keeps a player well formed, be it refused or not. -/
theorem Changed.wellFormed (h : p.Changed q) (hp : p.WellFormed) : q.WellFormed := by
  cases h with
  | bind a e => exact hp.bind a e
  | setTable ht => exact hp.setTable ht
  | listen a listener => exact hp.listen
  | unlisten a id => exact hp.unlisten

/-- A change leaves what a player was made with. -/
theorem Changed.frame (h : p.Changed q) :
    q.slot = p.slot ∧ q.actions = p.actions ∧ q.signals = p.signals := by
  cases h with
  | bind a e => exact ⟨rfl, rfl, rfl⟩
  | @setTable t ht =>
    -- refused or not, nothing but the table is written
    refine (p.atomic_setTable t).preserves
      (P := fun q => q.slot = p.slot ∧ q.actions = p.actions ∧ q.signals = p.signals)
      ⟨rfl, rfl, rfl⟩ fun q hq => ?_
    obtain ⟨-, moved, -, -, rfl⟩ := setTable_eq_ok hq
    exact ⟨rfl, rfl, rfl⟩
  | listen a listener =>
    unfold Player.listen
    split <;> exact ⟨rfl, rfl, rfl⟩
  | unlisten a id =>
    unfold Player.unlisten
    split <;> exact ⟨rfl, rfl, rfl⟩

/-- A change leaves the stored values. -/
theorem Changed.state?_eq (h : p.Changed q) (a : ActionId) : q.state? a = p.state? a := by
  cases h with
  | bind b e => rfl
  | @setTable t ht =>
    -- with another table the cells are the same, and a stored value is in its cell
    refine (p.atomic_setTable t).preserves (P := fun q => q.state? a = p.state? a) rfl
      fun q hq => ?_
    obtain ⟨-, moved, -, -, rfl⟩ := setTable_eq_ok hq
    rfl
  | listen b listener =>
    -- the value of the cell is not what a listener is added to
    unfold Player.listen
    split
    · exact state?_modifyCell fun _ => rfl
    · rfl
  | unlisten b id =>
    unfold Player.unlisten
    split
    · exact state?_modifyCell fun _ => rfl
    · rfl

end Player

/-- A profile that is applied gives a well-formed table. -/
theorem Profile.wellFormed_of_apply {profile : Profile} {t u : BindingTable}
    (h : profile.apply t = .ok u) : u.WellFormed := by
  obtain ⟨list, -, hinstall⟩ := apply_eq_ok.1 h
  exact BindingTable.wellFormed_of_install hinstall

/-- Whether an operation is a tick. -/
def Operation.isUpdate : Operation σ L → Bool
  | .update => true
  | _ => false

/-- Only one operation is a tick. -/
theorem Operation.eq_update (operation : Operation σ L) (h : operation.isUpdate = true) :
    operation = .update := by
  cases operation with
  | update => rfl
  | _ => cases h

namespace Host

/-- What an operation other than a tick can come to. -/
inductive Changed (h : Host σ L) : Host σ L → Prop
  | refl : Changed h h
  | player {slot : Nat} {p q : Player L} (hp : h.player? slot = some p) (hq : p.Changed q) :
    Changed h (h.setPlayer slot q)
  | shared {lists : List (ListenerList L)} (hlength : lists.length = h.shared.length) :
    Changed h { h with shared := lists }
  | pad (f : σ → σ) : Changed h (h.modifyPad f)

variable {h : Host σ L} {slot : Nat}

/-- A listener for all players goes into one of the host's own lists, if its action is declared. -/
theorem changed_listen (h : Host σ L) (a : ActionId) (listener : L) :
    h.Changed (h.listen a listener).2 := by
  unfold listen
  split
  · exact .refl
  · split
    · exact .refl
    · exact .shared List.length_set

/-- Removing one changes the same list. -/
theorem changed_unlisten (h : Host σ L) (a : ActionId) (id : ListenerId) :
    h.Changed (h.unlisten a id).2 := by
  unfold unlisten
  split
  · exact .refl
  · split
    · exact .refl
    · exact .shared List.length_set

/-! ### Changes through a player -/

section ThroughPlayer

variable {f : Player L → Except BindError Unit × Player L} {p : Player L}

/-- Without the player the host is not changed. -/
theorem modifyPlayer_of_none (hp : h.player? slot = none) :
    h.modifyPlayer slot f = (.error (.unknownPlayer slot), h) := by
  rw [modifyPlayer, hp, changing_throw]

/-- The host has what the player has become, and answers what the player does. -/
theorem modifyPlayer_of_some (hp : h.player? slot = some p) :
    h.modifyPlayer slot f = ((f p).1.mapError .bind, h.setPlayer slot (f p).2) := by
  rw [modifyPlayer, hp, changing_bind, changing_modify]
  rfl

/-- Where there is no player nothing is changed, and nothing is told. -/
theorem changePlayer_of_none {notices : Player L → List Notice} (hp : h.player? slot = none) :
    h.changePlayer slot notices f = ⟨h, .playerChanged none, []⟩ := by
  rw [changePlayer, hp]

/-- As an operation on the player itself, the answer is not put in terms of the host. -/
theorem changePlayer_of_some {notices : Player L → List Notice} (hp : h.player? slot = some p) :
    h.changePlayer slot notices f =
      ⟨h.setPlayer slot (f p).2, .playerChanged (some (f p).1), (notices p).map .notice⟩ := by
  rw [changePlayer, hp]

/-- It makes no difference to the host whether a player is changed through it or directly. -/
theorem host_changePlayer {notices : Player L → List Notice} :
    (h.changePlayer slot notices f).host = (h.modifyPlayer slot f).2 := by
  cases hp : h.player? slot with
  | none => rw [changePlayer_of_none hp, modifyPlayer_of_none hp]
  | some p => rw [changePlayer_of_some hp, modifyPlayer_of_some hp]

/-- A profile that cannot be applied to the neutral table does not get as far as the player. -/
theorem applyProfile_of_error {profile : Profile} {error : ApplyError}
    (herror : profile.apply h.neutralTable = .error error) :
    h.applyProfile slot profile = (.error (.apply error), h) := by
  rw [applyProfile, herror]
  rfl

/-- A profile that can be applied to the neutral table is as good as the table that comes out. -/
theorem applyProfile_of_ok {profile : Profile} {t : BindingTable}
    (ht : profile.apply h.neutralTable = .ok t) :
    h.applyProfile slot profile = h.configure slot t := by
  rw [applyProfile, ht, changing_bind]
  exact changing_of h (·.configure slot t)

/-- Putting back the player that is there changes nothing. -/
theorem setPlayer_self (hp : h.player? slot = some p) : h.setPlayer slot p = h := by
  obtain ⟨_, hget⟩ := List.getElem?_eq_some_iff.1 hp
  rw [setPlayer, ← hget, List.set_getElem_self]

/-- A player that stays as it is leaves the host as it is. -/
theorem atomic_modifyPlayer (hf : ∀ p, h.player? slot = some p → Atomic p (f p)) :
    Atomic h (h.modifyPlayer slot f) := by
  intro error herror
  cases hp : h.player? slot with
  | none => rw [modifyPlayer_of_none hp]
  | some p =>
    rw [modifyPlayer_of_some hp] at herror ⊢
    -- the player is put in whatever it answers, so it must have stayed as it was
    cases hanswer : (f p).1 with
    | ok _ =>
      rw [hanswer] at herror
      cases herror
    | error refusal =>
      rw [hf p hp refusal hanswer]
      exact setPlayer_self hp

/-- Binding leaves the host as it is if the player is missing or refuses the expression. -/
theorem atomic_bind (h : Host σ L) (slot : Nat) (a : ActionId) (e : Expr) :
    Atomic h (h.bind slot a e) :=
  atomic_modifyPlayer fun p _ => p.atomic_bind a e

/-- So does putting in a table. -/
theorem atomic_configure (h : Host σ L) (slot : Nat) (t : BindingTable) :
    Atomic h (h.configure slot t) :=
  atomic_modifyPlayer fun p _ => p.atomic_setTable t

/-- Whether it is a name, an entry or the player that a profile is refused for, the host stays. -/
theorem atomic_applyProfile (h : Host σ L) (slot : Nat) (profile : Profile) :
    Atomic h (h.applyProfile slot profile) := by
  cases happly : profile.apply h.neutralTable with
  | error error =>
    rw [applyProfile_of_error happly]
    exact fun _ _ => rfl
  | ok t =>
    rw [applyProfile_of_ok happly]
    exact h.atomic_configure slot t

/-- What the host does through a player is a change of that player. -/
theorem changed_modifyPlayer (hf : ∀ p : Player L, p.Changed (f p).2) :
    h.Changed (h.modifyPlayer slot f).2 := by
  cases hp : h.player? slot with
  | none =>
    rw [modifyPlayer_of_none hp]
    exact .refl
  | some p =>
    rw [modifyPlayer_of_some hp]
    exact .player hp (hf p)

/-- So is what is done with the player itself. -/
theorem changed_changePlayer {notices : Player L → List Notice}
    (hf : ∀ p : Player L, p.Changed (f p).2) :
    h.Changed (h.changePlayer slot notices f).host := by
  rw [host_changePlayer]
  exact changed_modifyPlayer hf

end ThroughPlayer

/-- An admissible operation is a tick or one of the changes. -/
theorem perform_cases [Pad σ] (h : Host σ L) {operation : Operation σ L}
    (hadmissible : operation.Admissible) :
    operation = .update ∨ operation.isUpdate = false ∧ h.Changed (h.perform operation).host := by
  cases operation with
  | update => exact .inl rfl
  -- changes of a table: whether they are refused or not, they go through one player
  | bind slot a e => exact .inr ⟨rfl, changed_modifyPlayer fun _ => .bind a e⟩
  | configure slot t =>
    have ht : t.WellFormed := BindingTable.Reachable.wellFormed hadmissible
    exact .inr ⟨rfl, changed_modifyPlayer fun _ => .setTable ht⟩
  | applyProfile slot profile =>
    refine .inr ⟨rfl, ?_⟩
    show h.Changed (h.applyProfile slot profile).2
    cases happly : profile.apply h.neutralTable with
    | error error =>
      rw [applyProfile_of_error happly]
      exact .refl
    | ok t =>
      rw [applyProfile_of_ok happly]
      exact changed_modifyPlayer fun _ => .setTable (Profile.wellFormed_of_apply happly)
  | bindPlayer slot a e => exact .inr ⟨rfl, changed_changePlayer fun _ => .bind a e⟩
  | configurePlayer slot t =>
    have ht : t.WellFormed := BindingTable.Reachable.wellFormed hadmissible
    exact .inr ⟨rfl, changed_changePlayer fun _ => .setTable ht⟩
  -- changes of listeners are made in a player, or in the host's own lists
  | listen slot? a listener =>
    refine .inr ⟨rfl, ?_⟩
    cases slot? with
    | none => exact changed_listen h a listener
    | some slot =>
      simp only [perform]
      split
      · exact .refl
      · rename_i p hp
        exact .player hp (.listen a listener)
  | unlisten slot? a id =>
    refine .inr ⟨rfl, ?_⟩
    cases slot? with
    | none => exact changed_unlisten h a id
    | some slot =>
      simp only [perform]
      split
      · exact .refl
      · rename_i p hp
        exact .player hp (.unlisten a id)
  | modifyPad f => exact .inr ⟨rfl, .pad f⟩

end Host

end InputMap
