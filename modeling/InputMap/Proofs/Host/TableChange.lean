import InputMap.Pad.Simulated
import InputMap.Proofs.Host.WellFormed

/-!
# Changes of tables

Five operations change the table of a player: one action is bound, a whole table is put in, or a
profile is applied.  Each of them can be refused at many points on its way, for a name, a signal or
an expression somewhere in a list.  Whatever the point is, a refused change leaves the host as it
is; and one that takes place touches nothing but the one table.

## Key results

- `Host.Retabled`: a change is refused, or gives one player another table
- `Host.WellFormed.retabled_perform`: each of the operations is such a change
-/

namespace InputMap

variable {σ L : Type}

/-! ## What a change asks for -/

namespace Operation

/-- The slot of the player whose table an operation is to change. -/
def tableSlot? : Operation σ L → Option Nat
  | bind slot _ _ => some slot
  | configure slot _ => some slot
  | applyProfile slot _ => some slot
  | bindPlayer slot _ _ => some slot
  | configurePlayer slot _ => some slot
  | _ => none

/-- Whether `t` is what an operation asks to have in the place of a player's table: the old table
    with one action bound anew, the bindings of a given table under the player's own signals, or the
    bindings of a profile with all other actions at rest. -/
def Installs (p : Player L) (t : BindingTable) : Operation σ L → Prop
  | bind _ a e => p.table.Rebound a e t
  | bindPlayer _ a e => p.table.Rebound a e t
  | configure _ given => given.actions = p.actions ∧ t = { given with signals := p.signals }
  | configurePlayer _ given => given.actions = p.actions ∧ t = { given with signals := p.signals }
  | applyProfile _ profile => t.actions = p.actions ∧ t.signals = p.signals ∧ profile.Fills t
  | _ => False

end Operation

/-- Whether an operation answers that a change has taken place. -/
def Outcome.accepted : Outcome → Bool
  | changed (.ok _) => true
  | playerChanged (some (.ok _)) => true
  | _ => false

/-! ## One player -/

namespace Player

variable {p q : Player L} {a : ActionId} {e : Expr} {given : BindingTable}

/-- A player that binds an action has the table with the action bound anew. -/
theorem WellFormed.rebound_of_bind (h : p.WellFormed) (hq : p.bind a e = (.ok (), q)) :
    ∃ t, p.table.Rebound a e t ∧ q = { p with table := t } := by
  obtain ⟨t, ht, rfl⟩ := bind_eq_ok hq
  exact ⟨t, h.table.rebound_of_bind ht, rfl⟩

/-- A player that takes a table has its bindings under the player's own signals. -/
theorem eq_of_setTable (hq : p.setTable given = (.ok (), q)) :
    given.actions = p.actions ∧ q = { p with table := { given with signals := p.signals } } := by
  obtain ⟨hactions, moved, hmoved, hsignals, rfl⟩ := setTable_eq_ok hq
  -- moved or not, the table has the given bindings under the player's signals
  have hequal : moved = { given with signals := p.signals } := by
    rcases hmoved with rfl | hrebase
    · rw [← hsignals]
    · exact (BindingTable.rebase_eq_ok.1 hrebase).2
  exact ⟨hactions, by rw [hequal]⟩

end Player

/-! ## The host -/

namespace Host

/-- A change of the table of one player: it is refused, and the host stays as it is, or the player
    gets another table.  Listeners are not called in either case. -/
inductive Retabled (h : Host σ L) (slot : Nat) (installs : Player L → BindingTable → Prop) :
    Performed σ L → Prop
  | refused {outcome : Outcome} (notices : List Notice) (hrefused : outcome.accepted = false) :
    Retabled h slot installs ⟨h, outcome, notices.map .notice⟩
  | accepted {outcome : Outcome} {p : Player L} {t : BindingTable} (notices : List Notice)
    (haccepted : outcome.accepted = true) (hp : h.player? slot = some p) (ht : installs p t) :
    Retabled h slot installs ⟨h.setPlayer slot { p with table := t }, outcome, notices.map .notice⟩

variable {h : Host σ L} {slot : Nat} {installs : Player L → BindingTable → Prop}
  {f : Player L → Except BindError Unit × Player L}

/-- What a change of a player comes to in the host, if a refusal leaves the player as it was and
    otherwise the player gets another table. -/
theorem retabled_of_some {p : Player L} {outcome : Outcome} (notices : List Notice)
    (hp : h.player? slot = some p) (hatomic : Atomic p (f p))
    (hf : ∀ q, f p = (.ok (), q) → ∃ t, installs p t ∧ q = { p with table := t })
    (houtcome : outcome.accepted = (f p).1.isOk) :
    h.Retabled slot installs ⟨h.setPlayer slot (f p).2, outcome, notices.map .notice⟩ := by
  rcases hatomic.ok_or_error with ⟨q, hq⟩ | ⟨error, herror⟩
  · obtain ⟨t, ht, rfl⟩ := hf q hq
    rw [hq] at houtcome ⊢
    exact .accepted notices houtcome hp ht
  · rw [herror] at houtcome ⊢
    -- the player that is put back is the one that was there
    rw [setPlayer_self hp]
    exact .refused notices houtcome

/-- A change that the host makes through a player. -/
theorem retabled_modifyPlayer (notices : List Notice) (hatomic : ∀ p, Atomic p (f p))
    (hf : ∀ p q, h.player? slot = some p → f p = (.ok (), q) →
      ∃ t, installs p t ∧ q = { p with table := t }) :
    h.Retabled slot installs (changed notices (h.modifyPlayer slot f)) := by
  cases hp : h.player? slot with
  | none =>
    rw [modifyPlayer_of_none hp]
    exact .refused notices rfl
  | some p =>
    rw [modifyPlayer_of_some hp]
    refine retabled_of_some notices hp (hatomic p) (fun q => hf p q hp) ?_
    cases (f p).1 <;> rfl

/-- A change through the player itself. -/
theorem retabled_changePlayer (notices : Player L → List Notice) (hatomic : ∀ p, Atomic p (f p))
    (hf : ∀ p q, h.player? slot = some p → f p = (.ok (), q) →
      ∃ t, installs p t ∧ q = { p with table := t }) :
    h.Retabled slot installs (h.changePlayer slot notices f) := by
  cases hp : h.player? slot with
  | none =>
    rw [changePlayer_of_none hp]
    exact .refused [] rfl
  | some p =>
    rw [changePlayer_of_some hp]
    refine retabled_of_some (notices p) hp (hatomic p) (fun q => hf p q hp) ?_
    cases (f p).1 <;> rfl

/-- Each of the operations on tables is refused, or installs what it asks for. -/
theorem WellFormed.retabled_perform [Pad σ] (h₀ : h.WellFormed) {operation : Operation σ L}
    (hslot : operation.tableSlot? = some slot) :
    h.Retabled slot (fun p t => operation.Installs p t) (h.perform operation) := by
  cases operation with
  | bind _ a e =>
    cases hslot
    exact retabled_modifyPlayer _ (fun p => p.atomic_bind a e) fun p q hp hq =>
      (h₀.owns slot p hp).wellFormed.rebound_of_bind hq
  | bindPlayer _ a e =>
    cases hslot
    exact retabled_changePlayer _ (fun p => p.atomic_bind a e) fun p q hp hq =>
      (h₀.owns slot p hp).wellFormed.rebound_of_bind hq
  | configure _ given =>
    cases hslot
    refine retabled_modifyPlayer _ (fun p => p.atomic_setTable given) fun p q _ hq => ?_
    obtain ⟨hactions, hq⟩ := Player.eq_of_setTable hq
    exact ⟨_, ⟨hactions, rfl⟩, hq⟩
  | configurePlayer _ given =>
    cases hslot
    refine retabled_changePlayer _ (fun p => p.atomic_setTable given) fun p q _ hq => ?_
    obtain ⟨hactions, hq⟩ := Player.eq_of_setTable hq
    exact ⟨_, ⟨hactions, rfl⟩, hq⟩
  | applyProfile _ profile =>
    cases hslot
    show h.Retabled slot _ (Host.changed _ (h.applyProfile slot profile))
    -- the profile is applied to a fresh table first, and only then is the player asked
    cases happly : profile.apply h.neutralTable with
    | error error =>
      rw [applyProfile_of_error happly]
      exact .refused _ rfl
    | ok t =>
      rw [applyProfile_of_ok happly]
      obtain ⟨-, hsignals, hfills⟩ := Profile.fills_of_apply happly
      refine retabled_modifyPlayer _ (fun p => p.atomic_setTable t) fun p q hp hq => ?_
      obtain ⟨hactions, hq⟩ := Player.eq_of_setTable hq
      -- the table was made for the host's signals, which are the player's own ones
      have hown : t.signals = p.signals := hsignals.trans (h₀.owns slot p hp).signals_eq.symm
      have hsame : { t with signals := p.signals } = t := by rw [← hown]
      rw [hsame] at hq
      exact ⟨t, ⟨hactions, hown, hfills⟩, hq⟩
  | _ => cases hslot

/-- A change of the table of one player, through the host or through the player.  No listener is
    called.  The pad, the settings, the listeners for all players, the totals and the number of
    ticks stay as they are, and so does each player up to its table: its stored values and its
    listeners, and in all other slots the table too.  If the change is refused, nothing at all has
    changed; if it takes place, the table is the one that was asked for. -/
theorem Reachable.perform_table [Pad σ] (hreach : h.Reachable) {operation : Operation σ L}
    (hslot : operation.tableSlot? = some slot) :
    let performed := h.perform operation
    let after := performed.host
    performed.events.filterMap Event.call? = [] ∧
    (after = { h with players := after.players } ∧ after.players.length = h.players.length ∧
      ∀ (i : Nat) (p : Player L), h.players[i]? = some p →
        ∃ t, after.players[i]? = some { p with table := t } ∧ (i ≠ slot → t = p.table)) ∧
    (performed.outcome.accepted = false → after = h) ∧
    (performed.outcome.accepted = true → ∃ p t, h.players[slot]? = some p ∧
      after.players[slot]? = some { p with table := t } ∧ operation.Installs p t) := by
  intro performed after
  have hretabled : h.Retabled slot (fun p t => operation.Installs p t) performed :=
    hreach.wellFormed.retabled_perform hslot
  -- from here on it does not matter which operation it was
  clear_value performed
  cases hretabled with
  | refused notices hrefused =>
    refine ⟨Event.filterMap_call?_notices notices, ⟨rfl, rfl, fun i p hp => ?_⟩, fun _ => rfl, ?_⟩
    · exact ⟨p.table, hp, fun _ => rfl⟩
    · intro haccepted
      exact absurd (hrefused.symm.trans haccepted) Bool.false_ne_true
  | @accepted _ p t notices haccepted hp ht =>
    have hlt : slot < h.players.length := (List.getElem?_eq_some_iff.1 hp).1
    refine ⟨Event.filterMap_call?_notices notices, ⟨rfl, List.length_set, fun i q hq => ?_⟩, ?_,
      fun _ => ⟨p, t, hp, List.getElem?_set_self hlt, ht⟩⟩
    · -- the new player is in its slot, and all others are where they were
      by_cases hi : slot = i
      · subst hi
        cases hp.symm.trans hq
        exact ⟨t, List.getElem?_set_self hlt, fun hne => absurd rfl hne⟩
      · exact ⟨q.table, (List.getElem?_set_ne hi).trans hq, fun _ => rfl⟩
    · intro hrefused
      exact absurd (hrefused.symm.trans haccepted) Bool.false_ne_true

/-- A profile for one of two actions puts the other one to rest.  With an entry of the wrong
    category behind it, it is refused, and leaves the action that comes first as it was, too. -/
theorem perform_table_of_profile :
    let h : Host SimulatedPad String :=
      (create ⟨0, ["jump"], [], ["aim"]⟩ (.create 2 .all) .default).run
        [.bind 0 ⟨.analog2, 0, 0⟩ (.input (.stick .left))]
    let jump : ProfileEntry := ⟨"jump", .digital, .input (.button .faceDown)⟩
    let aim : ProfileEntry := ⟨"aim", .analog2, .input (.button .faceDown)⟩
    let accepted : Operation SimulatedPad String := .applyProfile 0 ⟨"pad", [jump]⟩
    let refused : Operation SimulatedPad String := .applyProfile 0 ⟨"pad", [jump, aim]⟩
    h.Reachable ∧ accepted.tableSlot? = some 0 ∧ refused.tableSlot? = some 0 ∧
      (∃ p t, h.players[0]? = some p ∧
        (h.perform accepted).host.players[0]? = some { p with table := t } ∧
          accepted.Installs p t) ∧
      (h.perform refused).host = h := by
  intro h jump aim accepted refused
  have hreach : h.Reachable := (Reachable.create _ _ _).run (by simp [Operation.Admissible])
  have htable : accepted.tableSlot? = some 0 := rfl
  have htable' : refused.tableSlot? = some 0 := rfl
  -- the first profile is accepted and the second one is refused, as running them shows
  exact ⟨hreach, htable, htable', (hreach.perform_table htable).2.2.2 (by decide +kernel),
    (hreach.perform_table htable').2.2.1 (by decide +kernel)⟩

end Host

end InputMap
