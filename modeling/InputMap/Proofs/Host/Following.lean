import InputMap.Proofs.ActionSet.Names
import InputMap.Proofs.Host.Listeners
import InputMap.Proofs.Host.NonInterference
import InputMap.Proofs.Host.Stages

/-!
# Profiles in force

A player follows a profile if each action that the profile names is bound as it says.  So it is once
the profile has been applied, and so it stays until somebody changes the player's table: neither
ticks nor listeners nor the tables of other players come into its bindings.

## Key results

- `Host.WellFormed.binding?_perform`: bindings change with the player's own table only
- `Host.WellFormed.follows_applyProfile`: a profile that is applied is followed
- `Host.Follows.of_mem_tickStarts`: and it is followed at each tick, unless the table is changed
-/

namespace InputMap.Host

variable {σ L : Type} {h : Host σ L} {slot changed : Nat} {p q : Player L} {a : ActionId}
  {profile : Profile} {operation : Operation σ L} {session : List (Operation σ L)}

/-- Each action that a profile names is declared, and is bound as the profile says. -/
def Follows (h : Host σ L) (slot : Nat) (profile : Profile) : Prop :=
  ∀ entry ∈ profile.bindings,
    (h.actions.find? entry.category entry.action).bind (h.binding? slot) =
      some ⟨entry.expr, entry.category⟩

instance (h : Host σ L) (slot : Nat) (profile : Profile) : Decidable (h.Follows slot profile) :=
  inferInstanceAs (Decidable (∀ entry ∈ profile.bindings,
    (h.actions.find? entry.category entry.action).bind (h.binding? slot) =
      some ⟨entry.expr, entry.category⟩))

/-! ## What the bindings depend on -/

/-- A player with the old table, or a player of another slot, has no bearing on a slot's
    bindings. -/
theorem binding?_setPlayer (hp : h.player? changed = some p)
    (hq : changed = slot → q.table = p.table) (a : ActionId) :
    (h.setPlayer changed q).binding? slot a = h.binding? slot a := by
  by_cases heq : changed = slot
  · subst heq
    have hlt : changed < h.players.length := (List.getElem?_eq_some_iff.1 hp).1
    have hset : (h.setPlayer changed q).player? changed = some q := List.getElem?_set_self hlt
    rw [binding?, binding?, hset, hp, Option.bind_some, Option.bind_some, hq rfl]
  · have hset : (h.setPlayer changed q).player? slot = h.player? slot := List.getElem?_set_ne heq
    rw [binding?, binding?, hset]

/-- A tick leaves the bindings. -/
theorem WellFormed.binding?_update [Pad σ] (h₀ : h.WellFormed) (slot : Nat) (a : ActionId) :
    h.update.host.binding? slot a = h.binding? slot a := by
  rcases h.player?_update slot with ⟨hp, hafter⟩ | ⟨p, r, hp, -, hafter⟩
  · rw [binding?, binding?, hp, hafter]
  · rw [binding?, binding?, hp, hafter, (h₀.owns slot p hp).wellFormed.player_update]
    rfl

/-- Editing the listeners for all players leaves the bindings. -/
theorem binding?_editShared {α : Type} (h : Host σ L) (b : ActionId) (answer : ListenerList L → α)
    (f : ListenerList L → ListenerList L) (absent : α) (slot : Nat) (a : ActionId) :
    (h.editShared b answer f absent).2.binding? slot a = h.binding? slot a := by
  rcases h.editShared_cases b answer f absent with ⟨i, list, -, -, heq⟩ | ⟨-, heq⟩
  · rw [heq]
    rfl
  · rw [heq]

/-- Editing the listeners of a player leaves the bindings. -/
theorem binding?_editPlayer {α : Type} (hp : h.player? changed = some p) (b : ActionId)
    (answer : ListenerList L → α) (f : ListenerList L → ListenerList L) (absent : α) (slot : Nat)
    (a : ActionId) :
    (h.setPlayer changed (p.editListeners b answer f absent).2).binding? slot a =
      h.binding? slot a := by
  refine binding?_setPlayer hp (fun _ => ?_) a
  rcases p.editListeners_cases b answer f absent with ⟨i, list, -, -, heq⟩ | ⟨-, heq⟩
  · rw [heq]
    rfl
  · rw [heq]

/-- A change of the table of another player leaves the bindings. -/
theorem Retabled.binding?_eq {installs : Player L → BindingTable → Prop} {performed : Performed σ L}
    (hretabled : h.Retabled changed installs performed) (hne : changed ≠ slot) (a : ActionId) :
    performed.host.binding? slot a = h.binding? slot a := by
  cases hretabled with
  | refused _ _ => rfl
  | accepted _ _ hp _ => exact binding?_setPlayer hp (fun heq => absurd heq hne) a

/-- No operation changes the bindings of a player but one on the player's own table. -/
theorem WellFormed.binding?_perform [Pad σ] (h₀ : h.WellFormed)
    (hslot : operation.tableSlot? ≠ some slot) (a : ActionId) :
    (h.perform operation).host.binding? slot a = h.binding? slot a := by
  -- an operation on a table is one on the table of another player
  have hother : ∀ {changed}, operation.tableSlot? = some changed →
      (h.perform operation).host.binding? slot a = h.binding? slot a := by
    intro changed hchanged
    have hne : changed ≠ slot := fun heq => hslot (heq ▸ hchanged)
    exact (h₀.retabled_perform hchanged).binding?_eq hne a
  -- of the others, those on listeners go to a player or to the host, and keep its tables
  cases operation with
  | update => exact h₀.binding?_update slot a
  | bind _ b e => exact hother rfl
  | configure _ t => exact hother rfl
  | applyProfile _ profile => exact hother rfl
  | bindPlayer _ b e => exact hother rfl
  | configurePlayer _ t => exact hother rfl
  | listen slot? b listener =>
    cases slot? with
    | none => exact h.binding?_editShared b (some ·.nextId) (·.add listener) none slot a
    | some owner =>
      simp only [Host.perform]
      split
      · rfl
      · rename_i p hp
        exact binding?_editPlayer hp b (some ·.nextId) (·.add listener) none slot a
  | unlisten slot? b id =>
    cases slot? with
    | none => exact h.binding?_editShared b (·.contains id) (·.remove id) false slot a
    | some owner =>
      simp only [Host.perform]
      split
      · rfl
      · rename_i p hp
        exact binding?_editPlayer hp b (·.contains id) (·.remove id) false slot a
  | modifyPad f => rfl

/-! ## Profiles -/

/-- A profile that can be applied to the actions and signals of a host is put in force for the
    player of a slot. -/
theorem WellFormed.follows_applyProfile (h₀ : h.WellFormed) (hp : h.player? slot = some p)
    {t : BindingTable} (ht : profile.apply h.neutralTable = .ok t) :
    ∃ applied, h.applyProfile slot profile = (.ok (), applied) ∧
      applied.Follows slot profile := by
  obtain ⟨hactions, hsignals, hfills⟩ := Profile.fills_of_apply ht
  have howns := h₀.owns slot p hp
  -- the table is for the actions and the signals of the player, who takes it as it is
  have hset : p.setTable t = (.ok (), { p with table := t }) :=
    Player.setTable_of_signals_eq (hactions.trans howns.actions_eq.symm)
      (hsignals.trans howns.signals_eq.symm)
  refine ⟨h.setPlayer slot { p with table := t }, ?_, fun entry hentry => ?_⟩
  · rw [applyProfile_of_ok ht, configure, modifyPlayer_of_some hp, hset]
    rfl
  · obtain ⟨a, hfind, hbinding⟩ := hfills.listed entry hentry
    have hlt : slot < h.players.length := (List.getElem?_eq_some_iff.1 hp).1
    have hafter : (h.setPlayer slot { p with table := t }).player? slot =
        some { p with table := t } :=
      List.getElem?_set_self hlt
    rw [hactions] at hfind
    have hfound : (h.setPlayer slot { p with table := t }).actions.find? entry.category
        entry.action = some a := hfind
    rw [hfound, Option.bind_some, binding?, hafter, Option.bind_some, hbinding,
      (ActionSet.of_find? hfind).2.1]

/-- So it is as an operation of a session. -/
theorem WellFormed.perform_applyProfile [Pad σ] (h₀ : h.WellFormed) (hp : h.player? slot = some p)
    {t : BindingTable} (ht : profile.apply h.neutralTable = .ok t) :
    (h.perform (.applyProfile slot profile)).outcome = .changed (.ok ()) ∧
      (h.perform (.applyProfile slot profile)).host.Follows slot profile := by
  obtain ⟨applied, happlied, hfollows⟩ := h₀.follows_applyProfile hp ht
  rw [Host.perform, happlied]
  exact ⟨rfl, hfollows⟩

/-- In the slot, the action of an entry is bound as the entry says. -/
theorem Follows.binding? {entry : ProfileEntry} (hfollows : h.Follows slot profile)
    (hentry : entry ∈ profile.bindings)
    (ha : h.actions.find? entry.category entry.action = some a) :
    h.binding? slot a = some ⟨entry.expr, entry.category⟩ := by
  have hbound := hfollows entry hentry
  rwa [ha] at hbound

/-- The profile stays in force under any operation that leaves the table of the slot. -/
theorem Follows.perform [Pad σ] (hfollows : h.Follows slot profile) (h₀ : h.WellFormed)
    (hadmissible : operation.Admissible) (hslot : operation.tableSlot? ≠ some slot) :
    (h.perform operation).host.Follows slot profile := by
  intro entry hentry
  have hbindings : (h.perform operation).host.binding? slot = h.binding? slot :=
    funext (h₀.binding?_perform hslot)
  rw [(SameFrame.perform hadmissible h).actions_eq, hbindings]
  exact hfollows entry hentry

/-- So it does in a session of such operations. -/
theorem Follows.run [Pad σ] (hfollows : h.Follows slot profile) (h₀ : h.WellFormed)
    (hsession : ∀ operation ∈ session, operation.Admissible)
    (hslot : ∀ operation ∈ session, operation.tableSlot? ≠ some slot) :
    (h.run session).Follows slot profile := by
  induction session generalizing h with
  | nil => exact hfollows
  | cons operation session ih =>
    obtain ⟨hfirst, hlater⟩ := List.forall_mem_cons.1 hsession
    obtain ⟨hfirst', hlater'⟩ := List.forall_mem_cons.1 hslot
    exact ih (hfollows.perform h₀ hfirst hfirst') (h₀.perform hfirst) hlater hlater'

/-! ## Ticks of a session -/

/-- A tick starts where the operations before it have led. -/
theorem exists_run_of_mem_tickStarts [Pad σ] {start : Host σ L}
    (hstart : start ∈ h.tickStarts session) :
    ∃ before after, session = before ++ .update :: after ∧ start = h.run before := by
  -- on the session; its first operation comes before each of the later ticks
  induction session generalizing h with
  | nil => exact absurd hstart List.not_mem_nil
  | cons operation session ih =>
    have hlater : start ∈ (h.perform operation).host.tickStarts session →
        ∃ before after, operation :: session = before ++ .update :: after ∧
          start = h.run before := by
      intro hmem
      obtain ⟨before, after, rfl, rfl⟩ := ih hmem
      exact ⟨operation :: before, after, rfl, rfl⟩
    rw [tickStarts] at hstart
    split at hstart
    · rename_i hupdate
      rcases List.mem_cons.1 hstart with rfl | hmem
      · exact ⟨[], session, by rw [operation.eq_update hupdate]; rfl, rfl⟩
      · exact hlater hmem
    · exact hlater hstart

/-- A profile is followed at each tick of a session that does not change the player's table. -/
theorem Follows.of_mem_tickStarts [Pad σ] (hfollows : h.Follows slot profile) (h₀ : h.WellFormed)
    (hsession : ∀ operation ∈ session, operation.Admissible)
    (hslot : ∀ operation ∈ session, operation.tableSlot? ≠ some slot) {start : Host σ L}
    (hstart : start ∈ h.tickStarts session) : start.Follows slot profile := by
  obtain ⟨before, after, rfl, rfl⟩ := exists_run_of_mem_tickStarts hstart
  exact hfollows.run h₀ (List.forall_mem_append.1 hsession).1 (List.forall_mem_append.1 hslot).1

/-- A session keeps the actions. -/
theorem actions_of_mem_tickStarts [Pad σ] (hsession : ∀ operation ∈ session, operation.Admissible)
    {start : Host σ L} (hstart : start ∈ h.tickStarts session) : start.actions = h.actions := by
  obtain ⟨before, after, rfl, rfl⟩ := exists_run_of_mem_tickStarts hstart
  exact (SameFrame.run (List.forall_mem_append.1 hsession).1 h).actions_eq

end InputMap.Host
