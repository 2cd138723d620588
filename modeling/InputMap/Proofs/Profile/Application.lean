import InputMap.Profile
import InputMap.Proofs.BindingTable.Contents

/-!
# What applying a profile does

A profile is applied in two steps: all names are looked up, and then all bindings are installed at
once.  The table that comes out has the profile's expressions for the actions that it names, and
every other action is at rest.

## Key results

- `Profile.apply_eq_ok`, `Profile.apply_eq_error`: the two steps
- `Profile.fills_of_apply`: what the table holds
-/

namespace InputMap.Profile

variable {profile : Profile} {t u : BindingTable} {actions : ActionSet}
  {list : List (ActionId × Expr)}

/-- The table has one binding for each action: the profile's expressions for the actions that the
    profile names, and the neutral binding for every other action. -/
structure Fills (profile : Profile) (t : BindingTable) : Prop where
  length_bindings : t.bindings.length = t.actions.size
  listed : ∀ entry ∈ profile.bindings, ∃ a,
    t.actions.find? entry.category entry.action = some a ∧
      t.binding? a = some ⟨entry.expr, a.category⟩
  unlisted : ∀ a ∈ t.actions.order,
    (∀ entry ∈ profile.bindings, t.actions.find? entry.category entry.action ≠ some a) →
      t.binding? a = some (.neutral a.category)

/-- An entry stands for the action of its category and name. -/
theorem resolveEntry_eq_ok {entry : ProfileEntry} {pair : ActionId × Expr} :
    resolveEntry actions entry = .ok pair ↔
      actions.find? entry.category entry.action = some pair.1 ∧ entry.expr = pair.2 := by
  unfold resolveEntry
  split
  · rename_i a ha
    rw [ha, Except.ok.injEq, Option.some.injEq, Prod.ext_iff]
  · rename_i hnone
    rw [hnone]
    exact ⟨fun h => (nomatch h), fun h => (nomatch h.1)⟩

/-- The names of a profile are all found, one after the other. -/
theorem resolve_eq_ok :
    profile.resolve actions = .ok list ↔
      List.Forall₂ (fun entry pair => actions.find? entry.category entry.action = some pair.1 ∧
        entry.expr = pair.2) profile.bindings list := by
  simp only [resolve, Except.mapM_eq_ok, resolveEntry_eq_ok]

/-- A profile is applied if its names are found and what they stand for can be installed. -/
theorem apply_eq_ok :
    profile.apply t = .ok u ↔
      ∃ list, profile.resolve t.actions = .ok list ∧ t.install list = (.ok (), u) := by
  simp only [apply, Except.bind_eq_ok]
  refine exists_congr fun list => and_congr_right fun _ => ?_
  rcases (t.atomic_install list).ok_or_error with ⟨v, hv⟩ | ⟨error, herror⟩
  · simp [hv, Except.mapError, pure, Except.pure]
  · simp [herror, Except.mapError]

/-- A profile fails at one of its names, or else when it is installed. -/
theorem apply_eq_error {error : ApplyError} :
    profile.apply t = .error error ↔
      profile.resolve t.actions = .error error ∨
        ∃ list first, profile.resolve t.actions = .ok list ∧
          t.install list = (.error first, t) ∧ .bind first = error := by
  simp only [apply, Except.bind_eq_error]
  refine or_congr_right (exists_congr fun list => ?_)
  rcases (t.atomic_install list).ok_or_error with ⟨v, hv⟩ | ⟨first, hfirst⟩
  · simp [hv, Except.mapError, pure, Except.pure]
  · simp [hfirst, Except.mapError]

/-- A profile that is applied keeps actions and signals, and fills the table. -/
theorem fills_of_apply (h : profile.apply t = .ok u) :
    u.actions = t.actions ∧ u.signals = t.signals ∧ profile.Fills u := by
  obtain ⟨list, hlist, hu⟩ := apply_eq_ok.1 h
  obtain ⟨hactions, hsignals, hlisted, hunlisted⟩ := BindingTable.binding?_install hu
  have hresolved := resolve_eq_ok.1 hlist
  have hlength : u.bindings.length = u.actions.size :=
    (BindingTable.wellFormed_of_install hu).length_bindings
  refine ⟨hactions, hsignals, hlength, fun entry hentry => ?_, fun a ha hother => ?_⟩
  · obtain ⟨⟨a, e⟩, hmem, hfind, rfl⟩ := hresolved.exists_right hentry
    rw [hactions]
    exact ⟨a, hfind, hlisted a entry.expr hmem⟩
  · rw [hactions] at ha hother
    refine hunlisted a ha fun hmem => ?_
    -- an action of the list comes from an entry that names it
    obtain ⟨⟨_, e⟩, hpair, rfl⟩ := List.mem_map.1 hmem
    obtain ⟨entry, hentry, hfind, -⟩ := hresolved.exists_left hpair
    exact hother entry hentry hfind

end InputMap.Profile
