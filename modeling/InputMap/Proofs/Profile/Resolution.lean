import InputMap.Pad.Simulated
import InputMap.Proofs.ActionSet.Names
import InputMap.Proofs.BindingTable.Installing
import InputMap.Proofs.Host.Operation

/-!
# When a profile can be applied

The names of a profile are looked up before anything is installed, so a name that is not declared
comes before all other faults, wherever it stands.  After that the entries are taken one by one, and
the first one that names an action again, or has an expression that is refused, is the fault.

## Key results

- `resolve_eq_error`: the first name that is not declared
- `accepts_resolved`, `offends_resolved`: what is installed, told by the entries of the profile
- `exists_apply`: which profiles can be applied
- `apply_eq_error_unknownAction`, `apply_eq_error_bind`: the two kinds of errors
- `apply_congr`: what a table holds before does not matter
- `Host.applyProfile_eq_error_unknownPlayer`: a missing player comes after all errors of the profile
-/

namespace InputMap

namespace ProfileEntry

/-- The category and the name of the action of an entry. -/
def key (entry : ProfileEntry) : Category × String := (entry.category, entry.action)

/-- Checks the expression of an entry for its action. -/
def check (entry : ProfileEntry) (signals : SignalSet) : Except BindError Binding :=
  Binding.check entry.action entry.category entry.expr signals

/-- The category of an entry has its action. -/
def Declared (entry : ProfileEntry) (actions : ActionSet) : Prop :=
  entry.action ∈ actions.names entry.category

instance (entry : ProfileEntry) (actions : ActionSet) : Decidable (entry.Declared actions) :=
  inferInstanceAs (Decidable (entry.action ∈ actions.names entry.category))

/-- The action of an entry, if it is declared, with the entry's expression. -/
def resolved (entry : ProfileEntry) (actions : ActionSet) : ActionId × Expr :=
  (actions.named entry.category entry.action, entry.expr)

end ProfileEntry

namespace Profile

variable {profile : Profile} {t base : BindingTable} {actions : ActionSet}
  {entries front : List ProfileEntry} {entry other : ProfileEntry}

/-! ## Names -/

/-- The action of a declared entry is found. -/
theorem resolveEntry_of_declared (h : entry.Declared actions) :
    resolveEntry actions entry = .ok (entry.resolved actions) := by
  rw [resolveEntry, ActionSet.find?_of_mem h]
  rfl

/-- An entry fails if its action is not declared, and the error names it. -/
theorem resolveEntry_eq_error {error : ApplyError} :
    resolveEntry actions entry = .error error ↔
      ¬entry.Declared actions ∧ error = .unknownAction entry.category entry.action := by
  by_cases h : entry.Declared actions
  · rw [resolveEntry_of_declared h]
    exact ⟨fun herror => (nomatch herror), fun herror => absurd h herror.1⟩
  · rw [resolveEntry, ActionSet.find?_eq_none_iff.2 h]
    exact ⟨fun herror => ⟨h, (Except.error.inj herror).symm⟩, fun herror => by rw [herror.2]⟩

/-- An entry can be resolved exactly if its action is declared. -/
theorem exists_resolveEntry : (∃ pair, resolveEntry actions entry = .ok pair) ↔
    entry.Declared actions := by
  constructor
  · rintro ⟨pair, hpair⟩
    by_contra h
    exact nomatch hpair.symm.trans (resolveEntry_eq_error.2 ⟨h, rfl⟩)
  · exact fun h => ⟨_, resolveEntry_of_declared h⟩

/-- If all names are declared, they are resolved one by one. -/
theorem resolve_of_declared (h : ∀ entry ∈ profile.bindings, entry.Declared actions) :
    profile.resolve actions = .ok (profile.bindings.map (·.resolved actions)) := by
  rw [resolve, Except.mapM_eq_ok, List.forall₂_map_right_iff, List.forall₂_same]
  exact fun entry hentry => resolveEntry_of_declared (h entry hentry)

/-- A profile is resolved exactly if all of its names are declared. -/
theorem exists_resolve : (∃ list, profile.resolve actions = .ok list) ↔
    ∀ entry ∈ profile.bindings, entry.Declared actions := by
  rw [resolve, Except.exists_mapM_eq_ok]
  exact forall₂_congr fun _ _ => exists_resolveEntry

/-- The first name that is not declared decides what the error is. -/
theorem resolve_eq_error {error : ApplyError} :
    profile.resolve actions = .error error ↔
      ∃ front entry back, profile.bindings = front ++ entry :: back ∧
        (∀ other ∈ front, other.Declared actions) ∧ ¬entry.Declared actions ∧
          error = .unknownAction entry.category entry.action := by
  simp only [resolve, Except.mapM_eq_error, exists_resolveEntry, resolveEntry_eq_error]

/-! ## Bindings -/

/-- A declared action belongs to the set, so only its expression has to be checked. -/
theorem check_resolved (h : entry.Declared t.actions) :
    ∃ i, t.check (entry.resolved t.actions).1 (entry.resolved t.actions).2 =
      (do
        let b ← entry.check t.signals
        return (i, b)) := by
  obtain ⟨i, hi⟩ : ∃ i,
      t.actions.position? (t.actions.named entry.category entry.action) = some i :=
    ⟨_, if_pos (ActionSet.contains_named h)⟩
  refine ⟨i, ?_⟩
  rw [ProfileEntry.resolved, BindingTable.check, BindingTable.position, hi,
    ActionSet.describe_named h]
  rfl

/-- A declared entry can be bound if its expression passes the check. -/
theorem exists_check_resolved (h : entry.Declared t.actions) :
    (∃ p, t.check (entry.resolved t.actions).1 (entry.resolved t.actions).2 = .ok p) ↔
      ∃ b, entry.check t.signals = .ok b := by
  obtain ⟨i, hcheck⟩ := check_resolved h
  rw [hcheck]
  cases entry.check t.signals with
  | error error => exact ⟨fun ⟨_, h⟩ => (nomatch h), fun ⟨_, h⟩ => (nomatch h)⟩
  | ok b => exact ⟨fun _ => ⟨b, rfl⟩, fun _ => ⟨(i, b), rfl⟩⟩

/-- And if not, with the error of that check. -/
theorem check_resolved_eq_error (h : entry.Declared t.actions) {error : BindError} :
    t.check (entry.resolved t.actions).1 (entry.resolved t.actions).2 = .error error ↔
      entry.check t.signals = .error error := by
  obtain ⟨i, hcheck⟩ := check_resolved h
  rw [hcheck, Except.bind_eq_error]
  exact ⟨fun h => h.resolve_right fun ⟨_, _, h⟩ => (nomatch h), .inl⟩

/-- Entries stand for the same action if they have the same category and name. -/
theorem resolved_fst_inj (h : entry.Declared actions) :
    (entry.resolved actions).1 = (other.resolved actions).1 ↔ entry.key = other.key := by
  rw [ProfileEntry.key, ProfileEntry.key, Prod.mk.injEq]
  exact ActionSet.named_inj h

/-- No action stands twice in the list exactly if no name does in the profile. -/
theorem nodup_map_resolved (h : ∀ entry ∈ entries, entry.Declared actions) :
    ((entries.map (·.resolved actions)).map (·.1)).Nodup ↔
      (entries.map ProfileEntry.key).Nodup := by
  rw [List.map_map, List.Nodup, List.Nodup, List.pairwise_map, List.pairwise_map]
  exact List.Pairwise.iff_of_mem fun hentry _ => not_congr (resolved_fst_inj (h _ hentry))

/-- An action has come before exactly if its name has. -/
theorem mem_map_resolved (h : entry.Declared actions) :
    (entry.resolved actions).1 ∈ (front.map (·.resolved actions)).map (·.1) ↔
      entry.key ∈ front.map ProfileEntry.key := by
  simp only [List.map_map, List.mem_map, Function.comp_apply]
  refine exists_congr fun other => and_congr_right fun _ => ?_
  rw [eq_comm, resolved_fst_inj h, eq_comm]

/-- A list of declared entries can be installed if no name stands twice and each check passes. -/
theorem accepts_resolved (h : ∀ entry ∈ entries, entry.Declared t.actions) :
    t.Accepts (entries.map (·.resolved t.actions)) ↔
      (entries.map ProfileEntry.key).Nodup ∧
        ∀ entry ∈ entries, ∃ b, entry.check t.signals = .ok b := by
  constructor
  · -- names and ids correspond, so repetitions do; and so do the checks, entry by entry
    intro haccepts
    refine ⟨(nodup_map_resolved h).1 haccepts.nodup, fun entry hentry => ?_⟩
    exact (exists_check_resolved (h entry hentry)).1
      (haccepts.exists_check _ _ (List.mem_map_of_mem hentry))
  · rintro ⟨hnodup, hcheck⟩
    refine ⟨(nodup_map_resolved h).2 hnodup, fun a e hmem => ?_⟩
    obtain ⟨entry, hentry, hpair⟩ := List.mem_map.1 hmem
    cases hpair
    exact (exists_check_resolved (h entry hentry)).2 (hcheck entry hentry)

/-- What the fault of an entry is, if everything in front of it can be installed. -/
theorem offends_resolved (h : entry.Declared t.actions) {error : BindError} :
    t.Offends ((front.map (·.resolved t.actions)).map (·.1)) (entry.resolved t.actions) error ↔
      if entry.key ∈ front.map ProfileEntry.key then
        error = .duplicateAction entry.category entry.action
      else entry.check t.signals = .error error := by
  -- the action has come before exactly if the key has
  split
  · rename_i hmem
    have hseen := (mem_map_resolved h).2 hmem
    constructor
    · intro hoffends
      cases hoffends with
      | again => rw [ActionSet.describe_named h]; rfl
      | refused hnew => exact absurd hseen hnew
    · rintro rfl
      rw [← ActionSet.describe_named h]
      exact .again hseen
  · rename_i hmem
    have hnew := fun hseen => hmem ((mem_map_resolved h).1 hseen)
    rw [← check_resolved_eq_error h]
    constructor
    · intro hoffends
      cases hoffends with
      | again hseen => exact absurd hseen hnew
      | refused _ hcheck => exact hcheck
    · exact .refused hnew

/-- This is when it can be installed. -/
theorem exists_install_resolved (h : ∀ entry ∈ entries, entry.Declared t.actions) :
    (∃ u, t.install (entries.map (·.resolved t.actions)) = (.ok (), u)) ↔
      (entries.map ProfileEntry.key).Nodup ∧
        ∀ entry ∈ entries, ∃ b, entry.check t.signals = .ok b := by
  rw [← accepts_resolved h]
  exact ⟨fun ⟨u, hu⟩ => BindingTable.accepts_of_install hu, fun haccepts => haccepts.exists_install⟩

/-- If it cannot be installed, the first entry that names an action again or fails its check is the
    reason. -/
theorem install_resolved_eq_error (h : ∀ entry ∈ entries, entry.Declared t.actions)
    {error : BindError} :
    t.install (entries.map (·.resolved t.actions)) = (.error error, t) ↔
      ∃ front entry back, entries = front ++ entry :: back ∧
        (front.map ProfileEntry.key).Nodup ∧
        (∀ other ∈ front, ∃ b, other.check t.signals = .ok b) ∧
        if entry.key ∈ front.map ProfileEntry.key then
          error = .duplicateAction entry.category entry.action
        else entry.check t.signals = .error error := by
  rw [BindingTable.install_eq_error, and_iff_left rfl, List.exists_map_eq_append_cons
    (P := fun front pair => t.Accepts front ∧ t.Offends (front.map (·.1)) pair error)]
  -- the list is cut where the profile is
  refine exists_congr fun front => exists_congr fun entry => exists_congr fun back =>
    and_congr_right fun hentries => ?_
  subst hentries
  obtain ⟨hfront, hrest⟩ := List.forall_mem_append.1 h
  rw [accepts_resolved hfront, offends_resolved (hrest entry List.mem_cons_self), and_assoc]

/-! ## Both steps -/

/-- A profile can be applied exactly if its names are declared and different and all checks pass. -/
theorem exists_apply :
    (∃ u, profile.apply t = .ok u) ↔
      (∀ entry ∈ profile.bindings, entry.Declared t.actions) ∧
        (profile.bindings.map ProfileEntry.key).Nodup ∧
        ∀ entry ∈ profile.bindings, ∃ b, entry.check t.signals = .ok b := by
  constructor
  · rintro ⟨u, hu⟩
    obtain ⟨list, hlist, hinstall⟩ := apply_eq_ok.1 hu
    have hdeclared := exists_resolve.1 ⟨list, hlist⟩
    -- once all names are declared, what remains is to install their ids
    rw [resolve_of_declared hdeclared] at hlist
    cases hlist
    exact ⟨hdeclared, (exists_install_resolved hdeclared).1 ⟨u, hinstall⟩⟩
  · rintro ⟨hdeclared, hrest⟩
    obtain ⟨u, hu⟩ := (exists_install_resolved hdeclared).2 hrest
    exact ⟨u, apply_eq_ok.2 ⟨_, resolve_of_declared hdeclared, hu⟩⟩

/-- If a profile fails when it is installed, all of its names are declared. -/
theorem apply_eq_error_of_declared {error : ApplyError} :
    profile.apply t = .error error ↔
      profile.resolve t.actions = .error error ∨
        (∀ entry ∈ profile.bindings, entry.Declared t.actions) ∧
          ∃ first, t.install (profile.bindings.map (·.resolved t.actions)) = (.error first, t) ∧
            .bind first = error := by
  rw [apply_eq_error]
  refine or_congr_right ⟨?_, ?_⟩
  · rintro ⟨list, first, hlist, hfirst, herror⟩
    -- a profile that resolves has declared names only, and there is one list that it resolves to
    have hdeclared := exists_resolve.1 ⟨list, hlist⟩
    rw [resolve_of_declared hdeclared] at hlist
    cases hlist
    exact ⟨hdeclared, first, hfirst, herror⟩
  · rintro ⟨hdeclared, first, hfirst, herror⟩
    exact ⟨_, first, resolve_of_declared hdeclared, hfirst, herror⟩

/-- A name that is not declared is the fault, whatever else is wrong with the entries. -/
theorem apply_eq_error_unknownAction {c : Category} {name : String} :
    profile.apply t = .error (.unknownAction c name) ↔
      ∃ front entry back, profile.bindings = front ++ entry :: back ∧
        (∀ other ∈ front, other.Declared t.actions) ∧ ¬entry.Declared t.actions ∧
          c = entry.category ∧ name = entry.action := by
  -- what is refused when it is installed is an error of the other kind
  rw [apply_eq_error_of_declared, resolve_eq_error]
  simp only [ApplyError.unknownAction.injEq, reduceCtorEq, and_false, exists_false, or_false]

/-- If all names are declared, the first entry that offends is the fault. -/
theorem apply_eq_error_bind {error : BindError} :
    profile.apply t = .error (.bind error) ↔
      (∀ entry ∈ profile.bindings, entry.Declared t.actions) ∧
        ∃ front entry back, profile.bindings = front ++ entry :: back ∧
          (front.map ProfileEntry.key).Nodup ∧
          (∀ other ∈ front, ∃ b, other.check t.signals = .ok b) ∧
          if entry.key ∈ front.map ProfileEntry.key then
            error = .duplicateAction entry.category entry.action
          else entry.check t.signals = .error error := by
  rw [apply_eq_error_of_declared, resolve_eq_error]
  simp only [ApplyError.bind.injEq, reduceCtorEq, and_false, exists_false, false_or,
    exists_eq_right]
  exact and_congr_right fun hdeclared => install_resolved_eq_error hdeclared

/-- The bindings that a table has before play no part. -/
theorem apply_congr (hactions : base.actions = t.actions) (hsignals : base.signals = t.signals) :
    profile.apply base = profile.apply t := by
  rw [apply, apply, hactions]
  refine congrArg (profile.resolve t.actions >>= ·) (funext fun list => ?_)
  obtain ⟨hanswer, hsame⟩ := BindingTable.install_congr hactions hsignals list
  rcases (t.atomic_install list).ok_or_error with ⟨u, hu⟩ | ⟨error, herror⟩
  · rw [hsame (by rw [hu])]
  · -- both are refused, and neither of the tables is looked at
    rw [herror] at hanswer ⊢
    rw [(base.atomic_install list).eq_error hanswer]
    rfl

end Profile

/-! ## Profiles for players -/

namespace Host

variable {σ L : Type} {profile : Profile} {h after : Host σ L} {slot : Nat} {error : HostError}

/-- A table is refused for want of a player, or by the player. -/
theorem of_configure_eq_error {u : BindingTable}
    (herror : h.configure slot u = (.error error, after)) :
    (h.player? slot = none ∧ error = .unknownPlayer slot) ∨ ∃ first, error = .bind first := by
  rw [configure] at herror
  cases hp : h.player? slot with
  | none =>
    rw [modifyPlayer_of_none hp] at herror
    cases herror
    exact .inl ⟨rfl, rfl⟩
  | some p =>
    rw [modifyPlayer_of_some hp] at herror
    -- a player that is there can only refuse the table
    obtain ⟨first, -, hfirst⟩ := Except.mapError_eq_error.1 (Prod.ext_iff.1 herror).1
    exact .inr ⟨first, hfirst.symm⟩

/-- A profile is applied before the player is looked for, so its own errors come first. -/
theorem applyProfile_eq_error_apply {first : ApplyError} :
    h.applyProfile slot profile = (.error (.apply first), after) ↔
      profile.apply h.neutralTable = .error first ∧ after = h := by
  cases happly : profile.apply h.neutralTable with
  | error error =>
    rw [applyProfile_of_error happly]
    simp [eq_comm]
  | ok u =>
    rw [applyProfile_of_ok happly]
    refine ⟨fun herror => ?_, fun herror => nomatch herror.1⟩
    rcases of_configure_eq_error herror with ⟨-, herror⟩ | ⟨_, herror⟩ <;> exact nomatch herror

/-- Only a profile that can be applied misses its player. -/
theorem applyProfile_eq_error_unknownPlayer :
    h.applyProfile slot profile = (.error (.unknownPlayer slot), after) ↔
      (h.player? slot = none ∧ ∃ u, profile.apply h.neutralTable = .ok u) ∧ after = h := by
  cases happly : profile.apply h.neutralTable with
  | error error =>
    rw [applyProfile_of_error happly]
    simp
  | ok u =>
    rw [applyProfile_of_ok happly]
    constructor
    · intro herror
      -- what a table is refused for is another error
      rcases of_configure_eq_error herror with ⟨hp, -⟩ | ⟨_, hother⟩
      · rw [configure, modifyPlayer_of_none hp] at herror
        exact ⟨⟨hp, u, rfl⟩, (Prod.ext_iff.1 herror).2.symm⟩
      · exact nomatch hother
    · rintro ⟨⟨hp, -⟩, rfl⟩
      rw [configure, modifyPlayer_of_none hp]

end Host

namespace Profile

variable {σ L : Type}

/-- What comes of applying a profile.  It succeeds exactly if all of its actions are declared, none
    of them is named twice and each expression passes the check for its action; the table then has
    the bindings of the profile and nothing else.  A name that is not declared is the fault,
    wherever it stands; only if there is none, the entries are taken one by one, and the first one
    that names an action again or has an expression that is refused is the fault.  The bindings that
    the table had play no part.  A host reports such faults first, and only then that there is no
    player, and stays as it is in all these cases. -/
theorem apply_outcome (profile : Profile) (t : BindingTable) :
    ((∃ u, profile.apply t = .ok u) ↔
      (∀ entry ∈ profile.bindings, entry.Declared t.actions) ∧
        (profile.bindings.map ProfileEntry.key).Nodup ∧
        ∀ entry ∈ profile.bindings, ∃ b, entry.check t.signals = .ok b) ∧
    (∀ u, profile.apply t = .ok u →
      u.actions = t.actions ∧ u.signals = t.signals ∧ profile.Fills u) ∧
    (∀ c name, profile.apply t = .error (.unknownAction c name) ↔
      ∃ front entry back, profile.bindings = front ++ entry :: back ∧
        (∀ other ∈ front, other.Declared t.actions) ∧ ¬entry.Declared t.actions ∧
          c = entry.category ∧ name = entry.action) ∧
    (∀ error, profile.apply t = .error (.bind error) ↔
      (∀ entry ∈ profile.bindings, entry.Declared t.actions) ∧
        ∃ front entry back, profile.bindings = front ++ entry :: back ∧
          (front.map ProfileEntry.key).Nodup ∧
          (∀ other ∈ front, ∃ b, other.check t.signals = .ok b) ∧
          if entry.key ∈ front.map ProfileEntry.key then
            error = .duplicateAction entry.category entry.action
          else entry.check t.signals = .error error) ∧
    (∀ base : BindingTable, base.actions = t.actions → base.signals = t.signals →
      profile.apply base = profile.apply t) ∧
    ∀ (h : Host σ L) slot, h.actions = t.actions → h.signals = t.signals →
      (∀ error after, h.applyProfile slot profile = (.error (.apply error), after) ↔
        profile.apply t = .error error ∧ after = h) ∧
      ∀ after, h.applyProfile slot profile = (.error (.unknownPlayer slot), after) ↔
        (h.player? slot = none ∧ ∃ u, profile.apply t = .ok u) ∧ after = h := by
  refine ⟨exists_apply, fun u hu => fills_of_apply hu, fun c name => apply_eq_error_unknownAction,
    fun error => apply_eq_error_bind, fun base => apply_congr, fun h slot hactions hsignals => ?_⟩
  -- a host applies the profile to its neutral table, which has the same actions and signals
  have happly : profile.apply h.neutralTable = profile.apply t := apply_congr hactions hsignals
  rw [← happly]
  exact ⟨fun _ _ => Host.applyProfile_eq_error_apply,
    fun _ => Host.applyProfile_eq_error_unknownPlayer⟩

/-- A name that two categories have is two actions.  Where an action is named twice, an expression
    does not fit and a name is not declared, the fault is the name, though it stands last; without
    it the fault is what comes first.  That there is no player comes after all of them. -/
theorem apply_outcome_of_faults :
    let actions : ActionSet := ⟨0, ["jump"], ["jump"], ["aim"]⟩
    let t : BindingTable := .neutral actions .all
    let jump : ProfileEntry := ⟨"jump", .digital, .input (.button .faceDown)⟩
    let press : ProfileEntry := ⟨"jump", .analog1, .input (.trigger .left)⟩
    let again : ProfileEntry := ⟨"jump", .digital, .input (.stick .left)⟩
    let aim : ProfileEntry := ⟨"aim", .analog2, .input (.button .faceDown)⟩
    let fly : ProfileEntry := ⟨"fly", .digital, .input (.button .faceDown)⟩
    let h : Host SimulatedPad String := .create actions (.create 1 .all) .default
    Profile.apply ⟨"pad", [jump, press, again, aim, fly]⟩ t =
        .error (.unknownAction .digital "fly") ∧
      Profile.apply ⟨"pad", [jump, press, again, aim]⟩ t =
        .error (.bind (.duplicateAction .digital "jump")) ∧
      Profile.apply ⟨"pad", [jump, press, aim, again]⟩ t =
        .error (.bind (.typeMismatch "aim" .analog2 .digital)) ∧
      (∃ u, Profile.apply ⟨"pad", [jump, press]⟩ t = .ok u) ∧
      h.applyProfile 5 ⟨"pad", [jump, press, again, aim, fly]⟩ =
        (.error (.apply (.unknownAction .digital "fly")), h) ∧
      h.applyProfile 5 ⟨"pad", [jump, press]⟩ = (.error (.unknownPlayer 5), h) := by
  intro actions t jump press again aim fly h
  obtain ⟨-, -, hname, -, -, hhost⟩ :=
    @apply_outcome SimulatedPad String ⟨"pad", [jump, press, again, aim, fly]⟩ t
  obtain ⟨-, -, -, hagain, -⟩ :=
    @apply_outcome SimulatedPad String ⟨"pad", [jump, press, again, aim]⟩ t
  obtain ⟨-, -, -, haim, -⟩ :=
    @apply_outcome SimulatedPad String ⟨"pad", [jump, press, aim, again]⟩ t
  obtain ⟨hok, -, -, -, -, hhost'⟩ := @apply_outcome SimulatedPad String ⟨"pad", [jump, press]⟩ t
  -- the undeclared name stands last, so that all entries in front of it are declared
  have hdeclared : ∀ entry ∈ [jump, press, again, aim], entry.Declared actions := by decide
  have hdeclared' : ∀ entry ∈ [jump, press, aim, again], entry.Declared actions := by decide
  have hfront : ∀ entry ∈ [jump, press], ∃ b, entry.check .all = .ok b := by
    rintro _ (_ | ⟨_, _ | ⟨_, ⟨⟩⟩⟩)
    · exact ⟨_, rfl⟩
    · exact ⟨_, rfl⟩
  have hfly : Profile.apply ⟨"pad", [jump, press, again, aim, fly]⟩ t =
      .error (.unknownAction .digital "fly") :=
    (hname _ _).2 ⟨[jump, press, again, aim], fly, [], rfl, hdeclared, by decide, rfl, rfl⟩
  have hboth : ∃ u, Profile.apply ⟨"pad", [jump, press]⟩ t = .ok u :=
    hok.2 ⟨by decide, by decide, hfront⟩
  exact ⟨hfly,
    (hagain _).2 ⟨hdeclared, [jump, press], again, [aim], rfl, by decide, hfront, rfl⟩,
    (haim _).2 ⟨hdeclared', [jump, press], aim, [again], rfl, by decide, hfront, rfl⟩, hboth,
    ((hhost h 5 rfl rfl).1 _ _).2 ⟨hfly, rfl⟩, ((hhost' h 5 rfl rfl).2 _).2 ⟨⟨rfl, hboth⟩, rfl⟩⟩

end Profile

end InputMap
