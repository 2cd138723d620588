import InputMap.Proofs.ActionSet.Names
import InputMap.Proofs.BindingTable.Placing
import InputMap.Proofs.Expr.Equality
import InputMap.Proofs.Profile.Application

/-!
# Exporting a table

The profile of a table has an entry for each action that is not at rest.  Applying it looks the
names up again and puts the other actions to rest, so that the table comes back.  It comes back up
to `==` only: an action may be bound to a negative zero, which counts as being at rest, and then it
is bound to a positive zero afterwards.

## Key results

- `Profile.sublist_ofTable`: the entries stand in evaluation order
- `BindingTable.WellFormed.exists_apply_ofTable`: the profile of a table can be applied
- `BindingTable.Reachable.apply_ofTable`: what comes out is the table again
-/

namespace InputMap

variable {t u base : BindingTable} {a : ActionId} {b : Binding} {name : String}

/-! ## The entries of a table -/

namespace BindingTable

/-- The actions of a table that are not at rest, with their bindings. -/
def active (t : BindingTable) : List (ActionId × Binding) :=
  t.entries.filter fun entry => !entry.2.isNeutral

/-- The active entries are the bindings that are not neutral. -/
theorem mem_active_iff : (a, b) ∈ t.active ↔ t.binding? a = some b ∧ b.isNeutral = false := by
  rw [active, List.mem_filter, mem_entries_iff, Bool.not_eq_true']

/-- The actions that are not at rest, in evaluation order. -/
theorem WellFormed.sublist_active (h : t.WellFormed) :
    (t.active.map (·.1)).Sublist t.actions.order := by
  rw [← h.map_fst_entries]
  exact List.filter_sublist.map _

end BindingTable

namespace Profile

/-- The entry of an action with its binding. -/
def entryOf (actions : ActionSet) (entry : ActionId × Binding) : ProfileEntry :=
  ⟨actions.describe entry.1, entry.1.category, entry.2.expr⟩

/-- A profile of a table has one entry for each active binding. -/
theorem bindings_ofTable (name : String) (t : BindingTable) :
    (ofTable name t).bindings = t.active.map (entryOf t.actions) := by
  rw [BindingTable.active, ← List.filterMap_eq_map, List.filterMap_filter]
  refine congrArg (t.entries.filterMap ·) (funext fun ⟨a, b⟩ => ?_)
  rw [exported?]
  cases b.isNeutral <;> rfl

/-- The profile of a table, action by action. -/
theorem bindings_ofTable_eq (h : t.WellFormed) (name : String) :
    (ofTable name t).bindings =
      t.actions.order.filterMap fun a =>
        (t.binding? a).bind fun b => exported? t.actions (a, b) := by
  rw [← h.map_fst_entries, List.filterMap_map]
  refine List.filterMap_congr fun ⟨a, b⟩ hentry => ?_
  rw [Function.comp_apply, BindingTable.mem_entries_iff.1 hentry, Option.bind_some]

/-- The entries of a table are found again under their names, and stand in evaluation order. -/
theorem sublist_ofTable (h : t.WellFormed) (hnames : ∀ c, (t.actions.names c).Nodup)
    (name : String) :
    ((ofTable name t).bindings.map fun entry =>
      t.actions.find? entry.category entry.action).Sublist (t.actions.order.map some) := by
  have hfind : ((ofTable name t).bindings.map fun entry =>
      t.actions.find? entry.category entry.action) = (t.active.map (·.1)).map some := by
    rw [bindings_ofTable, List.map_map, List.map_map]
    refine List.map_congr_left fun ⟨a, b⟩ hmem => ?_
    obtain ⟨hbinding, -⟩ := BindingTable.mem_active_iff.1 hmem
    exact ActionSet.find?_describe (hnames _) (BindingTable.contains_of_binding? hbinding)
  rw [hfind]
  exact h.sublist_active.map _

/-- No entry of a table is neutral. -/
theorem not_neutral_of_mem_ofTable (h : t.WellFormed) {entry : ProfileEntry}
    (hentry : entry ∈ (ofTable name t).bindings) :
    (entry.expr == .constant entry.category.neutral) = false := by
  rw [bindings_ofTable] at hentry
  obtain ⟨⟨a, b⟩, hmem, rfl⟩ := List.mem_map.1 hentry
  obtain ⟨hbinding, hactive⟩ := BindingTable.mem_active_iff.1 hmem
  -- the entry has the category of its action, and so does the binding
  have hcategory : b.category = a.category := (h.fits a b hbinding).category_eq
  rw [Binding.isNeutral, hcategory] at hactive
  exact hactive

/-- The names of a table's own profile are found again. -/
theorem resolve_ofTable (hnames : ∀ c, (t.actions.names c).Nodup) (name : String) :
    (ofTable name t).resolve t.actions =
      .ok (t.active.map fun entry => (entry.1, entry.2.expr)) := by
  rw [resolve_eq_ok, bindings_ofTable, List.forall₂_map_left_iff, List.forall₂_map_right_iff,
    List.forall₂_same]
  intro ⟨a, b⟩ hmem
  obtain ⟨hbinding, -⟩ := BindingTable.mem_active_iff.1 hmem
  exact ⟨ActionSet.find?_describe (hnames _) (BindingTable.contains_of_binding? hbinding), rfl⟩

end Profile

/-! ## Applying the profile of a table -/

namespace BindingTable

/-- A table whose signals include all that another one reads. -/
def Covers (base t : BindingTable) : Prop :=
  ∀ a b, t.binding? a = some b → ∀ s ∈ b.expr.signals, s ∈ base.signals

/-- Two tables for the same actions, with `==` bindings for each of them. -/
structure Same (t u : BindingTable) : Prop where
  actions_eq : u.actions = t.actions
  binding : ∀ a ∈ t.actions.order, ∃ b b',
    t.binding? a = some b ∧ u.binding? a = some b' ∧ (b' == b) = true

/-- What is bound in one table can be bound in another one. -/
theorem WellFormed.accepts_active (h : t.WellFormed) (hactions : base.actions = t.actions)
    (hcovers : base.Covers t) :
    base.Accepts (t.active.map fun entry => (entry.1, entry.2.expr)) where
  nodup := by
    rw [List.map_map]
    exact h.sublist_active.nodup (ActionSet.nodup_order t.actions)
  exists_check a e hmem := by
    obtain ⟨⟨a, b⟩, hactive, heq⟩ := List.mem_map.1 hmem
    cases heq
    obtain ⟨hbinding, -⟩ := mem_active_iff.1 hactive
    obtain ⟨i, hi, -⟩ := binding?_eq_some_iff.1 hbinding
    -- what the table has bound fits as well where more signals are at hand
    have hfits : b.Fits a base.signals := (h.fits a b hbinding).mono (hcovers a b hbinding)
    refine ⟨(i, b), check_eq_ok.2 ⟨by rwa [hactions], ?_⟩⟩
    have hcheck := hfits.check_eq (base.actions.describe a)
    rwa [hfits.category_eq] at hcheck

/-- The bindings that come out: an action that is not at rest has its own binding, and the others
    have the neutral one. -/
theorem WellFormed.exists_apply_ofTable (h : t.WellFormed)
    (hnames : ∀ c, (t.actions.names c).Nodup) (hactions : base.actions = t.actions)
    (hcovers : base.Covers t) (name : String) :
    ∃ u, (Profile.ofTable name t).apply base = .ok u ∧ u.WellFormed ∧ u.actions = t.actions ∧
      ∀ a b, t.binding? a = some b →
        u.binding? a = some (if b.isNeutral then .neutral a.category else b) := by
  obtain ⟨u, hu⟩ := (h.accepts_active hactions hcovers).exists_install
  obtain ⟨hkept, -, hlisted, hunlisted⟩ := binding?_install hu
  refine ⟨u, Profile.apply_eq_ok.2 ⟨_, ?_, hu⟩, wellFormed_of_install hu, hkept.trans hactions,
    fun a b hbinding => ?_⟩
  · rw [hactions]
    exact Profile.resolve_ofTable hnames name
  · cases hneutral : b.isNeutral with
    | true =>
      have ha : a ∈ base.actions.order := by
        rw [hactions]
        exact ActionSet.mem_order_iff.2 (contains_of_binding? hbinding)
      refine hunlisted a ha fun hmem => ?_
      -- what is listed is not at rest
      rw [List.map_map] at hmem
      obtain ⟨⟨_, b'⟩, hactive, rfl⟩ := List.mem_map.1 hmem
      obtain ⟨hbinding', hother⟩ := mem_active_iff.1 hactive
      cases hbinding.symm.trans hbinding'
      exact Bool.false_ne_true (hother.symm.trans hneutral)
    | false =>
      have hmem : (a, b.expr) ∈ t.active.map fun entry => (entry.1, entry.2.expr) :=
        List.mem_map.2 ⟨(a, b), mem_active_iff.2 ⟨hbinding, hneutral⟩, rfl⟩
      rw [hlisted a b.expr hmem, ← (h.fits a b hbinding).category_eq]
      rfl

/-- Putting to rest what counts as being at rest makes no difference up to `==`. -/
theorem WellFormed.same_of_binding? (h : t.WellFormed) (hactions : u.actions = t.actions)
    (hbinding : ∀ a b, t.binding? a = some b →
      u.binding? a = some (if b.isNeutral then .neutral a.category else b)) : t.Same u := by
  refine ⟨hactions, fun a ha => ?_⟩
  obtain ⟨b, hb⟩ := h.exists_binding? ha
  have hfits := h.fits a b hb
  refine ⟨b, _, hb, hbinding a b hb, ?_⟩
  split
  · rename_i hneutral
    rw [← hfits.category_eq]
    exact Binding.neutral_beq hneutral
  · exact hfits.beq_self

/-- Nor does it make a difference to the profile. -/
theorem WellFormed.ofTable_eq (h : t.WellFormed) (hu : u.WellFormed)
    (hactions : u.actions = t.actions)
    (hbinding : ∀ a b, t.binding? a = some b →
      u.binding? a = some (if b.isNeutral then .neutral a.category else b)) (name : String) :
    Profile.ofTable name u = Profile.ofTable name t := by
  have hbindings : (Profile.ofTable name u).bindings = (Profile.ofTable name t).bindings := by
    rw [Profile.bindings_ofTable_eq h, Profile.bindings_ofTable_eq hu, hactions]
    refine List.filterMap_congr fun a ha => ?_
    obtain ⟨b, hb⟩ := h.exists_binding? ha
    rw [hb, hbinding a b hb, Option.bind_some, Option.bind_some]
    -- a neutral binding is not exported, before as after
    cases hneutral : b.isNeutral with
    | true =>
      have hrest : (Binding.neutral a.category).isNeutral = true := Binding.isNeutral_neutral _
      simp only [if_true, Profile.exported?, hneutral, hrest]
    | false => rfl
  show Profile.mk name (Profile.ofTable name u).bindings = _
  rw [hbindings]
  rfl

/-- The profile of a table that changes have led to is applied to any table for the same actions
    that has the signals.  What comes out is the table again, up to `==`, and it has the same
    profile, with its entries in evaluation order and none of them neutral. -/
theorem Reachable.apply_ofTable {counter : SetCounter} {declarations : List (Category × String)}
    (hreach : t.Reachable) (hset : t.actions = .build counter declarations)
    (hactions : base.actions = t.actions) (hcovers : base.Covers t) (name : String) :
    ∃ u, (Profile.ofTable name t).apply base = .ok u ∧ t.Same u ∧
      Profile.ofTable name u = Profile.ofTable name t ∧
      (Profile.ofTable name u == Profile.ofTable name t) = true ∧
      ((Profile.ofTable name u).bindings.map fun entry =>
        u.actions.find? entry.category entry.action).Sublist (u.actions.order.map some) ∧
      ∀ entry ∈ (Profile.ofTable name u).bindings,
        (entry.expr == .constant entry.category.neutral) = false := by
  have hwf : t.WellFormed := hreach.wellFormed
  have hnames : ∀ c, (t.actions.names c).Nodup := by
    rw [hset]
    exact ActionSet.nodup_names_build counter declarations
  obtain ⟨u, happly, hu, hkept, hbinding⟩ :=
    hwf.exists_apply_ofTable hnames hactions hcovers name
  have hprofile := hwf.ofTable_eq hu hkept hbinding name
  -- `==` holds of the profile and itself, as no expression in it has a NaN
  have hnumbers : (Profile.ofTable name t).hasNumbers = true := by
    refine List.all_eq_true.2 fun entry hentry => ?_
    rw [Profile.bindings_ofTable] at hentry
    obtain ⟨⟨a, b⟩, hmem, rfl⟩ := List.mem_map.1 hentry
    exact (hwf.fits a b (mem_active_iff.1 hmem).1).hasCategory.hasNumbers
  refine ⟨u, happly, hwf.same_of_binding? hkept hbinding, hprofile, ?_, ?_, fun entry hentry => ?_⟩
  · rw [hprofile, Profile.beq_self, hnumbers]
  · exact Profile.sublist_ofTable hu (by rwa [hkept]) name
  · exact Profile.not_neutral_of_mem_ofTable hu hentry

/-- Two actions of the same name in different categories, and one bound to a negative zero.  The
    other table has fewer signals, and a binding of its own. -/
theorem apply_ofTable_of_look :
    let actions : ActionSet :=
      .build .zero [(.digital, "look"), (.analog1, "zoom"), (.analog2, "look")]
    let press : Binding := ⟨.input (.button .faceDown), .digital⟩
    let rest : Binding := ⟨.constant (.scalar (-0.0)), .analog1⟩
    let turn : Binding := ⟨.input (.stick .left), .analog2⟩
    let t : BindingTable := ⟨actions, .all, [press, rest, turn]⟩
    let signals : SignalSet := .ofList [.button .faceDown, .stick .left]
    let base : BindingTable := ⟨actions, signals, [.neutral .digital, ⟨.previous, .analog1⟩, turn]⟩
    t.Reachable ∧ base.Covers t ∧
      (Profile.ofTable "pad" t).bindings =
        [⟨"look", .digital, press.expr⟩, ⟨"look", .analog2, turn.expr⟩] ∧
      ∃ u, (Profile.ofTable "pad" t).apply base = .ok u ∧ t.Same u ∧
        (Profile.ofTable "pad" u == Profile.ofTable "pad" t) = true := by
  intro actions press rest turn t signals base
  have hreach : t.Reachable := .bind ⟨.analog2, 0, 0⟩ turn.expr (.bind ⟨.analog1, 0, 0⟩ rest.expr
    (.bind ⟨.digital, 0, 0⟩ press.expr (.neutral actions .all)))
  have hcovers : base.Covers t := by
    have hall : ∀ b ∈ t.bindings, ∀ s ∈ b.expr.signals, s ∈ base.signals := by decide
    intro a b hbinding
    obtain ⟨i, -, hget⟩ := binding?_eq_some_iff.1 hbinding
    exact hall b (List.mem_of_getElem? hget)
  have hactions : base.actions = t.actions := rfl
  -- the negative zero counts as neutral, and comes back as a positive one
  obtain ⟨u, happly, hsame, -, hprofile, -⟩ := hreach.apply_ofTable rfl hactions hcovers "pad"
  exact ⟨hreach, hcovers, by decide +kernel, u, happly, hsame, hprofile⟩

end BindingTable

end InputMap
