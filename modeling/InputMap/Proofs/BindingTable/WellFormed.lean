import InputMap.BindingTable
import InputMap.Proofs.ActionSet.Order
import InputMap.Proofs.Change
import InputMap.Proofs.Expr.Typing

/-!
# Well-formed tables

A table is well formed if it has one binding for each action, and each binding fits its action: it
has the action's category and is accepted with the signals of the table.  Tables start well formed,
and each change keeps them so.  For each change there is one equation that says what it asks and
what it writes; the other proofs never open the change itself.  All of them ask first and write
last, so that a table is left as it was wherever on its way a change is refused.

## Key results

- `bind_eq`, `unbind_eq`, `install_eq`, `rebase_eq`: what a change asks and what it writes
- `atomic_bind`, `atomic_unbind`, `atomic_install`, `atomic_rebase`: a refused change leaves the
  table as it was
- `bind_eq_ok`, `unbind_eq_ok`, `install_eq_ok`, `rebase_eq_ok`: what a change that takes place does
- `BindingTable.Reachable.wellFormed`: tables are well formed after any changes
-/

namespace InputMap

variable {signals available : SignalSet}

/-! ## Signals -/

/-- Asks a set for each signal of a list, and refuses the first one that it does not have. -/
def requireSignals (available : SignalSet) (read : List Signal) : Except BindError Unit :=
  match read.find? fun s => decide (s ∉ available) with
  | some s => .error (.unknownSignal s)
  | none => .ok ()

/-- A list is granted if the set has all of its signals. -/
theorem requireSignals_eq_ok {read : List Signal} :
    requireSignals available read = .ok () ↔ ∀ s ∈ read, s ∈ available := by
  have hnone : read.find? (fun s => decide (s ∉ available)) = none ↔ ∀ s ∈ read, s ∈ available := by
    simp only [List.find?_eq_none, decide_eq_true_eq, Decidable.not_not]
  rw [← hnone, requireSignals]
  cases read.find? fun s => decide (s ∉ available) <;> simp

/-! ## Bindings -/

namespace Binding

/-- A binding has the category of its action and is accepted with the signals that can be read. -/
structure Fits (b : Binding) (a : ActionId) (signals : SignalSet) : Prop where
  category_eq : b.category = a.category
  check_eq : ∀ name, Binding.check name b.category b.expr signals = .ok b

variable {b : Binding} {a : ActionId} {name : String} {c : Category} {e : Expr}

/-- An expression is accepted for a category if that is what the rules give it. -/
theorem check_eq_ok :
    Binding.check name c e signals = .ok b ↔ e.HasCategory c signals c ∧ b = ⟨e, c⟩ := by
  simp only [check, Except.bind_eq_ok, Expr.infer_eq_ok_iff]
  constructor
  · rintro ⟨found, hfound, hb⟩
    -- the category that was found is compared with the asked one last
    split at hb
    · rename_i heq
      cases hb
      exact ⟨heq ▸ hfound, rfl⟩
    · exact nomatch hb
  · rintro ⟨h, rfl⟩
    refine ⟨c, h, ?_⟩
    rw [if_pos rfl]
    rfl

/-- That a binding fits is said by its category and by the rules, whatever its action is called. -/
theorem fits_iff :
    b.Fits a signals ↔ b.category = a.category ∧ b.expr.HasCategory b.category signals b.category :=
  ⟨fun h => ⟨h.category_eq, (check_eq_ok.1 (h.check_eq "")).1⟩,
    fun h => ⟨h.1, fun _ => check_eq_ok.2 ⟨h.2, rfl⟩⟩⟩

/-- The expression of a binding that fits has the binding's category, with the signals at hand. -/
theorem Fits.hasCategory (h : b.Fits a signals) :
    b.expr.HasCategory b.category signals b.category := (fits_iff.1 h).2

/-- What a check for an action accepts fits the action. -/
theorem fits_of_check (h : Binding.check name a.category e signals = .ok b) : b.Fits a signals := by
  obtain ⟨hcategory, rfl⟩ := check_eq_ok.1 h
  exact fits_iff.2 ⟨rfl, hcategory⟩

/-- A neutral binding fits every action of its category, whatever the signals are. -/
theorem fits_neutral (a : ActionId) (signals : SignalSet) :
    (neutral a.category).Fits a signals := by
  refine fits_iff.2 ⟨rfl, ?_⟩
  have hfinite : a.category.neutral.isFinite = true := by cases a.category <;> rfl
  have h : (Expr.constant a.category.neutral).HasCategory a.category signals
      a.category.neutral.category := .constant hfinite
  rwa [Value.category_neutral] at h

/-- A binding fits with any other signals that have those that it reads. -/
theorem Fits.mono {others : SignalSet} (h : b.Fits a signals)
    (hs : ∀ s ∈ b.expr.signals, s ∈ others) :
    b.Fits a others :=
  fits_iff.2 ⟨h.category_eq, h.hasCategory.mono hs⟩

end Binding

/-! ## Tables -/

namespace BindingTable

variable {t u : BindingTable} {a : ActionId} {b : Binding} {e : Expr} {i : Nat}

/-- The binding of an action is the one at the action's place. -/
theorem binding?_eq_some_iff :
    t.binding? a = some b ↔ ∃ i, t.actions.position? a = some i ∧ t.bindings[i]? = some b := by
  simp only [binding?, Option.bind_eq_bind, Option.bind_eq_some_iff]

/-- A table has one binding for each action, and each binding fits its action. -/
structure WellFormed (t : BindingTable) : Prop where
  length_bindings : t.bindings.length = t.actions.size
  fits : ∀ a b, t.binding? a = some b → b.Fits a t.signals

/-- The entries of a table are its actions with their bindings. -/
theorem mem_entries_iff : (a, b) ∈ t.entries ↔ t.binding? a = some b := by
  rw [binding?_eq_some_iff, entries, List.mem_iff_getElem?]
  simp only [List.getElem?_zip_eq_some, ActionSet.getElem?_order]

/-- There is one entry for each action. -/
theorem WellFormed.length_entries (h : t.WellFormed) : t.entries.length = t.actions.size := by
  rw [entries, List.length_zip, h.length_bindings, ActionSet.length_order, Nat.min_self]

/-- The entries stand in evaluation order. -/
theorem WellFormed.map_fst_entries (h : t.WellFormed) : t.entries.map (·.1) = t.actions.order := by
  refine List.map_fst_zip (Nat.le_of_eq ?_)
  rw [ActionSet.length_order, h.length_bindings]

/-- The entries of a well-formed table leave none of its bindings out. -/
theorem WellFormed.map_snd_entries (h : t.WellFormed) : t.entries.map (·.2) = t.bindings := by
  refine List.map_snd_zip (Nat.le_of_eq ?_)
  rw [ActionSet.length_order, h.length_bindings]

/-- Every action has a binding. -/
theorem WellFormed.exists_binding? (h : t.WellFormed) (ha : a ∈ t.actions.order) :
    ∃ b, t.binding? a = some b := by
  rw [← h.map_fst_entries] at ha
  obtain ⟨⟨_, b⟩, hentry, rfl⟩ := List.mem_map.1 ha
  exact ⟨b, mem_entries_iff.1 hentry⟩

/-- An action that has a binding is one of the table's set. -/
theorem contains_of_binding? (h : t.binding? a = some b) : t.actions.contains a = true := by
  obtain ⟨i, hi, -⟩ := binding?_eq_some_iff.1 h
  exact ActionSet.mem_order_iff.1 (List.mem_of_getElem? (ActionSet.getElem?_order.2 hi))

/-! ### What a change does -/

/-- A place is granted to the actions of the table's set. -/
theorem position_eq_ok : t.position a = .ok i ↔ t.actions.position? a = some i := by
  simp only [position]
  split
  · rename_i j hj
    simp only [hj, Except.ok.injEq, Option.some.injEq]
  · rename_i hnone
    simp only [hnone, reduceCtorEq]

/-- A check grants the place of the action and the binding that is to stand there. -/
theorem check_eq_ok {p : Nat × Binding} :
    t.check a e = .ok p ↔
      t.actions.position? a = some p.1 ∧
        Binding.check (t.actions.describe a) a.category e t.signals = .ok p.2 := by
  simp only [check, Except.bind_eq_ok, position_eq_ok]
  constructor
  · rintro ⟨i, hi, b, hb, hp⟩
    cases hp
    exact ⟨hi, hb⟩
  · exact fun ⟨hi, hb⟩ => ⟨p.1, hi, p.2, hb, rfl⟩

/-- Binding one action asks for its place and for a check of the expression. -/
theorem bind_eq (t : BindingTable) (a : ActionId) (e : Expr) :
    t.bind a e =
      settled t (t.check a e) fun p => { t with bindings := t.bindings.set p.1 p.2 } := by
  rw [bind, changing_bind, changing_lift]
  cases t.check a e <;> rfl

/-- Putting one action to rest asks for its place only. -/
theorem unbind_eq (t : BindingTable) (a : ActionId) :
    t.unbind a = settled t (t.position a) fun i =>
      { t with bindings := t.bindings.set i (.neutral a.category) } := by
  rw [unbind, changing_bind, changing_lift]
  cases t.position a <;> rfl

/-- Installing a list asks for all of its entries, and puts in the bindings that come out. -/
theorem install_eq (t : BindingTable) (list : List (ActionId × Expr)) :
    t.install list = settled t (t.place [] (neutralBindings t.actions) list) fun bindings =>
      { t with bindings } := by
  rw [install, changing_bind, changing_lift]
  cases t.place [] (neutralBindings t.actions) list <;> rfl

/-- Moving a table asks for the signals that its bindings read. -/
theorem rebase_eq (t : BindingTable) (signals : SignalSet) :
    t.rebase signals =
      settled t (requireSignals signals (t.bindings.flatMap fun b => b.expr.signals)) fun _ =>
        { t with signals } := by
  have hread : requireSignals signals (t.bindings.flatMap fun b => b.expr.signals) =
      match t.missingSignal? signals with
      | some s => .error (.unknownSignal s)
      | none => .ok () := rfl
  rw [rebase, hread]
  cases t.missingSignal? signals <;> rfl

/-! ### A refused change leaves the table -/

/-- An expression that is not accepted leaves the old binding. -/
theorem atomic_bind (t : BindingTable) (a : ActionId) (e : Expr) : Atomic t (t.bind a e) :=
  t.bind_eq a e ▸ atomic_settled _ _ _

/-- Putting an action of another set to rest leaves all bindings. -/
theorem atomic_unbind (t : BindingTable) (a : ActionId) : Atomic t (t.unbind a) :=
  t.unbind_eq a ▸ atomic_settled _ _ _

/-- However many entries have been placed when one of them offends, nothing of it is seen. -/
theorem atomic_install (t : BindingTable) (list : List (ActionId × Expr)) :
    Atomic t (t.install list) :=
  t.install_eq list ▸ atomic_settled _ _ _

/-- If a signal is missing, the table keeps its signals as well as its bindings. -/
theorem atomic_rebase (t : BindingTable) (signals : SignalSet) : Atomic t (t.rebase signals) :=
  t.rebase_eq signals ▸ atomic_settled _ _ _

/-! ### A change that takes place -/

/-- Binding takes place for an action of the set and an expression that is accepted for it. -/
theorem bind_eq_ok :
    t.bind a e = (.ok (), u) ↔
      ∃ i b, t.actions.position? a = some i ∧
        Binding.check (t.actions.describe a) a.category e t.signals = .ok b ∧
          u = { t with bindings := t.bindings.set i b } := by
  simp only [bind_eq, settled_eq_ok, check_eq_ok, Prod.exists, and_assoc]

/-- Every action of the set can be put to rest. -/
theorem unbind_eq_ok :
    t.unbind a = (.ok (), u) ↔
      ∃ i, t.actions.position? a = some i ∧
        u = { t with bindings := t.bindings.set i (.neutral a.category) } := by
  simp only [unbind_eq, settled_eq_ok, position_eq_ok]

/-- Installing takes place if the whole list can be placed on a table at rest. -/
theorem install_eq_ok {list : List (ActionId × Expr)} :
    t.install list = (.ok (), u) ↔
      ∃ bindings, t.place [] (neutralBindings t.actions) list = .ok bindings ∧
        u = { t with bindings } := by
  rw [install_eq, settled_eq_ok]

/-- A table can be moved if nothing that its bindings read is missing, and only its signals
    change. -/
theorem rebase_eq_ok :
    t.rebase signals = (.ok (), u) ↔
      (∀ b ∈ t.bindings, ∀ s ∈ b.expr.signals, s ∈ signals) ∧ u = { t with signals } := by
  rw [rebase_eq, settled_eq_ok, ← List.forall_mem_flatMap, ← requireSignals_eq_ok]
  exact ⟨fun ⟨_, hread, hu⟩ => ⟨hread, hu⟩, fun ⟨hread, hu⟩ => ⟨(), hread, hu⟩⟩

/-! ### Every change keeps a table well formed -/

/-- In a neutral table every action is at rest. -/
theorem binding?_neutral {actions : ActionSet} (ha : actions.position? a = some i)
    (signals : SignalSet) : (neutral actions signals).binding? a = some (.neutral a.category) := by
  have horder : actions.order[i]? = some a := ActionSet.getElem?_order.2 ha
  refine binding?_eq_some_iff.2 ⟨i, ha, ?_⟩
  rw [neutral, neutralBindings, List.getElem?_map, horder, Option.map_some]

/-- A table with every action at rest is well formed. -/
theorem wellFormed_neutral (actions : ActionSet) (signals : SignalSet) :
    (neutral actions signals).WellFormed where
  length_bindings := length_neutralBindings actions
  fits a b h := by
    obtain ⟨i, hi, -⟩ := binding?_eq_some_iff.1 h
    have ha : actions.position? a = some i := hi
    rw [binding?_neutral ha, Option.some.injEq] at h
    exact h ▸ Binding.fits_neutral a signals

/-- Replacing the binding of one action leaves those of all others. -/
theorem binding?_set (hlength : t.bindings.length = t.actions.size)
    (hi : t.actions.position? a = some i) (b : Binding) (c : ActionId) :
    binding? { t with bindings := t.bindings.set i b } c =
      if c = a then some b else t.binding? c := by
  by_cases hc : c = a
  · subst hc
    have hlt : i < t.bindings.length := by
      rw [hlength]
      exact ActionSet.position?_lt_size hi
    rw [if_pos rfl, binding?_eq_some_iff]
    exact ⟨i, hi, List.getElem?_set_self hlt⟩
  · rw [if_neg hc, binding?, binding?]
    cases hj : t.actions.position? c with
    | none => rfl
    | some j =>
      -- the other action has another place
      have hij : i ≠ j := by
        rintro rfl
        exact hc (ActionSet.position?_inj hj hi)
      simp only [Option.bind_eq_bind, Option.bind_some, List.getElem?_set_ne hij]

/-- Replacing the binding of one action by another one that fits. -/
theorem WellFormed.set (h : t.WellFormed) (hi : t.actions.position? a = some i)
    (hb : b.Fits a t.signals) : WellFormed { t with bindings := t.bindings.set i b } where
  length_bindings := by
    rw [List.length_set]
    exact h.length_bindings
  fits a' b' h' := by
    -- a look-up gives the new binding, or what it gave before
    rw [binding?_set h.length_bindings hi] at h'
    split at h'
    · rename_i heq
      cases h'
      exact heq ▸ hb
    · exact h.fits a' b' h'

/-- Binding keeps a table well formed, be it refused or not. -/
theorem WellFormed.bind (h : t.WellFormed) (a : ActionId) (e : Expr) :
    (t.bind a e).2.WellFormed := by
  refine (t.atomic_bind a e).preserves h fun u hu => ?_
  obtain ⟨i, b, hi, hb, rfl⟩ := bind_eq_ok.1 hu
  exact h.set hi (Binding.fits_of_check hb)

/-- So does putting an action to rest. -/
theorem WellFormed.unbind (h : t.WellFormed) (a : ActionId) : (t.unbind a).2.WellFormed := by
  refine (t.atomic_unbind a).preserves h fun u hu => ?_
  obtain ⟨i, hi, rfl⟩ := unbind_eq_ok.1 hu
  exact h.set hi (Binding.fits_neutral a t.signals)

/-- Placing the bindings of a list one after the other: each of them fits where it is put. -/
theorem WellFormed.place {seen : List ActionId} {bindings placed : List Binding}
    {list : List (ActionId × Expr)} (h : WellFormed { t with bindings })
    (hplaced : t.place seen bindings list = .ok placed) :
    WellFormed { t with bindings := placed } := by
  -- on the list; the bindings placed so far make a well-formed table
  induction list generalizing seen bindings with
  | nil =>
    cases hplaced
    exact h
  | cons head rest ih =>
    obtain ⟨a, e⟩ := head
    simp only [BindingTable.place] at hplaced
    split at hplaced
    · exact nomatch hplaced
    · obtain ⟨⟨i, b⟩, hcheck, hrest⟩ := Except.bind_eq_ok.1 hplaced
      obtain ⟨hi, hb⟩ := check_eq_ok.1 hcheck
      exact ih (h.set hi (Binding.fits_of_check hb)) hrest

/-- A list that is installed gives a well-formed table, whatever the table before was like. -/
theorem wellFormed_of_install {list : List (ActionId × Expr)} (hu : t.install list = (.ok (), u)) :
    u.WellFormed := by
  obtain ⟨bindings, hplace, rfl⟩ := install_eq_ok.1 hu
  exact (wellFormed_neutral t.actions t.signals).place (t := t) hplace

/-- So does installing a list. -/
theorem WellFormed.install (h : t.WellFormed) (list : List (ActionId × Expr)) :
    (t.install list).2.WellFormed :=
  (t.atomic_install list).preserves h fun _ => wellFormed_of_install

/-- A table that is moved reads signals that are there. -/
theorem WellFormed.rebase (h : t.WellFormed) (signals : SignalSet) :
    (t.rebase signals).2.WellFormed := by
  refine (t.atomic_rebase signals).preserves h fun u hu => ?_
  obtain ⟨hsignals, rfl⟩ := rebase_eq_ok.1 hu
  refine ⟨h.length_bindings, fun a b hb => ?_⟩
  obtain ⟨i, -, hget⟩ := binding?_eq_some_iff.1 hb
  exact (h.fits a b hb).mono (hsignals b (List.mem_of_getElem? hget))

/-- Whatever has been done to a table, one binding for each action is there, and it fits. -/
theorem Reachable.wellFormed (h : t.Reachable) : t.WellFormed := by
  -- on the changes that have led to the table; a refused one keeps it well formed as well
  induction h with
  | neutral actions signals => exact wellFormed_neutral actions signals
  | bind a e _ ih => exact ih.bind a e
  | unbind a _ ih => exact ih.unbind a
  | install list _ ih => exact ih.install list
  | rebase signals _ ih => exact ih.rebase signals

end BindingTable

end InputMap
