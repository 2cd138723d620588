import InputMap.Proofs.BindingTable.WellFormed

/-!
# What a changed table holds

A change of a table that takes place is seen here action by action: which binding does each action
have afterwards?

## Key results

- `BindingTable.rebound_of_bind`: one action has another binding, all others have theirs
- `BindingTable.binding?_install`: the actions of a list have its bindings, all others are at rest
-/

namespace InputMap.BindingTable

variable {t u : BindingTable} {a : ActionId} {b : Binding} {e : Expr} {i : Nat}

/-- The table with one action bound to an expression and everything else as it was. -/
structure Rebound (t : BindingTable) (a : ActionId) (e : Expr) (u : BindingTable) : Prop where
  actions_eq : u.actions = t.actions
  signals_eq : u.signals = t.signals
  length_eq : u.bindings.length = t.bindings.length
  binding?_self : u.binding? a = some ⟨e, a.category⟩
  binding?_of_ne : ∀ c, c ≠ a → u.binding? c = t.binding? c

/-- Binding an action gives it the expression, and leaves all other actions alone. -/
theorem WellFormed.rebound_of_bind (h : t.WellFormed) (hu : t.bind a e = (.ok (), u)) :
    t.Rebound a e u := by
  obtain ⟨i, b, hi, hb, rfl⟩ := bind_eq_ok.1 hu
  obtain ⟨-, rfl⟩ := Binding.check_eq_ok.1 hb
  have hset := binding?_set h.length_bindings hi ⟨e, a.category⟩
  refine ⟨rfl, rfl, List.length_set, ?_, fun c hc => ?_⟩
  · rw [hset, if_pos rfl]
  · rw [hset, if_neg hc]

/-- Placing the bindings of a list: its actions get the bindings that stand there, and are none of
    those that were bound before; all other actions keep theirs. -/
theorem WellFormed.binding?_place {seen : List ActionId} {bindings placed : List Binding}
    {list : List (ActionId × Expr)} (h : WellFormed { t with bindings })
    (hplaced : t.place seen bindings list = .ok placed) :
    (∀ a e, (a, e) ∈ list →
      a ∉ seen ∧ binding? { t with bindings := placed } a = some ⟨e, a.category⟩) ∧
    ∀ a, a ∉ list.map (·.1) →
      binding? { t with bindings := placed } a = binding? { t with bindings } a := by
  -- on the list; what is placed is not replaced later, since no action stands there twice
  induction list generalizing seen bindings with
  | nil =>
    cases hplaced
    exact ⟨fun _ _ hmem => absurd hmem List.not_mem_nil, fun _ _ => rfl⟩
  | cons head rest ih =>
    obtain ⟨a, e⟩ := head
    simp only [BindingTable.place] at hplaced
    split at hplaced
    · cases hplaced
    · rename_i hfresh
      obtain ⟨⟨i, b⟩, hcheck, hrest⟩ := Except.bind_eq_ok.1 hplaced
      obtain ⟨hi, hb⟩ := check_eq_ok.1 hcheck
      obtain ⟨-, rfl⟩ := Binding.check_eq_ok.1 hb
      obtain ⟨hlisted, hunlisted⟩ := ih (h.set hi (Binding.fits_of_check hb)) hrest
      have hset := binding?_set (t := { t with bindings }) h.length_bindings hi ⟨e, a.category⟩
      constructor
      · -- the first entry is out of the way of the rest, and the rest is by induction
        intro a' e' hmem
        rcases List.mem_cons.1 hmem with heq | hmem
        · cases heq
          have hother : a ∉ rest.map (·.1) := by
            intro hagain
            obtain ⟨⟨_, e'⟩, hlater, rfl⟩ := List.mem_map.1 hagain
            exact (hlisted _ e' hlater).1 List.mem_cons_self
          refine ⟨hfresh, ?_⟩
          rw [hunlisted a hother, hset, if_pos rfl]
        · obtain ⟨hnew, hbinding⟩ := hlisted a' e' hmem
          exact ⟨fun hseen => hnew (List.mem_cons_of_mem _ hseen), hbinding⟩
      · intro a' hmem
        rw [List.map_cons, List.mem_cons, not_or] at hmem
        rw [hunlisted a' hmem.2, hset, if_neg hmem.1]

/-- Installing a list: its actions have the bindings that stand there, and all others are at
    rest. -/
theorem binding?_install {list : List (ActionId × Expr)} (hu : t.install list = (.ok (), u)) :
    u.actions = t.actions ∧ u.signals = t.signals ∧
      (∀ a e, (a, e) ∈ list → u.binding? a = some ⟨e, a.category⟩) ∧
      ∀ a ∈ t.actions.order, a ∉ list.map (·.1) → u.binding? a = some (.neutral a.category) := by
  obtain ⟨placed, hplaced, rfl⟩ := install_eq_ok.1 hu
  obtain ⟨hlisted, hunlisted⟩ :=
    (wellFormed_neutral t.actions t.signals).binding?_place (t := t) hplaced
  refine ⟨rfl, rfl, fun a e hmem => (hlisted a e hmem).2, fun a ha hother => ?_⟩
  obtain ⟨i, hi⟩ := List.getElem?_of_mem ha
  rw [hunlisted a hother]
  exact binding?_neutral (ActionSet.getElem?_order.1 hi) t.signals

end InputMap.BindingTable
