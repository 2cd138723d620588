import Mathlib.Data.List.Induction
import Mathlib.Data.List.Nodup
import InputMap.Proofs.BindingTable.Contents

/-!
# Lists that can be installed

Installing a list places its entries one after the other, and the first one that cannot be placed
decides what the error is.  So a list is looked at in two parts: a front that can be placed as a
whole, and the rest, which is placed on top of it.

## Key results

- `place_append`: a list is placed part by part
- `Accepts.exists_install`: different actions that can all be bound can be installed
- `install_eq_error`: the first entry that offends decides what the error is
-/

namespace InputMap.BindingTable

variable {t u : BindingTable} {seen : List ActionId} {list front : List (ActionId × Expr)}
  {entry : ActionId × Expr} {a : ActionId} {e : Expr} {error : BindError}

/-- A list that can be installed: no action stands there twice, and each entry can be bound. -/
structure Accepts (t : BindingTable) (list : List (ActionId × Expr)) : Prop where
  nodup : (list.map (·.1)).Nodup
  exists_check : ∀ a e, (a, e) ∈ list → ∃ placed, t.check a e = .ok placed

/-- A list is placed part by part: the second part finds the actions of the first one seen. -/
theorem place_append (t : BindingTable) (seen : List ActionId) (bindings : List Binding)
    (front back : List (ActionId × Expr)) :
    t.place seen bindings (front ++ back) =
      t.place seen bindings front >>= fun placed =>
        t.place ((front.map (·.1)).reverse ++ seen) placed back := by
  -- on the front; its actions are met before the back is looked at
  induction front generalizing seen bindings with
  | nil => rfl
  | cons head rest ih =>
    obtain ⟨a, e⟩ := head
    simp only [List.cons_append, place]
    split
    · rfl
    · cases t.check a e with
      | error error => rfl
      | ok placed =>
        have hrest := ih (a :: seen) (bindings.set placed.1 placed.2)
        rw [List.map_cons, List.reverse_cons, List.append_assoc]
        exact hrest

/-- A list that can be installed is placed as a whole, if none of its actions was seen before. -/
theorem Accepts.exists_place (h : t.Accepts list) (hfresh : (list.map (·.1)).Disjoint seen)
    (bindings : List Binding) : ∃ placed, t.place seen bindings list = .ok placed := by
  induction list generalizing seen bindings with
  | nil => exact ⟨bindings, rfl⟩
  | cons head rest ih =>
    obtain ⟨a, e⟩ := head
    obtain ⟨hother, hnodup⟩ := List.nodup_cons.1 h.nodup
    obtain ⟨hnew, hfresh⟩ := List.disjoint_cons_left.1 hfresh
    obtain ⟨⟨i, b⟩, hcheck⟩ := h.exists_check a e List.mem_cons_self
    have hrest : t.Accepts rest :=
      ⟨hnodup, fun c f hmem => h.exists_check c f (List.mem_cons_of_mem _ hmem)⟩
    -- the rest finds one more action seen, and that one does not come again
    obtain ⟨placed, hplaced⟩ :=
      ih hrest (List.disjoint_cons_right.2 ⟨hother, hfresh⟩) (bindings.set i b)
    refine ⟨placed, ?_⟩
    rw [place, if_neg hnew, hcheck]
    exact hplaced

/-- A list that is accepted can be installed. -/
theorem Accepts.exists_install (h : t.Accepts list) : ∃ u, t.install list = (.ok (), u) := by
  obtain ⟨placed, hplaced⟩ :=
    h.exists_place (List.disjoint_nil_right _) (neutralBindings t.actions)
  exact ⟨_, install_eq_ok.2 ⟨placed, hplaced, rfl⟩⟩

/-- The actions of a list that can be installed belong to the table. -/
theorem Accepts.contains (h : t.Accepts list) (ha : a ∈ list.map (·.1)) :
    t.actions.contains a = true := by
  obtain ⟨⟨_, e⟩, hmem, rfl⟩ := List.mem_map.1 ha
  obtain ⟨placed, hcheck⟩ := h.exists_check _ e hmem
  obtain ⟨hposition, -⟩ := check_eq_ok.1 hcheck
  exact ActionSet.mem_order_iff.1 (List.mem_of_getElem? (ActionSet.getElem?_order.2 hposition))

/-! ## The first entry that offends -/

/-- Why an entry of a list cannot be placed behind the actions in `seen`: its action is one of them,
    or its expression is refused. -/
inductive Offends (t : BindingTable) (seen : List ActionId) : ActionId × Expr → BindError → Prop
  | again {a : ActionId} {e : Expr} (h : a ∈ seen) :
    Offends t seen (a, e) (.duplicateAction a.category (t.actions.describe a))
  | refused {a : ActionId} {e : Expr} {error : BindError} (h : a ∉ seen)
    (hcheck : t.check a e = .error error) : Offends t seen (a, e) error

/-- What stands in front is placed, and then the entry is met. -/
theorem Accepts.install_append_of_offends (hfront : t.Accepts front)
    (h : t.Offends (front.map (·.1)) entry error) (back : List (ActionId × Expr)) :
    t.install (front ++ entry :: back) = (.error error, t) := by
  obtain ⟨placed, hplaced⟩ :=
    hfront.exists_place (List.disjoint_nil_right _) (neutralBindings t.actions)
  have hplace : t.place [] (neutralBindings t.actions) (front ++ entry :: back) = .error error := by
    rw [place_append, hplaced]
    -- what was seen is kept in reverse, which membership does not notice
    show t.place ((front.map (·.1)).reverse ++ []) placed (entry :: back) = _
    rw [List.append_nil]
    cases h with
    | again hseen => rw [place, if_pos (List.mem_reverse.2 hseen)]
    | refused hnew hcheck =>
      rw [place, if_neg (fun hseen => hnew (List.mem_reverse.1 hseen)), hcheck]
      rfl
  rw [install_eq, hplace]
  rfl

/-- One more entry that does not offend. -/
theorem Accepts.concat (h : t.Accepts front) (hnew : a ∉ front.map (·.1)) {p : Nat × Binding}
    (hcheck : t.check a e = .ok p) : t.Accepts (front ++ [(a, e)]) where
  nodup := by
    rw [List.map_append, List.map_cons, List.map_nil]
    exact List.concat_eq_append ▸ List.Nodup.concat hnew h.nodup
  exists_check c f hmem := by
    rcases List.mem_append.1 hmem with hmem | hmem
    · exact h.exists_check c f hmem
    · cases List.mem_singleton.1 hmem
      exact ⟨p, hcheck⟩

/-- A list can be installed, or it has a first entry that offends. -/
theorem accepts_or_offends (t : BindingTable) (list : List (ActionId × Expr)) :
    t.Accepts list ∨ ∃ front entry back error, list = front ++ entry :: back ∧ t.Accepts front ∧
      t.Offends (front.map (·.1)) entry error := by
  -- on the end of the list; only its last entry is looked at
  induction list using List.reverseRecOn with
  | nil => exact .inl ⟨List.nodup_nil, fun _ _ hmem => absurd hmem List.not_mem_nil⟩
  | append_singleton list last ih =>
    obtain ⟨a, e⟩ := last
    rcases ih with haccepts | ⟨front, entry, back, error, rfl, hfront, hoffends⟩
    · by_cases hseen : a ∈ list.map (·.1)
      · exact .inr ⟨list, (a, e), [], _, rfl, haccepts, .again hseen⟩
      · cases hcheck : t.check a e with
        | error error => exact .inr ⟨list, (a, e), [], error, rfl, haccepts, .refused hseen hcheck⟩
        | ok p => exact .inl (haccepts.concat hseen hcheck)
    · refine .inr ⟨front, entry, back ++ [(a, e)], error, ?_, hfront, hoffends⟩
      rw [List.append_assoc, List.cons_append]

/-- A list that can be installed is accepted. -/
theorem accepts_of_install (hu : t.install list = (.ok (), u)) : t.Accepts list := by
  rcases t.accepts_or_offends list with
    haccepts | ⟨front, entry, back, error, rfl, hfront, hoffends⟩
  · exact haccepts
  · rw [hfront.install_append_of_offends hoffends back] at hu
    exact nomatch hu

/-- The first entry that offends decides what the error is, and the table stays as it was. -/
theorem install_eq_error :
    t.install list = (.error error, u) ↔
      (∃ front entry back, list = front ++ entry :: back ∧ t.Accepts front ∧
        t.Offends (front.map (·.1)) entry error) ∧ u = t := by
  constructor
  · intro herror
    rcases t.accepts_or_offends list with
      haccepts | ⟨front, entry, back, first, hlist, hfront, hoffends⟩
    · -- a list that is accepted is not refused
      obtain ⟨u, hu⟩ := haccepts.exists_install
      exact nomatch hu.symm.trans herror
    · -- the offence that was found is the one that was reported
      have hfirst := hfront.install_append_of_offends hoffends back
      rw [← hlist, herror] at hfirst
      cases hfirst
      exact ⟨⟨front, entry, back, hlist, hfront, hoffends⟩, rfl⟩
  · rintro ⟨⟨front, entry, back, rfl, hfront, hoffends⟩, rfl⟩
    exact hfront.install_append_of_offends hoffends back

end InputMap.BindingTable
