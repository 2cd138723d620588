import InputMap.ActionSet

/-!
# The order of actions

The list of all actions and the place of one action are computed apart from each other.  Here they
are tied together: the place of an action is where the list has it.

## Key results

- `getElem?_order`: an action stands in the list at its place and nowhere else
- `nodup_order`: no action stands in the list twice
-/

namespace InputMap.ActionSet

variable {actions : ActionSet} {a b : ActionId} {i : Nat}

/-- The ids of a category are numbered from zero. -/
theorem getElem?_ofCategory (actions : ActionSet) (c : Category) (j : Nat) :
    (actions.ofCategory c)[j]? =
      if j < (actions.names c).length then some ⟨c, j, actions.id⟩ else none := by
  simp only [ofCategory, List.getElem?_map]
  split
  · rename_i h
    rw [List.getElem?_range h, Option.map_some]
  · rename_i h
    rw [List.getElem?_eq_none (by simpa using h), Option.map_none]

/-- The evaluation order, category by category. -/
theorem order_eq (actions : ActionSet) :
    actions.order =
      actions.ofCategory .digital ++
        (actions.ofCategory .analog1 ++ actions.ofCategory .analog2) := by
  simp only [order, Category.all, List.flatMap_cons, List.flatMap_nil, List.append_nil]

/-- The place of an action is its number behind all categories in front of its own. -/
theorem position?_eq_some_iff :
    actions.position? a = some i ↔
      a.set = actions.id ∧ a.index < (actions.names a.category).length ∧
        actions.offset a.category + a.index = i := by
  simp only [position?]
  split
  · rename_i h
    rw [contains_eq_true_iff] at h
    simp [h]
  · rename_i h
    rw [contains_eq_true_iff] at h
    -- an action that is not contained has no place, by its set or by its index
    constructor
    · exact fun hi => (nomatch hi)
    · exact fun ⟨hset, hindex, _⟩ => absurd ⟨hset, hindex⟩ h

/-- The place of an action is where the list of all actions has it. -/
theorem getElem?_order : actions.order[i]? = some a ↔ actions.position? a = some i := by
  obtain ⟨c, index, set⟩ := a
  rw [position?_eq_some_iff, order_eq]
  simp only [List.getElem?_append, length_ofCategory, getElem?_ofCategory]
  -- the three categories lie one after the other, and the offset is where each of them begins
  cases c <;> simp only [offset] <;> grind

/-- Every place is one of the evaluation order. -/
theorem position?_lt_size (h : actions.position? a = some i) : i < actions.size := by
  obtain ⟨hlt, -⟩ := List.getElem?_eq_some_iff.1 (getElem?_order.2 h)
  rwa [length_order] at hlt

/-- No action stands in the list twice. -/
theorem nodup_order (actions : ActionSet) : actions.order.Nodup := by
  refine List.pairwise_iff_getElem.2 fun i j hi hj hij heq => ?_
  have hposition : actions.position? actions.order[i] = some i :=
    getElem?_order.1 (List.getElem?_eq_getElem hi)
  have hposition' : actions.position? actions.order[j] = some j :=
    getElem?_order.1 (List.getElem?_eq_getElem hj)
  rw [heq, hposition', Option.some.injEq] at hposition
  omega

/-- No two actions have the same place. -/
theorem position?_inj (ha : actions.position? a = some i) (hb : actions.position? b = some i) :
    a = b := by
  rw [← getElem?_order] at ha hb
  exact Option.some.inj (ha.symm.trans hb)

end InputMap.ActionSet
