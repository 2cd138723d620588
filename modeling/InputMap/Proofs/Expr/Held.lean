import InputMap.Binding
import InputMap.Proofs.Expr.Reads
import InputMap.Proofs.Expr.Strict

/-!
# Expressions that hold their previous value

An expression may use the previous value to keep it: as a whole, or one component of a pair in the
place of the same component.  Such an expression settles at once.  Each component of its value is
either computed afresh or the one of the previous value, and the readings decide which; so with the
same readings the value that it yields is one that it keeps.

## Key results

- `Holds.evaluate?`: an expression evaluated on what it has yielded yields the same again
- `Binding.evaluate_evaluate`: the same for the stored values of a binding
-/

namespace InputMap.Expr

/-- A number that is computed afresh, or the given component of the previous value. -/
inductive HoldsAxis (axis : Axis) : Expr → Prop
  | fresh {e : Expr} (h : e.readsPrevious = false) : HoldsAxis axis e
  | held : HoldsAxis axis (.split .previous axis)
  | branch {c a b : Expr} (hc : c.readsPrevious = false) (ha : HoldsAxis axis a)
    (hb : HoldsAxis axis b) : HoldsAxis axis (.branch c a b)

/-- A value that is computed afresh, or the previous one, or a pair of which this holds for each
    component. -/
inductive Holds : Expr → Prop
  | fresh {e : Expr} (h : e.readsPrevious = false) : Holds e
  | held : Holds .previous
  | branch {c a b : Expr} (hc : c.readsPrevious = false) (ha : Holds a) (hb : Holds b) :
    Holds (.branch c a b)
  | join {x y : Expr} (hx : HoldsAxis .x x) (hy : HoldsAxis .y y) : Holds (.join x y)

variable {e : Expr} {r : Snapshot} {v : Value}

/-! ## What a node yields -/

/-- A choice has a value if its condition is a Boolean and the arm it selects has that value. -/
theorem evaluate?_branch {c a b : Expr} {u : Value} :
    (branch c a b).evaluate? r v = some u ↔
      ∃ selected, c.evaluate? r v = some (.bool selected) ∧
        (if selected then a else b).evaluate? r v = some u := by
  simp only [evaluate?, Option.bind_eq_bind, Option.bind_eq_some_iff, Value.asBool?_eq_some]
  constructor
  · rintro ⟨w, hw, selected, rfl, hu⟩
    exact ⟨selected, hw, by cases selected <;> exact hu⟩
  · rintro ⟨selected, hw, hu⟩
    exact ⟨_, hw, selected, rfl, by cases selected <;> exact hu⟩

/-- Joined axes have a value if each of them is one number. -/
theorem evaluate?_join {x y : Expr} {u : Value} :
    (join x y).evaluate? r v = some u ↔
      ∃ first second, x.evaluate? r v = some (.scalar first) ∧
        y.evaluate? r v = some (.scalar second) ∧ u = .vec2 first second := by
  simp only [evaluate?, Option.bind_eq_bind, Option.bind_eq_some_iff, Value.asScalar?_eq_some]
  constructor
  · rintro ⟨w, hw, first, rfl, w', hw', second, rfl, hu⟩
    exact ⟨first, second, hw, hw', (Option.some.inj hu).symm⟩
  · rintro ⟨first, second, hx, hy, rfl⟩
    exact ⟨_, hx, first, rfl, _, hy, second, rfl, rfl⟩

/-! ## Settling -/

/-- A component that was stored is yielded again. -/
theorem HoldsAxis.evaluate? {axis : Axis} {a p q : Float32} (h : HoldsAxis axis e)
    (he : e.evaluate? r v = some (.scalar a)) (hstored : axis.select p q = finiteComponent a) :
    ∃ a', e.evaluate? r (.vec2 p q) = some (.scalar a') ∧
      finiteComponent a' = finiteComponent a := by
  -- on the shape of the expression; the stored pair has the component that counts at its axis
  induction h with
  | fresh hfresh => exact ⟨a, (evaluate?_of_not_readsPrevious hfresh _ v).trans he, rfl⟩
  | held =>
    -- what is held is finite already, since it was stored
    refine ⟨axis.select p q, rfl, ?_⟩
    rw [hstored, Number.finiteComponent_finiteComponent]
  | branch hc _ _ iha ihb =>
    obtain ⟨selected, hselected, hu⟩ := evaluate?_branch.1 he
    -- the condition is the same again, and with it the arm
    have hagain := (evaluate?_of_not_readsPrevious hc (.vec2 p q) v).trans hselected
    cases selected with
    | false =>
      obtain ⟨a', ha', hkept⟩ := ihb hu
      exact ⟨a', evaluate?_branch.2 ⟨false, hagain, ha'⟩, hkept⟩
    | true =>
      obtain ⟨a', ha', hkept⟩ := iha hu
      exact ⟨a', evaluate?_branch.2 ⟨true, hagain, ha'⟩, hkept⟩

/-- A value that was stored is yielded again. -/
theorem Holds.evaluate? {u : Value} (h : Holds e) (he : e.evaluate? r v = some u) :
    ∃ u', e.evaluate? r u.sanitized = some u' ∧ u'.sanitized = u.sanitized := by
  -- on the shape of the expression
  induction h with
  | fresh hfresh => exact ⟨u, (evaluate?_of_not_readsPrevious hfresh _ v).trans he, rfl⟩
  | held => exact ⟨u.sanitized, rfl, Value.sanitized_sanitized u⟩
  | branch hc _ _ iha ihb =>
    obtain ⟨selected, hselected, hu⟩ := evaluate?_branch.1 he
    have hagain := (evaluate?_of_not_readsPrevious hc u.sanitized v).trans hselected
    cases selected with
    | false =>
      obtain ⟨u', hu', hkept⟩ := ihb hu
      exact ⟨u', evaluate?_branch.2 ⟨false, hagain, hu'⟩, hkept⟩
    | true =>
      obtain ⟨u', hu', hkept⟩ := iha hu
      exact ⟨u', evaluate?_branch.2 ⟨true, hagain, hu'⟩, hkept⟩
  | join hx hy =>
    obtain ⟨first, second, hfirst, hsecond, rfl⟩ := evaluate?_join.1 he
    -- each component by itself, whatever the other one is
    obtain ⟨a, ha, hakept⟩ := hx.evaluate? hfirst (q := finiteComponent second) rfl
    obtain ⟨b, hb, hbkept⟩ := hy.evaluate? hsecond (p := finiteComponent first) rfl
    exact ⟨.vec2 a b, evaluate?_join.2 ⟨a, b, ha, hb, rfl⟩, congrArg₂ Value.vec2 hakept hbkept⟩

end InputMap.Expr

namespace InputMap.Binding

variable {b : Binding} {r : Snapshot} {u v : Value}

/-- A binding gives the value of its expression, sanitized. -/
theorem evaluate_eq (h : b.expr.evaluate? r v = some u) : b.evaluate r v = u.sanitized := by
  rw [evaluate, h]

/-- A binding that holds its previous value yields a stored value again. -/
theorem evaluate_evaluate (h : b.expr.Holds) (hu : b.expr.evaluate? r v = some u) :
    b.evaluate r (b.evaluate r v) = b.evaluate r v := by
  obtain ⟨u', hu', hkept⟩ := h.evaluate? hu
  rw [evaluate_eq hu, evaluate_eq hu', hkept]

end InputMap.Binding
