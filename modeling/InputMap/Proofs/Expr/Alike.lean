import InputMap.Binding
import InputMap.Proofs.ForStd
import InputMap.Proofs.Value.Equality

/-!
# Evaluation and the sign of zero

Two readings that are `==` may still differ in the sign of a zero.  Evaluation does not notice:
sums, products and comparisons respect `Number.Alike`, under which the zeros are one and what is not
a number is like itself.  So it holds of a whole expression, and the final step of making the value
finite turns alike values back into equal ones.

## Key results

- `Expr.evaluate?_alike`: alike readings and previous values give alike values
- `Binding.evaluate_beq`: equal readings and previous values give equal values of a binding
-/

namespace InputMap

/-! ## Values -/

namespace Value.Alike

variable {u u' v v' : Value}

/-- Alike values are read as the same Boolean, if at all. -/
theorem asBool?_eq (h : Alike v v') : v.asBool? = v'.asBool? := by
  cases h <;> rfl

/-- Alike values are read as alike numbers, if at all. -/
theorem asScalar?_rel (h : Alike v v') : Option.Rel Number.Alike v.asScalar? v'.asScalar? := by
  cases h with
  | scalar h => exact .some h
  | _ => exact .none

/-- Alike values are read as pairs of alike numbers, if at all. -/
theorem asVec2?_rel (h : Alike v v') :
    Option.Rel (fun p q => Number.Alike p.1 q.1 ∧ Number.Alike p.2 q.2) v.asVec2? v'.asVec2? := by
  cases h with
  | vec2 hx hy => exact .some ⟨hx, hy⟩
  | _ => exact .none

/-- An operation that respects `Number.Alike` does so component by component. -/
theorem combine?_rel {f : Float32 → Float32 → Float32} (hu : Alike u u') (hv : Alike v v')
    (hf : ∀ {a a' b b'}, Number.Alike a a' → Number.Alike b b' → Number.Alike (f a b) (f a' b')) :
    Option.Rel Alike (u.combine? f v) (u'.combine? f v') := by
  -- values can be combined only within one category, and alike ones have the same
  cases hu with
  | bool b => cases hv <;> exact .none
  | scalar ha =>
    cases hv with
    | scalar hb => exact .some (.scalar (hf ha hb))
    | _ => exact .none
  | vec2 hx hy =>
    cases hv with
    | vec2 hx' hy' => exact .some (.vec2 (hf hx hx') (hf hy hy'))
    | _ => exact .none

end Value.Alike

/-! ## Expressions -/

/-- Readings that are alike for each signal. -/
def Snapshot.Alike (r r' : Snapshot) : Prop := ∀ s, Value.Alike (r.get s) (r'.get s)

theorem Snapshot.Alike.refl (r : Snapshot) : Alike r r := fun s => .refl (r.get s)

variable {r r' : Snapshot} {v v' : Value}

/-- Alike readings and previous values give alike values, or none in both cases. -/
theorem Expr.evaluate?_alike (hr : r.Alike r') (hv : v.Alike v') (e : Expr) :
    Option.Rel Value.Alike (e.evaluate? r v) (e.evaluate? r' v') := by
  induction e with
  | input s => exact .some (hr s)
  | constant w => exact .some (.refl w)
  | add a b iha ihb =>
    exact iha.bind fun _ _ hleft => ihb.bind fun _ _ hright => hleft.combine?_rel hright .add
  | multiply a b iha ihb =>
    exact iha.bind fun _ _ hleft => ihb.bind fun _ _ hright => hleft.combine?_rel hright .mul
  | branch c a b ihc iha ihb =>
    refine ihc.bind fun w w' hcondition => ?_
    -- the condition is the same switch position, so the same arm is selected
    rw [hcondition.asBool?_eq]
    cases w'.asBool? with
    | none => exact .none
    | some selected =>
      cases selected with
      | false => exact ihb
      | true => exact iha
  | xor a b iha ihb =>
    refine iha.bind fun w w' hleft => ?_
    rw [hleft.asBool?_eq]
    cases w'.asBool? with
    | none => exact .none
    | some first =>
      refine ihb.bind fun u u' hright => ?_
      rw [hright.asBool?_eq]
      cases u'.asBool? with
      | none => exact .none
      | some second => exact .some (.refl _)
  | join x y ihx ihy =>
    exact ihx.bind fun _ _ hleft => hleft.asScalar?_rel.bind fun _ _ hfirst =>
      ihy.bind fun _ _ hright => hright.asScalar?_rel.bind fun _ _ hsecond =>
        .some (.vec2 hfirst hsecond)
  | split e axis ih =>
    refine ih.bind fun _ _ hpair => hpair.asVec2?_rel.bind fun _ _ hcomponents => .some ?_
    cases axis with
    | x => exact .scalar hcomponents.1
    | y => exact .scalar hcomponents.2
  | threshold e limit ih =>
    refine ih.bind fun _ _ hnumber => hnumber.asScalar?_rel.bind fun x x' h => .some ?_
    -- whether the limit is passed cannot tell them apart
    have hlimit : limit < x.abs ↔ limit < x'.abs := Number.Alike.lt_iff (.refl limit) h.abs
    simp only [hlimit]
    exact .refl _
  | previous => exact .some hv

/-! ## Bindings -/

/-- A binding cannot tell alike inputs apart: what it gives for them is `==`. -/
theorem Binding.evaluate_alike (hr : r.Alike r') (hv : v.Alike v') (b : Binding) :
    (b.evaluate r v == b.evaluate r' v') = true := by
  unfold evaluate
  obtain ⟨hx, hy⟩ | ⟨w, w', hx, hy, h⟩ := (b.expr.evaluate?_alike hr hv).none_or_some
  · rw [hx, hy]
    exact Value.beq_self_of_isFinite (Value.isFinite_neutral _)
  · rw [hx, hy]
    exact h.sanitized_beq

/-- Equal readings and equal previous values give equal values. -/
theorem Binding.evaluate_beq (hr : ∀ s, (r.get s == r'.get s) = true) (hv : (v == v') = true)
    (b : Binding) : (b.evaluate r v == b.evaluate r' v') = true :=
  b.evaluate_alike (fun s => (Value.beq_iff.1 (hr s)).1) (Value.beq_iff.1 hv).1

end InputMap
