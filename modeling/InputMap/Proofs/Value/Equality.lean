import InputMap.Proofs.Number.Equality

/-!
# Equality of values

Values are compared with `==` component by component.  `Value.Alike` lifts `Number.Alike` to them:
the same switch position, or components that are alike.  Making values finite turns alike ones into
equal ones.

## Key results

- `Value.beq_iff`: two values are `==` exactly if they are alike and all components are numbers
- `Value.isFinite_sanitized`: a value made finite is finite
- `Value.Alike.sanitized_beq`: alike values are `==` once they are made finite
-/

namespace InputMap.Value

/-- The same switch position, or components that are alike. -/
inductive Alike : Value → Value → Prop
  | bool (b : Bool) : Alike (.bool b) (.bool b)
  | scalar {a a' : Float32} (h : Number.Alike a a') : Alike (.scalar a) (.scalar a')
  | vec2 {a a' b b' : Float32} (hx : Number.Alike a a') (hy : Number.Alike b b') :
    Alike (.vec2 a b) (.vec2 a' b')

/-- Whether every component is a number. -/
def isNumber : Value → Bool
  | .bool _ => true
  | .scalar a => !a.isNaN
  | .vec2 a b => !a.isNaN && !b.isNaN

variable {u v w : Value}

/-! ## Alike values -/

namespace Alike

theorem refl (v : Value) : Alike v v := by
  cases v with
  | bool b => exact .bool b
  | scalar a => exact .scalar (.refl a)
  | vec2 a b => exact .vec2 (.refl a) (.refl b)

theorem symm (h : Alike v w) : Alike w v := by
  cases h with
  | bool b => exact .bool b
  | scalar h => exact .scalar h.symm
  | vec2 hx hy => exact .vec2 hx.symm hy.symm

theorem trans (huv : Alike u v) (hvw : Alike v w) : Alike u w := by
  cases huv with
  | bool b => exact hvw
  | scalar h =>
    cases hvw with
    | scalar h' => exact .scalar (h.trans h')
  | vec2 hx hy =>
    cases hvw with
    | vec2 hx' hy' => exact .vec2 (hx.trans hx') (hy.trans hy')

/-- Of two alike values both have numbers in all places or neither has. -/
theorem isNumber_eq (h : Alike v w) : v.isNumber = w.isNumber := by
  cases h with
  | bool b => rfl
  | scalar h => simp only [isNumber, h.isNaN_eq]
  | vec2 hx hy => simp only [isNumber, hx.isNaN_eq, hy.isNaN_eq]

end Alike

/-- Two values are equal exactly if they are alike and all their components are numbers. -/
theorem beq_iff : (v == w) = true ↔ Alike v w ∧ v.isNumber = true := by
  constructor
  · -- `==` between values of different categories is false, so only the diagonal remains
    intro h
    cases v with
    | bool b =>
      cases w with
      | bool c =>
        rw [bool_beq, beq_iff_eq] at h
        exact ⟨h ▸ .bool b, rfl⟩
      | _ => exact nomatch h
    | scalar a =>
      cases w with
      | scalar a' =>
        rw [scalar_beq, Number.beq_iff] at h
        exact ⟨.scalar h.1, by simp only [isNumber, h.2, Bool.not_false]⟩
      | _ => exact nomatch h
    | vec2 a b =>
      cases w with
      | vec2 a' b' =>
        rw [vec2_beq, Bool.and_eq_true_iff, Number.beq_iff, Number.beq_iff] at h
        obtain ⟨⟨hx, hxnumber⟩, hy, hynumber⟩ := h
        refine ⟨.vec2 hx hy, ?_⟩
        simp only [isNumber, hxnumber, hynumber, Bool.not_false, Bool.and_self]
      | _ => exact nomatch h
  · -- alike components are equal once they are numbers
    rintro ⟨halike, hnumber⟩
    cases halike with
    | bool b => exact beq_self_eq_true b
    | scalar h =>
      simp only [isNumber, Bool.not_eq_true'] at hnumber
      exact Number.beq_iff.2 ⟨h, hnumber⟩
    | vec2 hx hy =>
      simp only [isNumber, Bool.and_eq_true, Bool.not_eq_true'] at hnumber
      rw [vec2_beq, Bool.and_eq_true_iff]
      exact ⟨Number.beq_iff.2 ⟨hx, hnumber.1⟩, Number.beq_iff.2 ⟨hy, hnumber.2⟩⟩

instance partialEquivBEq : PartialEquivBEq Value where
  symm h := by
    obtain ⟨halike, hnumber⟩ := beq_iff.1 h
    exact beq_iff.2 ⟨halike.symm, halike.isNumber_eq ▸ hnumber⟩
  trans huv hvw := by
    obtain ⟨halike, hnumber⟩ := beq_iff.1 huv
    exact beq_iff.2 ⟨halike.trans (beq_iff.1 hvw).1, hnumber⟩

/-! ## Finite values -/

/-- A finite value has numbers in all places. -/
theorem isNumber_of_isFinite (h : v.isFinite = true) : v.isNumber = true := by
  cases v with
  | bool b => rfl
  | scalar a => simp only [isNumber, Number.isNaN_of_isFinite h, Bool.not_false]
  | vec2 a b =>
    obtain ⟨hx, hy⟩ := Bool.and_eq_true_iff.1 h
    simp only [isNumber, Number.isNaN_of_isFinite hx, Number.isNaN_of_isFinite hy, Bool.not_false,
      Bool.and_self]

/-- Alike values are `==` once one of them is finite. -/
theorem Alike.beq (h : Alike v w) (hfinite : v.isFinite = true) : (v == w) = true :=
  beq_iff.2 ⟨h, isNumber_of_isFinite hfinite⟩

/-- A finite value is equal to itself, so that it can be stored and compared later. -/
theorem beq_self_of_isFinite (h : v.isFinite = true) : (v == v) = true := (Alike.refl v).beq h

theorem isFinite_neutral (c : Category) : c.neutral.isFinite = true := by cases c <;> rfl

/-- What is sanitized is finite in each component. -/
theorem isFinite_sanitized (v : Value) : v.sanitized.isFinite = true := by
  cases v with
  | bool b => rfl
  | scalar a => exact Number.isFinite_finiteComponent a
  | vec2 a b =>
    exact Bool.and_eq_true_iff.2
      ⟨Number.isFinite_finiteComponent a, Number.isFinite_finiteComponent b⟩

/-- A value that was made finite stays as it is. -/
theorem sanitized_sanitized (v : Value) : v.sanitized.sanitized = v.sanitized := by
  cases v with
  | bool b => rfl
  | scalar a => simp only [sanitized, Number.finiteComponent_finiteComponent]
  | vec2 a b => simp only [sanitized, Number.finiteComponent_finiteComponent]

/-- Alike values stay alike when they are sanitized. -/
theorem Alike.sanitized (h : Alike v w) : Alike v.sanitized w.sanitized := by
  cases h with
  | bool b => exact .bool b
  | scalar h => exact .scalar h.finiteComponent
  | vec2 hx hy => exact .vec2 hx.finiteComponent hy.finiteComponent

/-- Values that differ in the signs of zeros only are equal once they are made finite. -/
theorem Alike.sanitized_beq (h : Alike v w) : (v.sanitized == w.sanitized) = true :=
  h.sanitized.beq (isFinite_sanitized v)

end InputMap.Value
