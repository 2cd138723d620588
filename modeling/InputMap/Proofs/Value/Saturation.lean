import InputMap.Proofs.BindingTable.WellFormed
import InputMap.Proofs.Expr.Held
import InputMap.Proofs.Number.Conversion
import InputMap.Proofs.Number.Order

/-!
# Values that can be stored

Sums and products may leave the finite numbers at any depth of an expression.  Before a value is
stored each of its components is made finite: a finite one is kept bit by bit, what is not a number
becomes zero, and an infinity becomes the last finite number on its side.  For the first of these
the largest number really has to be the largest, which is seen from the bits of a finite number.

## Key results

- `Number.neg_largest_le`, `Number.le_largest`: finite numbers lie between the two largest ones
- `Number.saturated_finiteComponent`: the rules for one component
- `Value.saturates_iff`: the rules for a value leave no choice
- `Binding.storable_evaluate`: whatever a binding is evaluated on, its value can be stored
-/

namespace InputMap

namespace Number

open Float.Model Float.Model.UnpackedFloat

variable {a v w : Float32}

/-! ## The largest finite number -/

/-- The largest number has all digits of the mantissa set and the largest exponent. -/
theorem unpack_largest :
    largest.toModel.unpack = .finite .positive (2 ^ 24 - 1) 104 (by decide) := by
  rfl

/-- The smallest number is the negated largest one, digit by digit. -/
theorem unpack_neg_largest :
    (-largest).toModel.unpack = .finite .negative (2 ^ 24 - 1) 104 (by decide) := by
  rw [unpack_neg, unpack_largest]
  rfl

/-- The exact value of a finite number is compared with the largest one by its exponent and then by
    its digits, of which it has at most 24. -/
theorem isLE_compare_largest {bits : BitVec Format.binary32.numBits} {s : Sign} {m : Nat} {e : Int}
    {hm : 0 < m} (h : UnpackedFloat.unpack .binary32 bits = .finite s m e hm) :
    ((compare e 104).then (compare m (2 ^ 24 - 1))).isLE = true := by
  -- the exponent of a finite number is at most 104, and it has at most 24 digits
  obtain ⟨-, hlog, -, he⟩ := canonical_of_unpack h
  have hdigits : m < 2 ^ 24 := (Nat.log2_lt (by omega)).1 (by omega)
  by_cases hlt : e < 104
  · rw [Std.compare_eq_lt.2 hlt]
    rfl
  · have heq : e = 104 := by omega
    have hcompare : (compare m (2 ^ 24 - 1)).isLE = true := Nat.isLE_compare.2 (by omega)
    rw [heq, Std.ReflOrd.compare_self]
    exact hcompare

/-- No finite number is above the largest. -/
theorem le_largest (h : a.isFinite = true) : a ≤ largest := by
  rw [le_iff_compare, unpack_largest]
  change a.toModel.unpack.isFinite = true at h
  cases hu : a.toModel.unpack with
  | finite s m e hm =>
    cases s with
    | negative => exact ⟨.lt, rfl, rfl⟩
    | positive => exact ⟨_, rfl, isLE_compare_largest hu⟩
  | zero s => exact ⟨.lt, rfl, rfl⟩
  | _ => rw [hu] at h; exact nomatch h

theorem neg_largest_le (h : a.isFinite = true) : -largest ≤ a := by
  rw [le_iff_compare, unpack_neg_largest]
  change a.toModel.unpack.isFinite = true at h
  cases hu : a.toModel.unpack with
  | finite s m e hm =>
    cases s with
    | positive => exact ⟨.lt, rfl, rfl⟩
    | negative =>
      refine ⟨_, rfl, ?_⟩
      -- among negative numbers the order is turned around, and so are the two sides
      rw [Ordering.swap_then, ← Std.OrientedOrd.eq_swap, ← Std.OrientedOrd.eq_swap]
      exact isLE_compare_largest hu
  | zero s => exact ⟨.lt, rfl, rfl⟩
  | _ => rw [hu] at h; exact nomatch h

/-! ## One component -/

/-- The rules for one component, of which `v` is computed and `w` is stored. -/
structure Saturated (v w : Float32) : Prop where
  isFinite : w.isFinite = true
  of_isFinite : v.isFinite = true → w = v
  of_isNaN : v.isNaN = true → w = 0.0
  of_isInf_of_pos : v.isInf = true → 0.0 < v → w = largest
  of_isInf_of_neg : v.isInf = true → v < 0.0 → w = -largest

/-- A number is finite, is no number, or is an infinity on one side of zero. -/
theorem isFinite_or_isNaN_or_isInf (v : Float32) :
    v.isFinite = true ∨ v.isNaN = true ∨ v.isInf = true ∧ (0.0 < v ∨ v < 0.0) := by
  change v.toModel.unpack.isFinite = true ∨ v.toModel.unpack.isNaN = true ∨
    v.toModel.unpack.isInf = true ∧ _
  -- on the exact value; an infinity has a side of zero
  rw [lt_iff_compare, lt_iff_compare]
  cases v.toModel.unpack with
  | notANumber => exact .inr (.inl rfl)
  | infinity s =>
    cases s with
    | positive => exact .inr (.inr ⟨rfl, .inl rfl⟩)
    | negative => exact .inr (.inr ⟨rfl, .inr rfl⟩)
  | _ => exact .inl rfl

/-- An infinity above zero is the positive one. -/
theorem unpack_of_isInf_of_pos (h : v.isInf = true) (hv : 0.0 < v) :
    v.toModel.unpack = .infinity .positive := by
  change v.toModel.unpack.isInf = true at h
  rw [lt_iff_compare] at hv
  cases hu : v.toModel.unpack with
  | infinity s =>
    rw [hu] at hv
    cases s with
    | positive => rfl
    | negative => exact nomatch hv
  | _ => rw [hu] at h; exact nomatch h

theorem unpack_of_isInf_of_neg (h : v.isInf = true) (hv : v < 0.0) :
    v.toModel.unpack = .infinity .negative := by
  change v.toModel.unpack.isInf = true at h
  rw [lt_iff_compare] at hv
  cases hu : v.toModel.unpack with
  | infinity s =>
    rw [hu] at hv
    cases s with
    | positive => exact nomatch hv
    | negative => rfl
  | _ => rw [hu] at h; exact nomatch h

/-- A finite number is beyond neither bound, so it is kept as it is. -/
theorem finiteComponent_of_isFinite (h : v.isFinite = true) : finiteComponent v = v := by
  have hnumber : v.isNaN = false := isNaN_of_isFinite h
  have hlow : ¬ v < -largest := not_lt_of_le (neg_largest_le h)
  have hhigh : ¬ largest < v := not_lt_of_le (le_largest h)
  rw [finiteComponent, hnumber, if_neg Bool.false_ne_true, if_neg hlow, if_neg hhigh]

/-- Positive infinity becomes the largest number. -/
theorem finiteComponent_of_isInf_of_pos (h : v.isInf = true) (hv : 0.0 < v) :
    finiteComponent v = largest := by
  have hu := unpack_of_isInf_of_pos h hv
  have hnumber : v.isNaN = false := (isNaN_of_lt hv).2
  have hlow : ¬ v < -largest := by
    rw [lt_iff_compare, hu, unpack_neg_largest]
    exact nofun
  have hhigh : largest < v := by
    rw [lt_iff_compare, hu, unpack_largest]
    rfl
  rw [finiteComponent, hnumber, if_neg Bool.false_ne_true, if_neg hlow, if_pos hhigh]

theorem finiteComponent_of_isInf_of_neg (h : v.isInf = true) (hv : v < 0.0) :
    finiteComponent v = -largest := by
  have hnumber : v.isNaN = false := (isNaN_of_lt hv).1
  have hlow : v < -largest := by
    rw [lt_iff_compare, unpack_of_isInf_of_neg h hv, unpack_neg_largest]
    rfl
  rw [finiteComponent, hnumber, if_neg Bool.false_ne_true, if_pos hlow]

/-- Making a component finite keeps to the rules. -/
theorem saturated_finiteComponent (v : Float32) : Saturated v (finiteComponent v) where
  isFinite := isFinite_finiteComponent v
  of_isFinite := finiteComponent_of_isFinite
  of_isNaN h := if_pos h
  of_isInf_of_pos := finiteComponent_of_isInf_of_pos
  of_isInf_of_neg := finiteComponent_of_isInf_of_neg

/-- The rules leave no choice. -/
theorem Saturated.eq_finiteComponent (hw : Saturated v w) : finiteComponent v = w := by
  have hkept := saturated_finiteComponent v
  rcases isFinite_or_isNaN_or_isInf v with h | h | ⟨h, hpos | hneg⟩
  · rw [hkept.of_isFinite h, hw.of_isFinite h]
  · rw [hkept.of_isNaN h, hw.of_isNaN h]
  · rw [hkept.of_isInf_of_pos h hpos, hw.of_isInf_of_pos h hpos]
  · rw [hkept.of_isInf_of_neg h hneg, hw.of_isInf_of_neg h hneg]

end Number

/-! ## One value -/

/-- The rules for a value, of which the first is computed and the second is stored: it keeps its
    shape, and each of its components follows the rules by itself. -/
inductive Value.Saturates : Value → Value → Prop
  | bool (b : Bool) : Saturates (.bool b) (.bool b)
  | scalar {a a' : Float32} (h : Number.Saturated a a') : Saturates (.scalar a) (.scalar a')
  | vec2 {a a' b b' : Float32} (hx : Number.Saturated a a') (hy : Number.Saturated b b') :
    Saturates (.vec2 a b) (.vec2 a' b')

variable {u v w : Value}

/-- Sanitizing saturates a value, component by component. -/
theorem Value.saturates_sanitized (u : Value) : u.Saturates u.sanitized := by
  cases u with
  | bool b => exact .bool b
  | scalar a => exact .scalar (Number.saturated_finiteComponent a)
  | vec2 a b =>
    exact .vec2 (Number.saturated_finiteComponent a) (Number.saturated_finiteComponent b)

/-- A value is made finite as the rules say, and the rules leave no choice. -/
theorem Value.saturates_iff : u.Saturates w ↔ u.sanitized = w := by
  constructor
  · intro h
    cases h with
    | bool b => rfl
    | scalar h => exact congrArg Value.scalar h.eq_finiteComponent
    | vec2 hx hy => exact congrArg₂ Value.vec2 hx.eq_finiteComponent hy.eq_finiteComponent
  · rintro rfl
    exact u.saturates_sanitized

/-- Saturation keeps the category. -/
theorem Value.Saturates.category_eq (h : u.Saturates w) : w.category = u.category := by
  cases h <;> rfl

/-- The neutral values are sanitized already. -/
theorem Value.sanitized_neutral (c : Category) : c.neutral.sanitized = c.neutral := by
  cases c <;> rfl

/-! ## Bindings -/

namespace Binding

variable {b : Binding} {r : Snapshot}

/-- A binding that was made: it has passed the check of some action under some set of signals, or it
    is the neutral one of a category. -/
inductive Made : Binding → Prop
  | check {name : String} {c : Category} {e : Expr} {available : SignalSet} {b : Binding}
    (h : Binding.check name c e available = .ok b) : Made b
  | neutral (c : Category) : Made (.neutral c)

/-- The expression of such a binding is of the binding's category. -/
theorem Made.exists_hasCategory (h : b.Made) :
    ∃ available, b.expr.HasCategory b.category available b.category := by
  cases h with
  | @check name c e available b h =>
    obtain ⟨hcategory, rfl⟩ := check_eq_ok.1 h
    exact ⟨available, hcategory⟩
  | neutral c =>
    refine ⟨.all, ?_⟩
    have hconstant : (Expr.constant c.neutral).HasCategory c .all c.neutral.category :=
      .constant (Value.isFinite_neutral c)
    rwa [Value.category_neutral] at hconstant

/-- A binding comes to a value that was made finite, whether its expression has a value or not. -/
theorem exists_sanitized_eq (b : Binding) (r : Snapshot) (v : Value) :
    ∃ u : Value, b.evaluate r v = u.sanitized := by
  cases hu : b.expr.evaluate? r v with
  | some u => exact ⟨u, evaluate_eq hu⟩
  | none => exact ⟨b.category.neutral, by rw [evaluate, hu, Value.sanitized_neutral]⟩

/-- The value of a binding can be stored, whatever the readings and the previous value are: it is
    finite, equal to itself, and making it finite again changes nothing.  If the expression has a
    value, then what is stored keeps its shape, each finite component bit by bit, zero for each one
    that is no number, and for each infinity the finite number that no other is beyond.  Where the
    readings and the previous value fit, the expression has a value, and what is stored is of the
    category of the binding. -/
theorem storable_evaluate (hb : b.Made) (r : Snapshot) (v : Value) :
    let w := b.evaluate r v
    (w.isFinite = true ∧ (w == w) = true ∧ w.sanitized = w) ∧
    ((∀ u, b.expr.evaluate? r v = some u → u.Saturates w) ∧
      ∀ a : Float32, a.isFinite = true → -largest ≤ a ∧ a ≤ largest) ∧
    (r.Fits → v.category = b.category →
      (∃ u, b.expr.evaluate? r v = some u) ∧ w.category = b.category) := by
  intro w
  -- whatever was evaluated, or not, what comes out is some value sanitized
  obtain ⟨u, hu⟩ := b.exists_sanitized_eq r v
  have hfinite : w.isFinite = true := by
    rw [show w = u.sanitized from hu]
    exact Value.isFinite_sanitized u
  have hagain : w.sanitized = w := by
    rw [show w = u.sanitized from hu, Value.sanitized_sanitized]
  refine ⟨⟨hfinite, Value.beq_self_of_isFinite hfinite, hagain⟩, ⟨fun u' hu' => ?_, ?_⟩, ?_⟩
  · exact Value.saturates_iff.2 (evaluate_eq hu').symm
  · exact fun a ha => ⟨Number.neg_largest_le ha, Number.le_largest ha⟩
  · intro hr hv
    obtain ⟨available, hcategory⟩ := hb.exists_hasCategory
    obtain ⟨u', -, hu', hshape⟩ := hcategory.evaluate hr hv
    have hstored : w = u'.sanitized := evaluate_eq hu'
    exact ⟨⟨u', hu'⟩, by rw [hstored, Value.category_sanitized, hshape]⟩

/-- An infinite sum beside a trigger, and a product of that sum with zero, on a trigger that reads
    something that is no number, or reads a switch. -/
theorem storable_evaluate_of_overflow :
    let sum := Expr.add (.constant (.scalar largest)) (.constant (.scalar largest))
    let b : Binding := ⟨.join sum (.multiply sum (.input (.trigger .left))), .analog2⟩
    let zero := Snapshot.empty.insert (.trigger .left) (.scalar (-0.0))
    let odd := Snapshot.empty.insert (.trigger .left) (.bool true)
    b.Made ∧ zero.Fits ∧ (b.evaluate zero (.vec2 0.0 0.0)).category = .analog2 ∧
      b.evaluate zero (.vec2 0.0 0.0) = .vec2 largest 0.0 ∧
      b.expr.evaluate? odd (.bool true) = none ∧ (b.evaluate odd (.bool true)).isFinite = true := by
  intro sum b zero odd
  -- the check accepts the binding, so nothing more is to be shown of the expression
  have hcheck : Binding.check "aim" .analog2 b.expr .all = .ok b := by rfl
  have hfits : zero.Fits := by
    intro s v hv
    rw [Snapshot.reading?_insert] at hv
    split at hv
    · rename_i hs
      rw [hs, ← Option.some.inj hv]
      rfl
    · exact Snapshot.fits_empty s v hv
  obtain ⟨-, -, hshape⟩ := storable_evaluate (.check hcheck) zero (.vec2 0.0 0.0)
  obtain ⟨⟨hfinite, -, -⟩, -, -⟩ := storable_evaluate (.check hcheck) odd (.bool true)
  exact ⟨.check hcheck, hfits, (hshape hfits rfl).2, by decide +kernel, by decide +kernel, hfinite⟩

end Binding

end InputMap
