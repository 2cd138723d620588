import Mathlib
import InputMap.Proofs.Number.Equality

/-!
# The order of machine numbers

What is not a number stands apart from all others; any two numbers can be compared, and negation
turns only the sign around.  A comparison is computed on exact values, and so are all proofs here.

## Key results

- `le_of_not_lt`, `not_lt_of_le`: between numbers, `≤` is what `<` leaves
- `unpack_neg`: the exact value of a negated number
- `beq_zero_iff`: the two zeros are all that is `==` to zero
-/

namespace InputMap.Number

open Float.Model Float.Model.UnpackedFloat

/-! ## Comparison of exact values -/

/-- Comparing the other way round turns the answer around; what is not a number still has none. -/
theorem compare_swap (x y : UnpackedFloat) : y.compare x = (x.compare y).map Ordering.swap := by
  -- a value of each kind against one of each: only two finite values are compared by digits
  cases x with
  | notANumber => cases y <;> rfl
  | infinity s =>
    cases y with
    | infinity t => cases s <;> cases t <;> rfl
    | finite t => cases s <;> cases t <;> rfl
    | _ => cases s <;> rfl
  | zero s =>
    cases y with
    | infinity t => cases t <;> rfl
    | finite t => cases t <;> rfl
    | _ => rfl
  | finite s m e hm =>
    cases y with
    | finite t n f hn =>
      have hswap : (compare f e).then (compare n m) =
          ((compare e f).then (compare m n)).swap := by
        rw [Ordering.swap_then, ← Std.OrientedOrd.eq_swap, ← Std.OrientedOrd.eq_swap]
      -- different signs decide the comparison; with the same sign, exponent and mantissa do
      cases s <;> cases t
      · exact congrArg (fun order => some order.swap) hswap
      · rfl
      · rfl
      · exact congrArg some hswap
    | infinity t => cases s <;> cases t <;> rfl
    | _ => cases s <;> rfl

/-- Any two numbers can be compared. -/
theorem exists_compare {x y : UnpackedFloat} (hx : x.isNaN = false) (hy : y.isNaN = false) :
    ∃ order, x.compare y = some order := by
  fun_cases UnpackedFloat.compare x y with
  | case1 y => exact nomatch hx
  | case2 x => exact nomatch hy
  | _ => exact ⟨_, rfl⟩

/-- Only numbers can be compared. -/
theorem isNaN_of_compare {x y : UnpackedFloat} {order : Ordering}
    (h : x.compare y = some order) : x.isNaN = false ∧ y.isNaN = false := by
  constructor
  · cases x with
    | notANumber => exact nomatch h
    | _ => rfl
  · cases y with
    | notANumber => cases x <;> exact nomatch h
    | _ => rfl

/-! ## Comparison of machine numbers -/

variable {a b : Float32}

/-- `≤` on machine numbers is a comparison of their exact values that says "less" or "equal". -/
theorem le_iff_compare (a b : Float32) :
    a ≤ b ↔ ∃ order, a.toModel.unpack.compare b.toModel.unpack = some order ∧
      order.isLE = true := by
  change decide ((a.toModel.unpack.compare b.toModel.unpack).any (·.isLE) = true) = true ↔ _
  rw [decide_eq_true_iff, Option.any_eq_true]

/-- Between numbers, one that is not less than the other is at least as large. -/
theorem le_of_not_lt (ha : a.isNaN = false) (hb : b.isNaN = false) (h : ¬ a < b) : b ≤ a := by
  rw [lt_iff_compare] at h
  obtain ⟨order, horder⟩ := exists_compare ha hb
  rw [horder] at h
  rw [le_iff_compare, compare_swap, horder]
  refine ⟨order.swap, rfl, ?_⟩
  cases order with
  | lt => exact absurd rfl h
  | eq => rfl
  | gt => rfl

/-- `≤` one way rules out `<` the other way. -/
theorem not_lt_of_le (h : b ≤ a) : ¬ a < b := by
  rw [le_iff_compare] at h
  obtain ⟨order, horder, hle⟩ := h
  rw [lt_iff_compare, compare_swap, horder]
  cases order with
  | gt => exact nomatch hle
  | _ => exact nofun

/-- Only numbers are `≤` one another. -/
theorem isNaN_of_le (h : a ≤ b) : a.isNaN = false ∧ b.isNaN = false := by
  obtain ⟨order, horder, -⟩ := (le_iff_compare a b).1 h
  exact isNaN_of_compare horder

theorem isNaN_of_lt (h : a < b) : a.isNaN = false ∧ b.isNaN = false :=
  isNaN_of_compare ((lt_iff_compare a b).1 h)

theorem le_self (h : a.isNaN = false) : a ≤ a :=
  (le_iff_compare a a).2 ⟨.eq, compare_self_of_isNaN h, rfl⟩

/-! ## Negation and zero -/

/-- Packing what was unpacked gives it back: it has the form that packing expects. -/
theorem unpack_pack_unpack (bits : BitVec Format.binary32.numBits) :
    UnpackedFloat.unpack .binary32
        (UnpackedFloat.pack .binary32 (UnpackedFloat.unpack .binary32 bits)) =
      UnpackedFloat.unpack .binary32 bits := by
  rw [pack_unpack]
  split
  · rename_i h
    simp only [isNaNBits, decide_eq_true_eq] at h
    rw [unpack_packedNaN, UnpackedFloat.unpack, if_pos h.1, if_neg h.2]
  · rfl

/-- Negation is a change of the sign bit. -/
theorem neg_unpack (bits : BitVec Format.binary32.numBits) :
    (UnpackedFloat.unpack .binary32 bits).neg =
      UnpackedFloat.unpack .binary32
        (packComponents .binary32 (-Sign.ofBitVec (unpackSign bits)) (unpackExponent bits)
          (unpackMantissa bits)) := by
  simp only [UnpackedFloat.unpack, unpackMantissa_packComponents, unpackExponent_packComponents,
    unpackSign_packComponents, Sign.ofBitVec_toBitVec]
  split
  · split <;> rfl
  · split
    · split <;> rfl
    · rfl

/-- The exact value of a negated number. -/
theorem unpack_neg (a : Float32) : (-a).toModel.unpack = a.toModel.unpack.neg := by
  change UnpackedFloat.unpack .binary32 (UnpackedFloat.pack .binary32
    (UnpackedFloat.unpack .binary32 a.toModel.toBits.toBitVec).neg) =
      (UnpackedFloat.unpack .binary32 a.toModel.toBits.toBitVec).neg
  rw [neg_unpack, unpack_pack_unpack]

/-- The two zeros are all that is `==` to zero. -/
theorem beq_zero_iff : (a == 0.0) = true ↔ a = 0.0 ∨ a = -0.0 := by
  constructor
  · intro h
    obtain ⟨-, -, hzero | ⟨hzero, -⟩ | ⟨hzero, -⟩⟩ := Float32.beq_iff_ne_nan_and_eq.1 h
    · exact .inl hzero
    · exact .inl hzero
    · exact .inr hzero
  · rintro (rfl | rfl) <;> rfl

end InputMap.Number
