import InputMap.Value

/-!
# Machine equality

`==` on machine numbers is no equality: what is not a number differs from itself, and the two zeros
are equal although they differ in their bits.  `Alike` is the equivalence behind it, which says
"the same exact value, or two zeros"; here nothing that is not a number stands apart from itself.
Sums, products, magnitudes and comparisons cannot tell alike numbers apart, so the sign of a zero
is never seen.

## Key results

- `beq_iff`: two numbers are `==` exactly if they are alike and are numbers
- `Alike.add`, `Alike.mul`, `Alike.abs`, `Alike.finiteComponent`: operations keep alike numbers
  alike
- `Alike.lt_iff`: comparisons do not tell alike numbers apart
- `isFinite_finiteComponent`: what is made finite is finite
-/

namespace InputMap.Number

open Float.Model Float.Model.UnpackedFloat

/-! ## Exact values -/

/-- The same exact value, or two zeros of any sign. -/
inductive AlikeValue : UnpackedFloat → UnpackedFloat → Prop
  | refl (x : UnpackedFloat) : AlikeValue x x
  | zeros (s t : Sign) : AlikeValue (.zero s) (.zero t)

namespace AlikeValue

variable {format : Format} {x x' y y' z : UnpackedFloat}

theorem symm (h : AlikeValue x y) : AlikeValue y x := by
  cases h with
  | refl => exact .refl x
  | zeros s t => exact .zeros t s

theorem trans (hxy : AlikeValue x y) (hyz : AlikeValue y z) : AlikeValue x z := by
  cases hxy with
  | refl => exact hyz
  | zeros s t =>
    cases hyz with
    | refl => exact .zeros s t
    | zeros _ u => exact .zeros s u

/-- What does not see the sign of a zero on either side respects `AlikeValue`. -/
private theorem lift₂ {β : Type} {R : β → β → Prop} {f : UnpackedFloat → UnpackedFloat → β}
    (hrefl : ∀ b, R b b) (htrans : ∀ {a b c}, R a b → R b c → R a c)
    (hleft : ∀ s t y, R (f (.zero s) y) (f (.zero t) y))
    (hright : ∀ s t x, R (f x (.zero s)) (f x (.zero t)))
    (hx : AlikeValue x x') (hy : AlikeValue y y') : R (f x y) (f x' y') := by
  have hfirst : R (f x y) (f x' y) := by
    cases hx with
    | refl => exact hrefl _
    | zeros s t => exact hleft s t y
  refine htrans hfirst ?_
  cases hy with
  | refl => exact hrefl _
  | zeros s t => exact hright s t x'

/-- The sign of a zero on the left does not matter to a comparison. -/
private theorem compare_zero_left (s t : Sign) (y : UnpackedFloat) :
    (UnpackedFloat.zero s).compare y = (UnpackedFloat.zero t).compare y := by
  cases y with
  | notANumber => rfl
  | infinity u => cases u <;> rfl
  | zero u => rfl
  | finite u => cases u <;> rfl

/-- The sign of a zero on the right does not matter to a comparison. -/
private theorem compare_zero_right (s t : Sign) (x : UnpackedFloat) :
    x.compare (.zero s) = x.compare (.zero t) := by
  cases x with
  | notANumber => rfl
  | infinity u => cases u <;> rfl
  | zero u => rfl
  | finite u => cases u <;> rfl

/-- Comparing cannot tell one zero from the other on either side. -/
theorem compare_eq (hx : AlikeValue x x') (hy : AlikeValue y y') :
    x.compare y = x'.compare y' :=
  lift₂ (fun _ => rfl) Eq.trans compare_zero_left compare_zero_right hx hy

/-- A zero is lost beside anything but a zero, and two zeros give a zero. -/
private theorem add_zero_left (s t : Sign) (y : UnpackedFloat) :
    AlikeValue ((UnpackedFloat.zero s).add format y) ((UnpackedFloat.zero t).add format y) := by
  cases y with
  | zero u => cases s <;> cases t <;> cases u <;> exact .zeros _ _
  | _ => exact .refl _

/-- A zero on the right of a sum leaves its sign at most in a sum that is zero itself. -/
private theorem add_zero_right (s t : Sign) (x : UnpackedFloat) :
    AlikeValue (x.add format (.zero s)) (x.add format (.zero t)) := by
  cases x with
  | zero u => cases s <;> cases t <;> cases u <;> exact .zeros _ _
  | _ => exact .refl _

/-- A sum of alike values is alike, though the sign of a zero sum may differ. -/
theorem add (hx : AlikeValue x x') (hy : AlikeValue y y') :
    AlikeValue (x.add format y) (x'.add format y') :=
  lift₂ refl trans add_zero_left add_zero_right hx hy

/-- A zero times an infinity is no number, whatever the sign of the zero. -/
private theorem mul_zero_left (s t : Sign) (y : UnpackedFloat) :
    AlikeValue ((UnpackedFloat.zero s).mul format y) ((UnpackedFloat.zero t).mul format y) := by
  cases y with
  | notANumber => exact .refl _
  | infinity u => exact .refl _
  | zero u => exact .zeros _ _
  | finite u => exact .zeros _ _

/-- A zero on the right of a product makes it zero or no number, whichever sign it has. -/
private theorem mul_zero_right (s t : Sign) (x : UnpackedFloat) :
    AlikeValue (x.mul format (.zero s)) (x.mul format (.zero t)) := by
  cases x with
  | notANumber => exact .refl _
  | infinity u => exact .refl _
  | zero u => exact .zeros _ _
  | finite u => exact .zeros _ _

/-- A product of alike values is alike. -/
theorem mul (hx : AlikeValue x x') (hy : AlikeValue y y') :
    AlikeValue (x.mul format y) (x'.mul format y') :=
  lift₂ refl trans mul_zero_left mul_zero_right hx hy

/-- The magnitude of a zero has no sign left to differ in. -/
theorem abs_eq (h : AlikeValue x y) : x.abs = y.abs := by
  cases h with
  | refl => rfl
  | zeros s t => rfl

/-- A zero of either sign is a number. -/
theorem isNaN_eq (h : AlikeValue x y) : x.isNaN = y.isNaN := by
  cases h with
  | refl => rfl
  | zeros s t => rfl

/-- Packing keeps alike values alike: a zero is packed with its sign. -/
theorem pack (h : AlikeValue x y) :
    AlikeValue (Float32.Model.pack x).unpack (Float32.Model.pack y).unpack := by
  cases h with
  | refl => exact .refl _
  | zeros s t =>
    have hzero (u : Sign) : (Float32.Model.pack (.zero u)).unpack = .zero u := by cases u <;> rfl
    rw [hzero s, hzero t]
    exact .zeros s t

/-- Two values that compare as equal are alike. -/
theorem of_compare (h : x.compare y = some .eq) : AlikeValue x y := by
  -- two zeros are equal whatever their signs; for the rest, equal parts make equal values
  cases x with
  | notANumber => cases h
  | infinity s =>
    cases y with
    | infinity t =>
      cases s <;> cases t
      · exact .refl _
      · cases h
      · cases h
      · exact .refl _
    | _ => cases s <;> cases h
  | zero s =>
    cases y with
    | notANumber => cases h
    | zero t => exact .zeros s t
    | infinity t => cases t <;> cases h
    | finite t => cases t <;> cases h
  | finite s m e hm =>
    cases y with
    | finite t n f hn =>
      -- different signs decide the comparison; with the same sign, exponent and mantissa do
      cases s <;> cases t
      · change some ((compare e f).then (compare m n)).swap = some .eq at h
        rw [Option.some.injEq, Ordering.swap_eq_eq, Ordering.then_eq_eq, Std.compare_eq_iff_eq,
          Std.compare_eq_iff_eq] at h
        obtain ⟨rfl, rfl⟩ := h
        exact .refl _
      · cases h
      · cases h
      · change some ((compare e f).then (compare m n)) = some .eq at h
        rw [Option.some.injEq, Ordering.then_eq_eq, Std.compare_eq_iff_eq,
          Std.compare_eq_iff_eq] at h
        obtain ⟨rfl, rfl⟩ := h
        exact .refl _
    | infinity t => cases s <;> cases t <;> cases h
    | _ => cases s <;> cases h

end AlikeValue

/-- A value compares as equal to itself if it is a number. -/
theorem compare_self_of_isNaN {x : UnpackedFloat} (h : x.isNaN = false) :
    x.compare x = some .eq := by
  cases x with
  | notANumber => exact nomatch h
  | infinity s => cases s <;> rfl
  | zero s => rfl
  | finite s m e hm =>
    -- neither exponent nor mantissa differs from itself
    have hself : (compare e e).then (compare m m) = .eq := by
      rw [Std.ReflOrd.compare_self, Std.ReflOrd.compare_self]
      rfl
    cases s with
    | negative => exact congrArg (fun order => some order.swap) hself
    | positive => exact congrArg some hself

/-! ## Machine numbers -/

/-- Two machine numbers with the same exact value, or two zeros of any sign. -/
def Alike (a b : Float32) : Prop := AlikeValue a.toModel.unpack b.toModel.unpack

theorem Alike.refl (a : Float32) : Alike a a := AlikeValue.refl _

theorem Alike.symm {a b : Float32} (h : Alike a b) : Alike b a := AlikeValue.symm h

theorem Alike.trans {a b c : Float32} (hab : Alike a b) (hbc : Alike b c) : Alike a c :=
  AlikeValue.trans hab hbc

section

variable {a a' b b' : Float32}

/-- Rounding comes after the exact sum, so alike numbers have alike sums. -/
theorem Alike.add (ha : Alike a a') (hb : Alike b b') : Alike (a + b) (a' + b') :=
  (AlikeValue.add ha hb).pack

theorem Alike.mul (ha : Alike a a') (hb : Alike b b') : Alike (a * b) (a' * b') :=
  (AlikeValue.mul ha hb).pack

theorem Alike.abs (h : Alike a b) : Alike a.abs b.abs := by
  have habs : a.toModel.unpack.abs = b.toModel.unpack.abs := h.abs_eq
  simp only [Alike, Float32.abs, Float32.Model.abs, habs]
  exact .refl _

/-- Of two alike numbers both are numbers or neither is. -/
theorem Alike.isNaN_eq (h : Alike a b) : a.isNaN = b.isNaN := AlikeValue.isNaN_eq h

/-- `==` on machine numbers is a comparison of their exact values that says "equal". -/
theorem beq_eq_compare (a b : Float32) :
    (a == b) = (a.toModel.unpack.compare b.toModel.unpack == some .eq) := rfl

/-- `<` on machine numbers is a comparison of their exact values that says "less". -/
theorem lt_iff_compare (a b : Float32) :
    a < b ↔ a.toModel.unpack.compare b.toModel.unpack = some .lt := by
  change decide ((a.toModel.unpack.compare b.toModel.unpack == some .lt) = true) = true ↔ _
  rw [decide_eq_true_iff, beq_iff_eq]

/-- Comparisons do not tell alike numbers apart. -/
theorem Alike.lt_iff (ha : Alike a a') (hb : Alike b b') : a < b ↔ a' < b' := by
  rw [lt_iff_compare, lt_iff_compare, AlikeValue.compare_eq ha hb]

/-- Two machine numbers are equal to the machine exactly if they are alike and are numbers. -/
theorem beq_iff : (a == b) = true ↔ Alike a b ∧ a.isNaN = false := by
  rw [beq_eq_compare, beq_iff_eq]
  constructor
  · intro h
    -- nothing compares as equal to what is not a number
    refine ⟨AlikeValue.of_compare h, ?_⟩
    change a.toModel.unpack.isNaN = false
    cases hu : a.toModel.unpack with
    | notANumber => rw [hu] at h; exact nomatch h
    | _ => rfl
  · rintro ⟨halike, hnumber⟩
    rw [← AlikeValue.compare_eq (.refl _) halike]
    exact compare_self_of_isNaN hnumber

theorem isNaN_of_isFinite (h : a.isFinite = true) : a.isNaN = false := by
  change a.toModel.unpack.isFinite = true at h
  change a.toModel.unpack.isNaN = false
  cases hu : a.toModel.unpack with
  | notANumber => rw [hu] at h; exact nomatch h
  | _ => rfl

end

/-! ## Making a number finite -/

/-- An infinity lies beyond every finite number. -/
theorem isFinite_of_not_lt {a low high : Float32} (hlow : low.isFinite = true)
    (hhigh : high.isFinite = true) (hnumber : a.isNaN = false) (halow : ¬ a < low)
    (hahigh : ¬ high < a) : a.isFinite = true := by
  rw [lt_iff_compare] at halow hahigh
  change low.toModel.unpack.isFinite = true at hlow
  change high.toModel.unpack.isFinite = true at hhigh
  change a.toModel.unpack.isNaN = false at hnumber
  change a.toModel.unpack.isFinite = true
  cases hu : a.toModel.unpack with
  | notANumber => rw [hu] at hnumber; exact nomatch hnumber
  | infinity s =>
    rw [hu] at halow hahigh
    cases s with
    | negative =>
      -- nothing but an infinity is not above the negative one
      cases hl : low.toModel.unpack with
      | zero t => rw [hl] at halow; exact absurd rfl halow
      | finite t => rw [hl] at halow; exact absurd rfl halow
      | _ => rw [hl] at hlow; exact nomatch hlow
    | positive =>
      -- and nothing but an infinity is not below the positive one
      cases hh : high.toModel.unpack with
      | zero t => rw [hh] at hahigh; exact absurd rfl hahigh
      | finite t => rw [hh] at hahigh; cases t <;> exact absurd rfl hahigh
      | _ => rw [hh] at hhigh; exact nomatch hhigh
  | _ => rfl

/-- What is made finite is finite: the largest numbers and zero stand in for the rest. -/
theorem isFinite_finiteComponent (a : Float32) : (finiteComponent a).isFinite = true := by
  simp only [finiteComponent]
  split
  · rfl
  · -- what is left is a number that is between the largest ones
    rename_i hnumber
    split
    · rfl
    · rename_i hlow
      split
      · rfl
      · rename_i hhigh
        exact isFinite_of_not_lt rfl rfl (Bool.eq_false_iff.2 hnumber) hlow hhigh

/-- Making a number finite twice does no more than doing it once. -/
theorem finiteComponent_finiteComponent (a : Float32) :
    finiteComponent (finiteComponent a) = finiteComponent a := by
  -- zero and the two bounds are kept, and so is whatever was let through
  by_cases hnumber : a.isNaN = true
  · have h : finiteComponent a = 0.0 := if_pos hnumber
    rw [h]
    rfl
  · by_cases hlow : a < -largest
    · have h : finiteComponent a = -largest := by
        rw [finiteComponent, if_neg hnumber, if_pos hlow]
      rw [h]
      rfl
    · by_cases hhigh : largest < a
      · have h : finiteComponent a = largest := by
          rw [finiteComponent, if_neg hnumber, if_neg hlow, if_pos hhigh]
        rw [h]
        rfl
      · have h : finiteComponent a = a := by
          rw [finiteComponent, if_neg hnumber, if_neg hlow, if_neg hhigh]
        rw [h, h]

/-- Alike numbers stay alike when they are made finite. -/
theorem Alike.finiteComponent {a b : Float32} (h : Alike a b) :
    Alike (finiteComponent a) (finiteComponent b) := by
  have hnan : a.isNaN = b.isNaN := h.isNaN_eq
  have hlow : a < -largest ↔ b < -largest := h.lt_iff (.refl _)
  have hhigh : largest < a ↔ largest < b := Alike.lt_iff (.refl _) h
  -- both take the same of the four branches, and only the last one lets the number through
  simp only [InputMap.finiteComponent, hnan, hlow, hhigh]
  split
  · exact .refl _
  · split
    · exact .refl _
    · split
      · exact .refl _
      · exact h

end InputMap.Number
