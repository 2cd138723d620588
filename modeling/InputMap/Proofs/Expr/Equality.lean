import InputMap.Profile
import InputMap.Proofs.BindingTable.WellFormed
import InputMap.Proofs.Value.Equality

/-!
# Equality of expressions

Expressions, bindings and profiles are compared with `==`, and the numbers in them as the machine
compares numbers.  So none of them is equal to itself if something in it is not a number, and two of
them may be equal although a zero in them differs in its sign.

## Key results

- `Expr.beq_self`, `Profile.beq_self`: what is equal to itself
- `Expr.HasCategory.hasNumbers`: an expression that is accepted is equal to itself
- `Binding.neutral_beq`: a binding that counts as neutral is equal to the neutral one
-/

namespace InputMap

/-- A machine number is `==` itself exactly if it is a number. -/
theorem Number.beq_self (x : Float32) : (x == x) = !x.isNaN := by
  rw [Bool.eq_iff_iff, Number.beq_iff, Bool.not_eq_true']
  exact ⟨fun h => h.2, fun h => ⟨.refl x, h⟩⟩

/-- A value is `==` itself exactly if it has numbers in all places. -/
theorem Value.beq_self (v : Value) : (v == v) = v.isNumber := by
  rw [Bool.eq_iff_iff, Value.beq_iff]
  exact ⟨fun h => h.2, fun h => ⟨.refl v, h⟩⟩

/-! ## Expressions -/

namespace Expr

/-- Whether all constants and limits in an expression are numbers. -/
def hasNumbers : Expr → Bool
  | input _ => true
  | constant v => v.isNumber
  | add a b => a.hasNumbers && b.hasNumbers
  | multiply a b => a.hasNumbers && b.hasNumbers
  | branch c a b => c.hasNumbers && a.hasNumbers && b.hasNumbers
  | xor a b => a.hasNumbers && b.hasNumbers
  | join x y => x.hasNumbers && y.hasNumbers
  | split e _ => e.hasNumbers
  | threshold e limit => e.hasNumbers && !limit.isNaN
  | previous => true

/-- An expression is equal to itself exactly if all that stands in it are numbers. -/
theorem beq_self (e : Expr) : (e == e) = e.hasNumbers := by
  -- on the expression; its parts are compared one by one
  induction e with
  | input s => exact beq_self_eq_true s
  | constant v => exact v.beq_self
  | add a b iha ihb => exact congrArg₂ and iha ihb
  | multiply a b iha ihb => exact congrArg₂ and iha ihb
  | branch c a b ihc iha ihb => exact congrArg₂ and (congrArg₂ and ihc iha) ihb
  | xor a b iha ihb => exact congrArg₂ and iha ihb
  | join x y ihx ihy => exact congrArg₂ and ihx ihy
  | split e axis ih =>
    show ((e == e) && axis == axis) = e.hasNumbers
    rw [ih, beq_self_eq_true, Bool.and_true]
  | threshold e limit ih => exact congrArg₂ and ih (Number.beq_self limit)
  | previous => rfl

variable {own c : Category} {available : SignalSet} {e : Expr} {v : Value}

/-- The constants and limits of an expression that is accepted are finite. -/
theorem HasCategory.hasNumbers (h : HasCategory own available e c) : e.hasNumbers = true := by
  -- on the rules; constants and limits are finite, and so they are numbers
  induction h with
  | input => rfl
  | constant hv => exact Value.isNumber_of_isFinite hv
  | add _ _ _ iha ihb => exact Bool.and_eq_true_iff.2 ⟨iha, ihb⟩
  | multiply _ _ _ iha ihb => exact Bool.and_eq_true_iff.2 ⟨iha, ihb⟩
  | branch _ _ _ ihp iha ihb =>
    exact Bool.and_eq_true_iff.2 ⟨Bool.and_eq_true_iff.2 ⟨ihp, iha⟩, ihb⟩
  | xor _ _ iha ihb => exact Bool.and_eq_true_iff.2 ⟨iha, ihb⟩
  | join _ _ ihx ihy => exact Bool.and_eq_true_iff.2 ⟨ihx, ihy⟩
  | split _ ih => exact ih
  | threshold hlimit _ ih =>
    refine Bool.and_eq_true_iff.2 ⟨ih, ?_⟩
    rw [Number.isNaN_of_isFinite hlimit]
    rfl
  | previous => rfl

/-- Only a constant is equal to a constant. -/
theorem beq_constant_iff : (e == .constant v) = true ↔ ∃ w, e = .constant w ∧ (w == v) = true := by
  constructor
  · intro h
    cases e with
    | constant w => exact ⟨w, rfl, h⟩
    | _ => exact nomatch h
  · rintro ⟨w, rfl, h⟩
    exact h

end Expr

/-! ## Bindings -/

namespace Binding

variable {b : Binding} {a : ActionId} {signals : SignalSet}

/-- A binding that fits an action is `==` itself, since its constants are finite. -/
theorem Fits.beq_self (h : b.Fits a signals) : (b == b) = true := by
  show ((b.expr == b.expr) && b.category == b.category) = true
  rw [Expr.beq_self, h.hasCategory.hasNumbers, beq_self_eq_true, Bool.and_true]

/-- A binding that counts as neutral may be a zero of either sign, and is equal to the neutral
    one. -/
theorem neutral_beq (h : b.isNeutral = true) : (neutral b.category == b) = true := by
  obtain ⟨w, hexpr, hw⟩ := Expr.beq_constant_iff.1 h
  show ((Expr.constant b.category.neutral == b.expr) && b.category == b.category) = true
  have hsymm : (b.category.neutral == w) = true := BEq.symm hw
  rw [hexpr, beq_self_eq_true, Bool.and_true]
  exact hsymm

theorem isNeutral_neutral (c : Category) : (neutral c).isNeutral = true :=
  Value.beq_self_of_isFinite (Value.isFinite_neutral c)

end Binding

/-! ## Profiles -/

/-- Whether all constants and limits in a profile are numbers. -/
def Profile.hasNumbers (p : Profile) : Bool := p.bindings.all (·.expr.hasNumbers)

/-- An entry of a profile is `==` itself exactly if its constants are numbers. -/
theorem ProfileEntry.beq_self (entry : ProfileEntry) :
    (entry == entry) = entry.expr.hasNumbers := by
  show (entry.action == entry.action && entry.category == entry.category &&
    (entry.expr == entry.expr)) = _
  rw [Expr.beq_self, beq_self_eq_true, beq_self_eq_true, Bool.and_true, Bool.true_and]

/-- A profile is equal to itself exactly if all that stands in it are numbers. -/
theorem Profile.beq_self (p : Profile) : (p == p) = p.hasNumbers := by
  obtain ⟨name, bindings⟩ := p
  have hbindings : (bindings == bindings) = bindings.all (·.expr.hasNumbers) := by
    induction bindings with
    | nil => rfl
    | cons entry rest ih => rw [List.cons_beq_cons, ih, ProfileEntry.beq_self, List.all_cons]
  show (name == name && bindings == bindings) = _
  rw [hbindings, beq_self_eq_true, Bool.true_and]
  rfl

end InputMap
