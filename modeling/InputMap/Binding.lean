import InputMap.Expr.Typing
import InputMap.Expr.Evaluation

/-! # Checked bindings

A `Binding` is an expression together with the category of the action that it is bound to.  It is
made by `Binding.check`, which accepts an expression of that category only, or by
`Binding.neutral`, the binding of an action that nobody bound. -/

namespace InputMap

/-- An expression bound to an action of a known category. -/
structure Binding where
  expr : Expr
  category : Category
deriving DecidableEq

namespace Binding

/-- The binding of `expr` to an action, if the expression makes sense and has its category. -/
def check (action : String) (category : Category) (expr : Expr) (available : SignalSet) :
    Except BindError Binding := do
  let found ← expr.infer category available
  if found = category then return ⟨expr, category⟩
  else throw (.typeMismatch action category found)

/-- The binding that always yields the resting value. -/
def neutral (category : Category) : Binding := ⟨.constant category.neutral, category⟩

/-- Whether a binding is the neutral one; a resting value is compared as the machine compares
    numbers. -/
def isNeutral (b : Binding) : Bool := b.expr == .constant b.category.neutral

/-- Equality of bindings, with numbers compared as the machine compares them. -/
protected def beq (a b : Binding) : Bool := a.expr == b.expr && a.category == b.category

instance : BEq Binding := ⟨Binding.beq⟩

/-- The value of a binding at a tick.  Sums and products may overflow, so the result is made
    finite; an expression without a value counts as at rest. -/
def evaluate (b : Binding) (readings : Snapshot) (previous : Value) : Value :=
  match b.expr.evaluate? readings previous with
  | some v => v.sanitized
  | none => b.category.neutral

end Binding

end InputMap
