import InputMap.BindError
import InputMap.SignalSet

/-! # Which expressions make sense

`Expr.infer` finds the category of an expression from the bottom up, or the first thing that is
wrong with it: a constant that is not finite, a signal that the pad does not have, or an operand
of the wrong category.  An expression that passes can be evaluated in every circumstance. -/

namespace InputMap

/-- Accepts an operand of the expected category only. -/
def expectCategory (node : Node) (expected found : Category) : Except BindError Unit :=
  if found = expected then .ok () else .error (.unexpectedKind node expected found)

/-- The category of a sum or product: both operands must be numbers, or both pairs. -/
def arithmeticCategory (node : Node) (left right : Category) : Except BindError Category :=
  if left ≠ right then .error (.operandMismatch node left right)
  else if left = .digital then .error (.unexpectedKind node .analog1 left)
  else .ok left

/-- The common category of the two arms of a branch. -/
def armCategory (left right : Category) : Except BindError Category :=
  if left ≠ right then .error (.operandMismatch .branch left right) else .ok left

/-- The category of an expression bound to an action of the category `own`, where the signals in
    `available` can be read.  Parts are checked from left to right and the first error counts; the
    limit of a threshold comes before its operand. -/
def Expr.infer (own : Category) (available : SignalSet) : Expr → Except BindError Category
  | .input s => if s ∈ available then .ok s.category else .error (.unknownSignal s)
  | .constant v => if v.isFinite then .ok v.category else .error .nonFiniteConstant
  | .add a b => do
    let left ← a.infer own available
    let right ← b.infer own available
    arithmeticCategory .add left right
  | .multiply a b => do
    let left ← a.infer own available
    let right ← b.infer own available
    arithmeticCategory .multiply left right
  | .branch c a b => do
    let condition ← c.infer own available
    expectCategory .branch .digital condition
    let left ← a.infer own available
    let right ← b.infer own available
    armCategory left right
  | .xor a b => do
    let left ← a.infer own available
    expectCategory .xor .digital left
    let right ← b.infer own available
    expectCategory .xor .digital right
    return .digital
  | .join x y => do
    let first ← x.infer own available
    expectCategory .join .analog1 first
    let second ← y.infer own available
    expectCategory .join .analog1 second
    return .analog2
  | .split e _ => do
    let pair ← e.infer own available
    expectCategory .split .analog2 pair
    return .analog1
  | .threshold e limit =>
    if limit.isFinite then do
      let number ← e.infer own available
      expectCategory .threshold .analog1 number
      return .digital
    else .error .nonFiniteConstant
  | .previous => .ok own

end InputMap
