import InputMap.Expr
import InputMap.Snapshot

/-! # What an expression means

`Expr.evaluate?` computes the value of an expression from the readings of one tick and the
action's value of the tick before.  Of a branch only the arm that its condition selects is
looked at.  There is no value when an operand has the wrong category, which cannot happen in an
expression that `Expr.infer` accepts. -/

namespace InputMap.Expr

/-- The value of an expression, if it has one. -/
def evaluate? (readings : Snapshot) (previous : Value) : Expr → Option Value
  | .input s => some (readings.get s)
  | .constant v => some v
  | .add a b => do
    let left ← a.evaluate? readings previous
    let right ← b.evaluate? readings previous
    left.combine? (· + ·) right
  | .multiply a b => do
    let left ← a.evaluate? readings previous
    let right ← b.evaluate? readings previous
    left.combine? (· * ·) right
  | .branch c a b => do
    let condition ← c.evaluate? readings previous
    let selected ← condition.asBool?
    if selected then a.evaluate? readings previous else b.evaluate? readings previous
  | .xor a b => do
    let left ← a.evaluate? readings previous
    let first ← left.asBool?
    let right ← b.evaluate? readings previous
    let second ← right.asBool?
    return .bool (first ^^ second)
  | .join x y => do
    let left ← x.evaluate? readings previous
    let first ← left.asScalar?
    let right ← y.evaluate? readings previous
    let second ← right.asScalar?
    return .vec2 first second
  | .split e axis => do
    let pair ← e.evaluate? readings previous
    let components ← pair.asVec2?
    return .scalar (axis.select components.1 components.2)
  | .threshold e limit => do
    let number ← e.evaluate? readings previous
    let v ← number.asScalar?
    return .bool (decide (limit < v.abs))
  | .previous => some previous

end InputMap.Expr
