import InputMap.Signal

/-! # Binding expressions

A binding is a small tree over signals, constants and the action's own value of the tick before.
This module holds the trees; `InputMap.Expr.Typing` says which of them make sense and
`InputMap.Expr.Evaluation` what they mean. -/

namespace InputMap

/-- A binding expression. -/
inductive Expr where
  /-- The reading of a signal. -/
  | input (s : Signal)
  | constant (v : Value)
  /-- The sum of two numbers, or of two pairs component by component. -/
  | add (a b : Expr)
  /-- The product of two numbers, or of two pairs component by component. -/
  | multiply (a b : Expr)
  /-- One of two expressions, as a condition says. -/
  | branch (condition yes no : Expr)
  /-- Whether exactly one of two switches is on. -/
  | xor (a b : Expr)
  /-- A pair from its components. -/
  | join (x y : Expr)
  /-- A component of a pair. -/
  | split (pair : Expr) (axis : Axis)
  /-- Whether a number is further from zero than a limit. -/
  | threshold (number : Expr) (limit : Float32)
  /-- The value that the action had at the tick before. -/
  | previous
deriving DecidableEq

/-- What stands at the root of an expression. -/
inductive Node where
  | input
  | constant
  | add
  | multiply
  | branch
  | xor
  | join
  | split
  | threshold
  | previous
deriving DecidableEq, Repr

namespace Node

/-- All kinds of nodes. -/
def all : List Node :=
  [.input, .constant, .add, .multiply, .branch, .xor, .join, .split, .threshold, .previous]

/-- The name of a kind of node, in messages and in files. -/
def name : Node → String
  | .input => "input"
  | .constant => "constant"
  | .add => "add"
  | .multiply => "multiply"
  | .branch => "branch"
  | .xor => "xor"
  | .join => "join"
  | .split => "split"
  | .threshold => "threshold"
  | .previous => "previous_state"

end Node

namespace Expr

/-- The kind of the root. -/
def node : Expr → Node
  | input _ => .input
  | constant _ => .constant
  | add _ _ => .add
  | multiply _ _ => .multiply
  | branch _ _ _ => .branch
  | xor _ _ => .xor
  | join _ _ => .join
  | split _ _ => .split
  | threshold _ _ => .threshold
  | previous => .previous

/-- The signals that an expression names, from left to right and with repetitions. -/
def signals : Expr → List Signal
  | input s => [s]
  | constant _ => []
  | add a b => a.signals ++ b.signals
  | multiply a b => a.signals ++ b.signals
  | branch c a b => c.signals ++ a.signals ++ b.signals
  | xor a b => a.signals ++ b.signals
  | join x y => x.signals ++ y.signals
  | split e _ => e.signals
  | threshold e _ => e.signals
  | previous => []

/-- Equality of expressions, with constants and limits compared as the machine compares numbers. -/
protected def beq : Expr → Expr → Bool
  | input s, input t => s == t
  | constant v, constant w => v == w
  | add a b, add c d => a.beq c && b.beq d
  | multiply a b, multiply c d => a.beq c && b.beq d
  | branch p a b, branch q c d => p.beq q && a.beq c && b.beq d
  | xor a b, xor c d => a.beq c && b.beq d
  | join a b, join c d => a.beq c && b.beq d
  | split e i, split f j => e.beq f && i == j
  | threshold e l, threshold f m => e.beq f && l == m
  | previous, previous => true
  | _, _ => false

instance : BEq Expr := ⟨Expr.beq⟩

/-- The product with minus one. -/
def negate (e : Expr) : Expr := multiply e (constant (.scalar (-1.0)))

/-- A button as an axis: one number while it is down, another while it is up. -/
def buttonAxis (s : Signal) (pressed released : Float32) : Expr :=
  branch (input s) (constant (.scalar pressed)) (constant (.scalar released))

end Expr

end InputMap
