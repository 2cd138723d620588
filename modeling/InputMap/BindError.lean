import InputMap.Expr

/-! # Why a binding is refused

A binding, a table of bindings or the declaration of an action is refused before anything is
evaluated.  Each cause has one message. -/

namespace InputMap

/-- Why a binding, a table of bindings or a declaration is refused. -/
inductive BindError where
  /-- The expression yields another category than its action has. -/
  | typeMismatch (action : String) (expected found : Category)
  /-- The two operands of a node differ in category. -/
  | operandMismatch (node : Node) (left right : Category)
  /-- An operand has the wrong category for its place. -/
  | unexpectedKind (node : Node) (expected found : Category)
  | unknownSignal (s : Signal)
  /-- The action is not in the set; it is named by its category and its number there. -/
  | unknownAction (category : Category) (index : Nat)
  | duplicateAction (category : Category) (name : String)
  | nonFiniteConstant
  /-- The table was made for another set of actions. -/
  | foreignActionSet
deriving DecidableEq, Repr

/-- The text of an action's number in its category. -/
def actionText (category : Category) (index : Nat) : String :=
  category.name ++ "#" ++ toString index

namespace BindError

/-- The message of a refusal. -/
def message : BindError → String
  | typeMismatch action expected found =>
    s!"Action {action} is {expected.name} but its binding produces {found.name}"
  | operandMismatch node left right =>
    s!"{node.name} needs operands of the same shape, got {left.name} and {right.name}"
  | unexpectedKind node expected found => s!"{node.name} expects {expected.name}, got {found.name}"
  | unknownSignal s => s!"Raw signal {s.name} is not provided by the backend"
  | unknownAction category index => s!"Unknown action: {actionText category index}"
  | duplicateAction category name => s!"Action {name} is already declared as {category.name}"
  | nonFiniteConstant => "Constants must be finite"
  | foreignActionSet => "Configuration was built for a different action set"

end BindError

end InputMap
