import InputMap.Number

/-! # Values and their categories

An action is a switch, a one-axis or a two-axis quantity; so is the reading of a signal.  A `Value`
is one such quantity, and its `Category` says which.

Change detection compares values with `==`, which is the machine's comparison on each component:
the two zeros are equal, and what is not a number equals nothing.  `Value.sanitized` makes a value
storable, that is, finite in every component and hence equal to itself. -/

namespace InputMap

/-- The shape of an action or a reading.  The order of the constructors is the order in which a
    tick evaluates the actions. -/
inductive Category where
  | digital
  | analog1
  | analog2
deriving DecidableEq, Repr

/-- A component of a two-axis value. -/
inductive Axis where
  | x
  | y
deriving DecidableEq, Repr

/-- A resolved action value or a reading. -/
inductive Value where
  | bool (b : Bool)
  | scalar (v : Float32)
  | vec2 (x y : Float32)
deriving DecidableEq

namespace Category

/-- All categories in evaluation order. -/
def all : List Category := [.digital, .analog1, .analog2]

theorem mem_all (c : Category) : c ∈ all := by cases c <;> decide

/-- The place of a category in the evaluation order. -/
def rank : Category → Nat
  | .digital => 0
  | .analog1 => 1
  | .analog2 => 2

/-- The name of a category in messages. -/
def name : Category → String
  | .digital => "Digital"
  | .analog1 => "Analog1"
  | .analog2 => "Analog2"

/-- The name of a category in files. -/
def key : Category → String
  | .digital => "digital"
  | .analog1 => "analog1"
  | .analog2 => "analog2"

/-- The resting value of a category. -/
def neutral : Category → Value
  | .digital => .bool false
  | .analog1 => .scalar 0.0
  | .analog2 => .vec2 0.0 0.0

/-- What a pad answers for a signal of the category. -/
def Reading : Category → Type
  | .digital => Bool
  | .analog1 => Float32
  | .analog2 => Float32 × Float32

end Category

namespace Axis

/-- All axes. -/
def all : List Axis := [.x, .y]

/-- The name of an axis in files. -/
def key : Axis → String
  | .x => "x"
  | .y => "y"

/-- The component of a pair that the axis selects. -/
def select : Axis → Float32 → Float32 → Float32
  | .x, first, _ => first
  | .y, _, second => second

end Axis

/-- The largest finite single-precision number. -/
def largest : Float32 := .ofBits 0x7f7fffff

/-- A number that is kept if it is finite; the nearest finite one for an infinity, and zero for
    what is not a number. -/
def finiteComponent (v : Float32) : Float32 :=
  if v.isNaN then 0.0
  else if v < -largest then -largest
  else if largest < v then largest
  else v

namespace Value

instance : Inhabited Value := ⟨.bool false⟩

/-- Equality of values, component by component as the machine compares numbers. -/
protected def beq : Value → Value → Bool
  | .bool a, .bool b => a == b
  | .scalar a, .scalar b => a == b
  | .vec2 a b, .vec2 c d => a == c && b == d
  | _, _ => false

instance : BEq Value := ⟨Value.beq⟩

@[simp] theorem bool_beq (a b : Bool) : (Value.bool a == Value.bool b) = (a == b) := rfl

@[simp] theorem scalar_beq (a b : Float32) : (Value.scalar a == Value.scalar b) = (a == b) := rfl

@[simp] theorem vec2_beq (a b c d : Float32) :
    (Value.vec2 a b == Value.vec2 c d) = (a == c && b == d) := rfl

/-- The category of a value. -/
def category : Value → Category
  | .bool _ => .digital
  | .scalar _ => .analog1
  | .vec2 _ _ => .analog2

@[simp] theorem category_bool (b : Bool) : (bool b).category = .digital := rfl
@[simp] theorem category_scalar (v : Float32) : (scalar v).category = .analog1 := rfl
@[simp] theorem category_vec2 (x y : Float32) : (vec2 x y).category = .analog2 := rfl

@[simp] theorem category_neutral (c : Category) : c.neutral.category = c := by cases c <;> rfl

/-- Whether every component is finite. -/
def isFinite : Value → Bool
  | .bool _ => true
  | .scalar v => v.isFinite
  | .vec2 x y => x.isFinite && y.isFinite

/-- The value with every component made finite. -/
def sanitized : Value → Value
  | .bool b => .bool b
  | .scalar v => .scalar (finiteComponent v)
  | .vec2 x y => .vec2 (finiteComponent x) (finiteComponent y)

@[simp] theorem category_sanitized (v : Value) : v.sanitized.category = v.category := by
  cases v <;> rfl

/-- The switch position, of a switch only. -/
def asBool? : Value → Option Bool
  | .bool b => some b
  | _ => none

/-- The number, of a one-axis value only. -/
def asScalar? : Value → Option Float32
  | .scalar v => some v
  | _ => none

/-- The two components, of a two-axis value only. -/
def asVec2? : Value → Option (Float32 × Float32)
  | .vec2 x y => some (x, y)
  | _ => none

/-- Combines two numbers, or two pairs component by component; nothing else can be combined. -/
def combine? (f : Float32 → Float32 → Float32) : Value → Value → Option Value
  | .scalar a, .scalar b => some (.scalar (f a b))
  | .vec2 a b, .vec2 c d => some (.vec2 (f a c) (f b d))
  | _, _ => none

/-- The text of a value in messages: numbers to three places. -/
def text : Value → String
  | .bool b => if b then "true" else "false"
  | .scalar v => Number.fixedText 3 v
  | .vec2 x y => "(" ++ Number.fixedText 3 x ++ ", " ++ Number.fixedText 3 y ++ ")"

/-- The reading of a signal as a value of its category. -/
def ofReading : (c : Category) → c.Reading → Value
  | .digital, b => .bool b
  | .analog1, v => .scalar v
  | .analog2, (x, y) => .vec2 x y

@[simp] theorem category_ofReading (c : Category) (r : c.Reading) :
    (ofReading c r).category = c := by
  cases c <;> rfl

end Value

end InputMap
