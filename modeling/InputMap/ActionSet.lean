import InputMap.Change
import InputMap.Notice

/-! # Sets of actions

Actions are declared by category and name before anything else.  An `ActionId` stands for a
declared action: its category, its number among the actions of that category, and the set that
declared it, so that an id of another set is never taken for a local one.  The number of a set is
drawn from a counter when its builder is begun.

All actions of a set are ordered: digital before one-axis before two-axis, and each category in
the order of declaration.  `ActionSet.order` lists them, and `ActionSet.position?` is the place of
an action in that list. -/

namespace InputMap

/-- A declared action. -/
structure ActionId where
  category : Category
  /-- The number of the action in its category. -/
  index : Nat
  /-- The set that declared the action. -/
  set : Nat
deriving DecidableEq, Repr

namespace ActionId

/-- The text of an id. -/
def text (a : ActionId) : String := actionText a.category a.index

/-- Comparison by category, then by number, then by set. -/
protected def compare (a b : ActionId) : Ordering :=
  (compare a.category.rank b.category.rank).then
    ((compare a.index b.index).then (compare a.set b.set))

instance : Ord ActionId := ⟨ActionId.compare⟩

/-- Whether `a` does not come after `b`. -/
def notAfter (a b : ActionId) : Bool := (compare a b).isLE

end ActionId

/-- A set of declared actions.  `id` tells it apart from other sets; the names of each category
    stand in the order of declaration. -/
structure ActionSet where
  id : Nat
  digital : List String
  analog1 : List String
  analog2 : List String
deriving DecidableEq, Repr

/-- The counter that numbers the builders of a program.  It has 64 bits, which no program runs
    through, so that it is taken to go on without end. -/
structure SetCounter where
  next : Nat
deriving DecidableEq, Repr

/-- The counter of a program that has no builders yet. -/
def SetCounter.zero : SetCounter := ⟨0⟩

namespace ActionSet

/-- The set without actions. -/
def empty (id : Nat) : ActionSet := ⟨id, [], [], []⟩

/-- Begins a builder, which is a set without actions.  It takes its number from the counter, and the
    counter goes on to the next one. -/
def builder (counter : SetCounter) : ActionSet × SetCounter :=
  (empty counter.next, ⟨counter.next + 1⟩)

/-- The names of a category. -/
def names (actions : ActionSet) : Category → List String
  | .digital => actions.digital
  | .analog1 => actions.analog1
  | .analog2 => actions.analog2

/-- The set with one more name in a category. -/
def append (actions : ActionSet) (category : Category) (name : String) : ActionSet :=
  match category with
  | .digital => { actions with digital := actions.digital ++ [name] }
  | .analog1 => { actions with analog1 := actions.analog1 ++ [name] }
  | .analog2 => { actions with analog2 := actions.analog2 ++ [name] }

/-- Declares an action.  A name can be declared once in each category. -/
def declare (actions : ActionSet) (category : Category) (name : String) :
    Except BindError ActionId × ActionSet :=
  changing actions do
    if name ∈ actions.names category then throw (.duplicateAction category name)
    modify (·.append category name)
    let declared ← get
    return ⟨category, (declared.names category).length - 1, declared.id⟩

/-- Declares the names of a list one after the other, and gives the answer to each of them together
    with the set at the end. -/
def declareAll (actions : ActionSet) :
    List (Category × String) → List (Except BindError ActionId) × ActionSet
  | [] => ([], actions)
  | (category, name) :: rest =>
    let (answer, declared) := actions.declare category name
    let (answers, all) := declared.declareAll rest
    (answer :: answers, all)

/-- What `declare` tells: a notice if the declaration is accepted. -/
def declareNotices (actions : ActionSet) (category : Category) (name : String) : List Notice :=
  match (actions.declare category name).1 with
  | .ok _ => [.declared category name]
  | .error _ => []

/-- What `declareAll` tells. -/
def declareAllNotices (actions : ActionSet) : List (Category × String) → List Notice
  | [] => []
  | (category, name) :: rest =>
    actions.declareNotices category name ++
      (actions.declare category name).2.declareAllNotices rest

/-- The number of actions. -/
def size (actions : ActionSet) : Nat :=
  (actions.names .digital).length + (actions.names .analog1).length +
    (actions.names .analog2).length

/-- Whether an id stands for an action of this set. -/
def contains (actions : ActionSet) (a : ActionId) : Bool :=
  a.set == actions.id && decide (a.index < (actions.names a.category).length)

/-- The name of an action of this set. -/
def name? (actions : ActionSet) (a : ActionId) : Option String :=
  if actions.contains a then (actions.names a.category)[a.index]? else none

/-- The action of a category with a name. -/
def find? (actions : ActionSet) (category : Category) (name : String) : Option ActionId :=
  ((actions.names category).idxOf? name).map fun index => ⟨category, index, actions.id⟩

/-- The actions of one category in the order of declaration. -/
def ofCategory (actions : ActionSet) (category : Category) : List ActionId :=
  (List.range (actions.names category).length).map fun index => ⟨category, index, actions.id⟩

/-- All actions in evaluation order. -/
def order (actions : ActionSet) : List ActionId := Category.all.flatMap actions.ofCategory

/-- The number of actions in the categories before one. -/
def offset (actions : ActionSet) : Category → Nat
  | .digital => 0
  | .analog1 => (actions.names .digital).length
  | .analog2 => (actions.names .digital).length + (actions.names .analog1).length

/-- The place of an action of this set in the evaluation order. -/
def position? (actions : ActionSet) (a : ActionId) : Option Nat :=
  if actions.contains a then some (actions.offset a.category + a.index) else none

/-- The name of an action in messages; the text of its id if it is not of this set. -/
def describe (actions : ActionSet) (a : ActionId) : String := (actions.name? a).getD a.text

@[simp] theorem id_append (actions : ActionSet) (c : Category) (name : String) :
    (actions.append c name).id = actions.id := by
  cases c <;> rfl

@[simp] theorem names_append_self (actions : ActionSet) (c : Category) (name : String) :
    (actions.append c name).names c = actions.names c ++ [name] := by
  cases c <;> rfl

theorem names_append_of_ne (actions : ActionSet) {c d : Category} (name : String) (h : d ≠ c) :
    (actions.append c name).names d = actions.names d := by
  cases c <;> cases d <;> simp_all [append, names]

@[ext] theorem ext {a b : ActionSet} (hid : a.id = b.id) (hnames : ∀ c, a.names c = b.names c) :
    a = b := by
  cases a
  cases b
  have hdigital := hnames .digital
  have hanalog1 := hnames .analog1
  have hanalog2 := hnames .analog2
  simp_all [names]

@[simp] theorem length_ofCategory (actions : ActionSet) (c : Category) :
    (actions.ofCategory c).length = (actions.names c).length := by
  simp [ofCategory]

@[simp] theorem length_order (actions : ActionSet) : actions.order.length = actions.size := by
  simp [order, size, Category.all, Nat.add_assoc]

theorem length_declareAll (actions : ActionSet) (list : List (Category × String)) :
    (actions.declareAll list).1.length = list.length := by
  induction list generalizing actions with
  | nil => rfl
  | cons head rest ih => simp [declareAll, ih]

theorem contains_eq_true_iff {actions : ActionSet} {a : ActionId} :
    actions.contains a = true ↔
      a.set = actions.id ∧ a.index < (actions.names a.category).length := by
  simp [contains]

theorem mem_order_iff {actions : ActionSet} {a : ActionId} :
    a ∈ actions.order ↔ actions.contains a = true := by
  rw [contains_eq_true_iff]
  simp only [order, List.mem_flatMap, ofCategory, List.mem_map, List.mem_range]
  constructor
  · rintro ⟨c, -, i, hi, rfl⟩
    exact ⟨rfl, hi⟩
  · rintro ⟨hset, hindex⟩
    exact ⟨a.category, Category.mem_all _, a.index, hindex, by rw [← hset]⟩

end ActionSet

end InputMap
