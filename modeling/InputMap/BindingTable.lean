import InputMap.ActionSet
import InputMap.Binding
import InputMap.Change
import InputMap.Notice

/-! # Tables of bindings

A table holds one checked binding for each action of a set, in evaluation order; an action that
was never bound has the neutral binding.  The signals of a table are the ones that its bindings
may read.  A change of a table gives its answer, which may be a `BindError`, together with the table
that it leaves.

For each change `f` there is a function `fNotices`, which says what the change tells the user. -/

namespace InputMap

/-- One checked binding for each action of a set. -/
structure BindingTable where
  actions : ActionSet
  signals : SignalSet
  /-- The bindings in evaluation order. -/
  bindings : List Binding

namespace BindingTable

/-- The neutral bindings of all actions of a set. -/
def neutralBindings (actions : ActionSet) : List Binding :=
  actions.order.map fun a => .neutral a.category

/-- The table with every action at rest. -/
def neutral (actions : ActionSet) (signals : SignalSet) : BindingTable :=
  ⟨actions, signals, neutralBindings actions⟩

/-- The actions with their bindings, in evaluation order. -/
def entries (t : BindingTable) : List (ActionId × Binding) := t.actions.order.zip t.bindings

/-- The place of an action in the table. -/
def position (t : BindingTable) (a : ActionId) : Except BindError Nat :=
  match t.actions.position? a with
  | some i => .ok i
  | none => .error (.unknownAction a.category a.index)

/-- The binding of an action. -/
def binding? (t : BindingTable) (a : ActionId) : Option Binding := do
  t.bindings[← t.actions.position? a]?

/-- The place of an action together with its checked binding to an expression. -/
def check (t : BindingTable) (a : ActionId) (e : Expr) : Except BindError (Nat × Binding) := do
  let i ← t.position a
  let b ← Binding.check (t.actions.describe a) a.category e t.signals
  return (i, b)

/-- Binds one action to an expression. -/
def bind (t : BindingTable) (a : ActionId) (e : Expr) : Except BindError Unit × BindingTable :=
  changing t do
    let (i, b) ← t.check a e
    modify fun t => { t with bindings := t.bindings.set i b }

/-- Puts one action to rest. -/
def unbind (t : BindingTable) (a : ActionId) : Except BindError Unit × BindingTable :=
  changing t do
    let i ← t.position a
    modify fun t => { t with bindings := t.bindings.set i (.neutral a.category) }

/-- Binds one action after the other, for a table that is made step by step.  It is given up if one
    of the actions cannot be bound. -/
def bindAll (t : BindingTable) : List (ActionId × Expr) → Except BindError BindingTable
  | [] => .ok t
  | (a, e) :: rest => do
    let (answer, bound) := t.bind a e
    answer
    bound.bindAll rest

/-- Puts the bindings of a list into `bindings`; the actions in `seen` were bound before. -/
def place (t : BindingTable) (seen : List ActionId) (bindings : List Binding) :
    List (ActionId × Expr) → Except BindError (List Binding)
  | [] => .ok bindings
  | (a, e) :: rest =>
    if a ∈ seen then .error (.duplicateAction a.category (t.actions.describe a))
    else do
      let (i, b) ← t.check a e
      t.place (a :: seen) (bindings.set i b) rest

/-- Replaces all bindings by those of a list; an action that is not in the list is put to rest,
    and no action may be there twice. -/
def install (t : BindingTable) (list : List (ActionId × Expr)) :
    Except BindError Unit × BindingTable :=
  changing t do
    let bindings ← t.place [] (neutralBindings t.actions) list
    modify fun t => { t with bindings }

/-- The first signal that a binding of the table reads and `signals` does not have. -/
def missingSignal? (t : BindingTable) (signals : SignalSet) : Option Signal :=
  (t.bindings.flatMap fun b => b.expr.signals).find? fun s => decide (s ∉ signals)

/-- Moves the table to another set of signals, which must have all that its bindings read. -/
def rebase (t : BindingTable) (signals : SignalSet) : Except BindError Unit × BindingTable :=
  changing t do
    if let some s := t.missingSignal? signals then throw (.unknownSignal s)
    modify fun t => { t with signals }

/-- A table that changes lead to from one with every action at rest, be they refused or not. -/
inductive Reachable : BindingTable → Prop where
  | neutral (actions : ActionSet) (signals : SignalSet) : Reachable (neutral actions signals)
  | bind {t : BindingTable} (a : ActionId) (e : Expr) : Reachable t → Reachable (t.bind a e).2
  | unbind {t : BindingTable} (a : ActionId) : Reachable t → Reachable (t.unbind a).2
  | install {t : BindingTable} (list : List (ActionId × Expr)) :
    Reachable t → Reachable (t.install list).2
  | rebase {t : BindingTable} (signals : SignalSet) : Reachable t → Reachable (t.rebase signals).2

/-- What `bind` tells. -/
def bindNotices (t : BindingTable) (a : ActionId) (e : Expr) : List Notice :=
  match (t.bind a e).1 with
  | .ok _ => [.bound (t.actions.describe a) e.node]
  | .error error => [.bindingRefused (t.actions.describe a) error]

/-- What `bindAll` tells. -/
def bindAllNotices (t : BindingTable) : List (ActionId × Expr) → List Notice
  | [] => []
  | (a, e) :: rest =>
    t.bindNotices a e ++
      match t.bind a e with
      | (.ok _, bound) => bound.bindAllNotices rest
      | (.error _, _) => []

/-- What `install` tells. -/
def installNotices (t : BindingTable) (list : List (ActionId × Expr)) : List Notice :=
  match (t.install list).1 with
  | .ok _ => [.tableInstalled list.length]
  | .error error => [.tableRefused error]

/-- What `rebase` tells. -/
def rebaseNotices (t : BindingTable) (signals : SignalSet) : List Notice :=
  match t.missingSignal? signals with
  | some s => [.signalMissing s]
  | none => []

@[simp] theorem length_neutralBindings (actions : ActionSet) :
    (neutralBindings actions).length = actions.size := by
  simp [neutralBindings]

end BindingTable

end InputMap
