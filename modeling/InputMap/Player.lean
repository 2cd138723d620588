import InputMap.ListenerList
import InputMap.Profile

/-! # Players

A player has a table of bindings and, for each action, a stored value and a list of listeners.  At
a tick the actions take turns in evaluation order: the binding is evaluated on the readings of the
tick and the stored value, and if the result differs from the stored value, it is stored and the
listeners are called.  What a tick does besides changing the player is a list of events. -/

namespace InputMap

variable {L : Type}

/-- What a player keeps for one action. -/
structure Cell (L : Type) where
  value : Value
  listeners : ListenerList L

/-- A player: a table of bindings, and a cell for each action in evaluation order. -/
structure Player (L : Type) where
  slot : Nat
  actions : ActionSet
  /-- The signals of the player's pad. -/
  signals : SignalSet
  table : BindingTable
  cells : List (Cell L)

/-- A call of a listener.  The player is shown as it is during the call. -/
structure Call (L : Type) where
  listener : L
  action : ActionId
  value : Value
  player : Player L

/-- Something that a tick does. -/
inductive Event (L : Type) where
  | notice (n : Notice)
  | call (c : Call L)

namespace Event

/-- The notice of an event. -/
def notice? : Event L → Option Notice
  | notice n => some n
  | call _ => none

/-- The call of an event. -/
def call? : Event L → Option (Call L)
  | notice _ => none
  | call c => some c

end Event

/-- One player's part of a tick, as far as it has come. -/
structure Pass (L : Type) where
  player : Player L
  evaluated : Nat
  changes : Nat
  calls : Nat
  events : List (Event L)

namespace Player

/-- A player with a table and every action at rest. -/
def create (slot : Nat) (table : BindingTable) : Player L :=
  ⟨slot, table.actions, table.signals, table,
    table.actions.order.map fun a => ⟨a.category.neutral, .empty⟩⟩

/-- Puts in a whole table.  It must be for the same actions, and is moved to the signals of the
    player's pad if it was made for others. -/
def setTable (p : Player L) (t : BindingTable) : Except BindError Unit × Player L :=
  changing p do
    if t.actions ≠ p.actions then throw .foreignActionSet
    let (answer, moved) := if t.signals ≠ p.signals then t.rebase p.signals else (.ok (), t)
    answer
    modify fun p => { p with table := moved }

/-- What `setTable` tells. -/
def setTableNotices (p : Player L) (t : BindingTable) : List Notice :=
  if t.actions ≠ p.actions then [.playerTableForeign p.slot]
  else (if t.signals ≠ p.signals then t.rebaseNotices p.signals else []) ++
    match (p.setTable t).1 with
    | .ok _ => [.playerTableInstalled p.slot]
    | .error _ => []

/-- Binds one action. -/
def bind (p : Player L) (a : ActionId) (e : Expr) : Except BindError Unit × Player L :=
  let (answer, table) := p.table.bind a e
  (answer, { p with table })

/-- The cell of an action. -/
def cell? (p : Player L) (a : ActionId) : Option (Cell L) := do
  p.cells[← p.actions.position? a]?

/-- The stored value of an action; at rest before the first tick. -/
def state? (p : Player L) (a : ActionId) : Option Value := (p.cell? a).map (·.value)

/-- The stored value of a digital action. -/
def digital? (p : Player L) (a : ActionId) : Option Bool := (p.state? a).bind (·.asBool?)

/-- The stored value of a one-axis action. -/
def analog1? (p : Player L) (a : ActionId) : Option Float32 := (p.state? a).bind (·.asScalar?)

/-- The stored value of a two-axis action. -/
def analog2? (p : Player L) (a : ActionId) : Option (Float32 × Float32) :=
  (p.state? a).bind (·.asVec2?)

/-- The number of the player's own listeners of an action. -/
def listenerCount? (p : Player L) (a : ActionId) : Option Nat :=
  (p.cell? a).map (·.listeners.size)

/-- The player with one cell changed. -/
def modifyCell (p : Player L) (i : Nat) (f : Cell L → Cell L) : Player L :=
  { p with cells := p.cells.modify i f }

/-- Adds a listener of an action; there is no id if the action is not declared. -/
def listen (p : Player L) (a : ActionId) (listener : L) : Option ListenerId × Player L :=
  match p.actions.position? a, p.cell? a with
  | some i, some cell =>
    (some cell.listeners.nextId,
      p.modifyCell i fun c => { c with listeners := c.listeners.add listener })
  | _, _ => (none, p)

/-- Removes a listener of an action, and says whether it was there. -/
def unlisten (p : Player L) (a : ActionId) (id : ListenerId) : Bool × Player L :=
  match p.actions.position? a, p.cell? a with
  | some i, some cell =>
    (cell.listeners.contains id,
      p.modifyCell i fun c => { c with listeners := c.listeners.remove id })
  | _, _ => (false, p)

/-- The player with the value of one cell replaced. -/
def store (p : Player L) (i : Nat) (v : Value) : Player L :=
  p.modifyCell i fun c => { c with value := v }

/-- What the evaluation of a binding tells. -/
def valueNotices (b : Binding) (readings : Snapshot) (previous : Value) : List Notice :=
  match b.expr.evaluate? readings previous with
  | some _ => []
  | none => [.noValue b.category]

/-- The listeners of an action: the player's own ones first, then those shared by all players. -/
def listenersAt (cell : Cell L) (shared : List (ListenerList L)) (i : Nat) : List L :=
  cell.listeners.listeners ++
    match shared[i]? with
    | some list => list.listeners
    | none => []

/-- The turn of one action, which is at the place `i`. -/
def turn (readings : Snapshot) (shared : List (ListenerList L)) (pass : Pass L) :
    (ActionId × Binding) × Nat → Pass L
  | ((action, binding), i) =>
    match pass.player.cells[i]? with
    | none => pass
    | some cell =>
      let value := binding.evaluate readings cell.value
      let evaluated :=
        { pass with
          evaluated := pass.evaluated + 1
          events := pass.events ++ (valueNotices binding readings cell.value).map .notice }
      if value == cell.value then evaluated
      else
        let player := pass.player.store i value
        let listeners := listenersAt cell shared i
        let change := Notice.changed player.slot (player.actions.describe action) cell.value value
        { evaluated with
          player
          changes := pass.changes + 1
          calls := pass.calls + listeners.length
          events := evaluated.events ++
            .notice change :: listeners.map fun listener => .call ⟨listener, action, value, player⟩ }

/-- The turns of all actions in evaluation order. -/
def update (p : Player L) (readings : Snapshot) (shared : List (ListenerList L)) : Pass L :=
  p.table.entries.zipIdx.foldl (turn readings shared) ⟨p, 0, 0, 0, []⟩

end Player

end InputMap
