import InputMap.Player
import InputMap.Poll

/-! # Hosts

A host owns a pad, a set of actions and one player for each slot of the pad.  One update is one
tick: the pad is told that a tick begins, every slot is polled once, and then the players are
updated in the order of their slots.  Faults of the pad never stop a tick.

Listeners can be added for one player or for all of them; those for all players are kept here. -/

namespace InputMap

/-- A pad, a set of actions, and a player for each slot of the pad. -/
structure Host (σ L : Type) where
  pad : σ
  actions : ActionSet
  /-- The signals that the pad had when the host was created. -/
  signals : SignalSet
  settings : Settings
  /-- The players in the order of their slots. -/
  players : List (Player L)
  /-- The listeners for all players, by the place of their action in evaluation order. -/
  shared : List (ListenerList L)
  /-- The totals since the last summary. -/
  totals : TickTotals
  /-- The number of ticks so far. -/
  tick : Nat

/-- What a tick came to. -/
structure TickReport where
  tick : Nat
  /-- The number of actions of all players whose value has changed. -/
  changes : Nat
  /-- The number of listener calls. -/
  calls : Nat
deriving DecidableEq, Repr

/-- Why a change of a host is refused. -/
inductive HostError where
  | unknownPlayer (slot : Nat)
  | bind (error : BindError)
  | apply (error : ApplyError)
deriving DecidableEq, Repr

/-- The message of a refused change. -/
def HostError.message : HostError → String
  | unknownPlayer slot => s!"No player in slot {slot}"
  | bind error => error.message
  | apply error => error.message

/-- The host after a tick, with what the tick came to and what it did. -/
structure Tick (σ L : Type) where
  host : Host σ L
  report : TickReport
  events : List (Event L)

/-- The readings of several slots, with the pad as the readings have left it. -/
structure Sweep (σ : Type) where
  pad : σ
  /-- The readings of the slots, in order. -/
  snapshots : List Snapshot
  notices : List Notice

namespace TickTotals

/-- No ticks. -/
def zero : TickTotals := ⟨0, 0, 0, 0⟩

/-- The totals with one more tick. -/
def add (totals : TickTotals) (evaluations changes calls : Nat) : TickTotals :=
  ⟨totals.ticks + 1, totals.evaluations + evaluations, totals.changes + changes,
    totals.calls + calls⟩

end TickTotals

namespace Host

variable {σ L : Type}

/-- A host with every action of every player at rest. -/
def create [Pad σ] (actions : ActionSet) (pad : σ) (settings : Settings) : Host σ L :=
  let signals := Pad.signals pad
  { pad, actions, signals, settings
    players := (List.range (Pad.slotCount pad)).map fun slot =>
      .create slot (.neutral actions signals)
    shared := actions.order.map fun _ => .empty
    totals := .zero
    tick := 0 }

/-- What `create` tells. -/
def createNotices (h : Host σ L) : List Notice :=
  [.hostCreated h.actions.size h.signals.size h.players.length]

/-- The table of the host's actions and signals with every action at rest. -/
def neutralTable (h : Host σ L) : BindingTable := .neutral h.actions h.signals

/-- The player of a slot. -/
def player? (h : Host σ L) (slot : Nat) : Option (Player L) := h.players[slot]?

/-- The host with the player of a slot replaced. -/
def setPlayer (h : Host σ L) (slot : Nat) (p : Player L) : Host σ L :=
  { h with players := h.players.set slot p }

/-- Changes the player of a slot, if there is one. -/
def modifyPlayer (h : Host σ L) (slot : Nat) (f : Player L → Except BindError Unit × Player L) :
    Except HostError Unit × Host σ L :=
  changing h do
    let some p := h.player? slot | throw (.unknownPlayer slot)
    let (answer, changed) := f p
    modify (·.setPlayer slot changed)
    answer.mapError HostError.bind

/-- Puts a whole table into the player of a slot. -/
def configure (h : Host σ L) (slot : Nat) (t : BindingTable) : Except HostError Unit × Host σ L :=
  h.modifyPlayer slot (·.setTable t)

/-- Binds one action of the player of a slot. -/
def bind (h : Host σ L) (slot : Nat) (a : ActionId) (e : Expr) :
    Except HostError Unit × Host σ L :=
  h.modifyPlayer slot (·.bind a e)

/-- Replaces the bindings of the player of a slot by those of a profile. -/
def applyProfile (h : Host σ L) (slot : Nat) (profile : Profile) :
    Except HostError Unit × Host σ L :=
  changing h do
    let t ← (profile.apply h.neutralTable).mapError HostError.apply
    Change.of (·.configure slot t)

/-- What `configure` tells. -/
def configureNotices (h : Host σ L) (slot : Nat) (t : BindingTable) : List Notice :=
  match h.player? slot with
  | some p => p.setTableNotices t
  | none => []

/-- What `bind` tells. -/
def bindNotices (h : Host σ L) (slot : Nat) (a : ActionId) (e : Expr) : List Notice :=
  match h.player? slot with
  | some p => p.table.bindNotices a e
  | none => []

/-- What `applyProfile` tells. -/
def applyProfileNotices (h : Host σ L) (slot : Nat) (profile : Profile) : List Notice :=
  profile.applyNotices h.neutralTable ++
    match profile.apply h.neutralTable with
    | .error _ => []
    | .ok t =>
      h.configureNotices slot t ++
        match (h.configure slot t).1 with
        | .ok _ => [.profileApplied profile.name slot]
        | .error _ => []

/-- Adds a listener of an action for all players; there is no id if the action is not declared. -/
def listen (h : Host σ L) (a : ActionId) (listener : L) : Option ListenerId × Host σ L :=
  match h.actions.position? a with
  | none => (none, h)
  | some i =>
    match h.shared[i]? with
    | none => (none, h)
    | some list => (some list.nextId, { h with shared := h.shared.set i (list.add listener) })

/-- Removes a listener for all players, and says whether it was there. -/
def unlisten (h : Host σ L) (a : ActionId) (id : ListenerId) : Bool × Host σ L :=
  match h.actions.position? a with
  | none => (false, h)
  | some i =>
    match h.shared[i]? with
    | none => (false, h)
    | some list => (list.contains id, { h with shared := h.shared.set i (list.remove id) })

/-- Polls one more slot. -/
def sweepSlot [Pad σ] (settings : Settings) (signals : SignalSet) (sweep : Sweep σ) (slot : Nat) :
    Sweep σ :=
  let poll := Poll.run settings signals slot sweep.pad
  { pad := poll.pad
    snapshots := sweep.snapshots ++ [poll.snapshot]
    notices := sweep.notices ++ poll.notices }

/-- Polls the first `slots` slots in order. -/
def sweep [Pad σ] (settings : Settings) (signals : SignalSet) (slots : Nat) (pad : σ) : Sweep σ :=
  (List.range slots).foldl (sweepSlot settings signals) ⟨pad, [], []⟩

/-- What the start of a tick tells. -/
def beginNotices (tick : Nat) : Except Fault Unit → List Notice
  | .ok () => []
  | .error fault => [.tickFault tick fault]

/-- What a tick with changes tells. -/
def changeNotices (report : TickReport) : List Notice :=
  if 0 < report.changes then [.tickChanges report.tick report.changes report.calls] else []

/-- What a tick with these totals tells, if a summary is due. -/
def summaryNotices (due : Bool) (totals : TickTotals) : List Notice :=
  if due then [.summary totals] else []

/-- Whether a summary is due. -/
def summaryDue (settings : Settings) (totals : TickTotals) : Bool :=
  settings.statsInterval != 0 && decide (settings.statsInterval ≤ totals.ticks)

/-- The sum of a number over several players' parts of a tick. -/
def total (count : Pass L → Nat) (passes : List (Pass L)) : Nat :=
  passes.foldr (fun pass n => count pass + n) 0

/-- The end of a tick: what the players' parts of it come to. -/
def conclude (h : Host σ L) (begun : Except Fault Unit) (sweep : Sweep σ)
    (passes : List (Pass L)) : Tick σ L :=
  let tick := h.tick + 1
  let report : TickReport := ⟨tick, total (·.changes) passes, total (·.calls) passes⟩
  let totals := h.totals.add (total (·.evaluated) passes) report.changes report.calls
  let due := summaryDue h.settings totals
  { host :=
      { h with
        pad := sweep.pad
        players := passes.map (·.player)
        totals := if due then .zero else totals
        tick }
    report
    events :=
      (beginNotices tick begun ++ sweep.notices).map .notice ++ passes.flatMap (·.events) ++
        (changeNotices report ++ summaryNotices due totals).map .notice }

/-- One tick. -/
def update [Pad σ] (h : Host σ L) : Tick σ L :=
  let (begun, pad) := Pad.beginTick h.pad
  let sweep := sweep h.settings h.signals h.players.length pad
  h.conclude begun sweep
    (h.players.zipWith (fun p readings => p.update readings h.shared) sweep.snapshots)

/-- The host with its pad changed from outside. -/
def modifyPad (h : Host σ L) (f : σ → σ) : Host σ L := { h with pad := f h.pad }

end Host

end InputMap
