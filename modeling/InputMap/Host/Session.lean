import InputMap.Host

/-! # Sessions

Everything that can be done with a host is an `Operation`; `Host.perform` does one and says what
came of it.  A session is a list of operations, and `Host.run` performs them one after the other.
A statement about whatever may happen to a host is one about `Host.Reachable`.

* `Host.run_append`       a session can be cut in two
* `Host.Reachable.run`    a session stays among the reachable hosts -/

namespace InputMap

/-- Something that can be done with a host. -/
inductive Operation (σ L : Type) where
  /-- Runs one tick. -/
  | update
  | bind (slot : Nat) (a : ActionId) (e : Expr)
  | configure (slot : Nat) (t : BindingTable)
  | applyProfile (slot : Nat) (profile : Profile)
  /-- Binds one action through the player itself. -/
  | bindPlayer (slot : Nat) (a : ActionId) (e : Expr)
  /-- Puts in a whole table through the player itself. -/
  | configurePlayer (slot : Nat) (t : BindingTable)
  /-- Adds a listener for the player of a slot, or for all players. -/
  | listen (slot? : Option Nat) (a : ActionId) (listener : L)
  /-- Removes a listener of the player of a slot, or one for all players. -/
  | unlisten (slot? : Option Nat) (a : ActionId) (id : ListenerId)
  /-- Changes the pad from outside. -/
  | modifyPad (f : σ → σ)

/-- Whether an operation can be asked for: a whole table must be one that changes of tables lead
    to. -/
def Operation.Admissible {σ L : Type} : Operation σ L → Prop
  | .configure _ t => t.Reachable
  | .configurePlayer _ t => t.Reachable
  | _ => True

/-- What an operation answers. -/
inductive Outcome where
  | ticked (report : TickReport)
  | changed (result : Except HostError Unit)
  /-- The answer of a player; there is none without the player. -/
  | playerChanged (result? : Option (Except BindError Unit))
  | listening (id? : Option ListenerId)
  /-- Whether a listener was removed; there is no answer without the player. -/
  | removed (was? : Option Bool)
  | padModified

/-- A host after an operation, with the operation's answer and what it did. -/
structure Performed (σ L : Type) where
  host : Host σ L
  outcome : Outcome
  events : List (Event L)

namespace Host

variable {σ L : Type}

/-- A change of a host as an operation. -/
def changed (notices : List Notice) (done : Except HostError Unit × Host σ L) : Performed σ L :=
  ⟨done.2, .changed done.1, notices.map .notice⟩

/-- A change of the player of a slot as an operation; nothing is done without the player. -/
def changePlayer (h : Host σ L) (slot : Nat) (notices : Player L → List Notice)
    (f : Player L → Except BindError Unit × Player L) : Performed σ L :=
  match h.player? slot with
  | none => ⟨h, .playerChanged none, []⟩
  | some p =>
    let (answer, changed) := f p
    ⟨h.setPlayer slot changed, .playerChanged (some answer), (notices p).map .notice⟩

/-- Does one operation. -/
def perform [Pad σ] (h : Host σ L) : Operation σ L → Performed σ L
  | .update =>
    let tick := h.update
    ⟨tick.host, .ticked tick.report, tick.events⟩
  | .bind slot a e => changed (h.bindNotices slot a e) (h.bind slot a e)
  | .configure slot t => changed (h.configureNotices slot t) (h.configure slot t)
  | .applyProfile slot profile =>
    changed (h.applyProfileNotices slot profile) (h.applyProfile slot profile)
  | .bindPlayer slot a e => h.changePlayer slot (·.table.bindNotices a e) (·.bind a e)
  | .configurePlayer slot t => h.changePlayer slot (·.setTableNotices t) (·.setTable t)
  | .listen (some slot) a listener =>
    match h.player? slot with
    | none => ⟨h, .listening none, []⟩
    | some p =>
      let (id?, changed) := p.listen a listener
      ⟨h.setPlayer slot changed, .listening id?, []⟩
  | .listen none a listener =>
    let (id?, changed) := h.listen a listener
    ⟨changed, .listening id?, []⟩
  | .unlisten (some slot) a id =>
    match h.player? slot with
    | none => ⟨h, .removed none, []⟩
    | some p =>
      let (was, changed) := p.unlisten a id
      ⟨h.setPlayer slot changed, .removed (some was), []⟩
  | .unlisten none a id =>
    let (was, changed) := h.unlisten a id
    ⟨changed, .removed (some was), []⟩
  | .modifyPad f => ⟨h.modifyPad f, .padModified, []⟩

/-- The host after a session. -/
def run [Pad σ] (h : Host σ L) (session : List (Operation σ L)) : Host σ L :=
  session.foldl (fun host operation => (host.perform operation).host) h

/-- A host that operations can lead to from a fresh one. -/
inductive Reachable [Pad σ] : Host σ L → Prop where
  | create (actions : ActionSet) (pad : σ) (settings : Settings) :
    Reachable (create actions pad settings)
  | perform {h : Host σ L} {operation : Operation σ L} :
    Reachable h → operation.Admissible → Reachable (h.perform operation).host

@[simp] theorem run_nil [Pad σ] (h : Host σ L) : h.run [] = h := rfl

@[simp] theorem run_cons [Pad σ] (h : Host σ L) (operation : Operation σ L)
    (session : List (Operation σ L)) :
    h.run (operation :: session) = (h.perform operation).host.run session := rfl

theorem run_append [Pad σ] (h : Host σ L) (first second : List (Operation σ L)) :
    h.run (first ++ second) = (h.run first).run second :=
  List.foldl_append

/-- A session of admissible operations stays among the reachable hosts. -/
theorem Reachable.run [Pad σ] {h : Host σ L} (hreach : h.Reachable) {session : List (Operation σ L)}
    (hsession : ∀ operation ∈ session, operation.Admissible) : (h.run session).Reachable := by
  induction session generalizing h with
  | nil => exact hreach
  | cons operation session ih =>
    have hfirst : operation.Admissible := hsession operation List.mem_cons_self
    exact ih (hreach.perform hfirst) fun later hlater =>
      hsession later (List.mem_cons_of_mem _ hlater)

end Host

end InputMap
