import InputMap.Pad.Simulated
import InputMap.Proofs.Expr.Alike
import InputMap.Proofs.Host.Agreement

/-!
# Storing every value

A turn stores its value only if that differs from the stored one.  Since `==` takes the two zeros
for one, a stored zero may have another sign than the one just computed, and it is fed back into the
binding at the next tick.  Here is a second engine that stores every value.  The two are run side by
side: any session comes to the same with either, up to `==`.

## Key results

- `Pass.Agrees.turn`, `Player.Agrees.update`, `Host.Agrees.update`: a turn, a pass and a tick in the
  two engines
- `Host.Agrees.history`: a session in the two engines
-/

namespace InputMap

variable {σ L : Type}

/-! ## The second engine -/

namespace Player

/-- The turn of one action, with its value stored whether or not that is a change. -/
def turnOverwriting (readings : Snapshot) (shared : List (ListenerList L)) (pass : Pass L) :
    (ActionId × Binding) × Nat → Pass L
  | ((action, binding), i) =>
    match pass.player.cells[i]? with
    | none => pass
    | some cell =>
      { turn readings shared pass ((action, binding), i) with
        player := pass.player.store i (binding.evaluate readings cell.value) }

/-- The turns of all actions, with every value stored. -/
def updateOverwriting (p : Player L) (readings : Snapshot) (shared : List (ListenerList L)) :
    Pass L :=
  p.table.entries.zipIdx.foldl (turnOverwriting readings shared) ⟨p, 0, 0, 0, []⟩

end Player

namespace Host

variable [Pad σ]

/-- One tick, with every value stored. -/
def updateOverwriting (h : Host σ L) : Tick σ L :=
  let (begun, pad) := Pad.beginTick h.pad
  let sweep := sweep h.settings h.signals h.players.length pad
  h.conclude begun sweep
    (h.players.zipWith (fun p readings => p.updateOverwriting readings h.shared) sweep.snapshots)

/-- One operation, with every value of a tick stored. -/
def performOverwriting (h : Host σ L) (operation : Operation σ L) : Performed σ L :=
  if operation.isUpdate then
    let tick := h.updateOverwriting
    ⟨tick.host, .ticked tick.report, tick.events⟩
  else h.perform operation

/-- What the operations of a session come to, one after the other. -/
def history (perform : Host σ L → Operation σ L → Performed σ L) (h : Host σ L) :
    List (Operation σ L) → List (Performed σ L)
  | [] => []
  | operation :: session =>
    let performed := perform h operation
    performed :: history perform performed.host session

end Host

/-! ## One turn -/

/-- The same counts, and players and events that agree. -/
structure Pass.Agrees (x y : Pass L) : Prop where
  player : x.player.Agrees y.player
  evaluated : x.evaluated = y.evaluated
  changes : x.changes = y.changes
  calls : x.calls = y.calls
  events : List.Forall₂ Event.Agrees x.events y.events

namespace Player

variable {p q : Player L} {i : Nat} {c : Cell L} {v w : Value}

/-- Storing `==` values on both sides. -/
theorem Agrees.store (h : p.Agrees q) (hvw : (v == w) = true) :
    (p.store i v).Agrees (q.store i w) :=
  h.modifyCell fun _ _ _ hcd => ⟨hvw, hcd.listeners⟩

/-- Storing a value on one side that is `==` to the one on the other side. -/
theorem Agrees.store_right (h : p.Agrees q) (hc : p.cells[i]? = some c)
    (hcv : (c.value == v) = true) :
    p.Agrees (q.store i v) := by
  -- seen as a change on both sides, of which the left one does nothing
  have hsame : p.modifyCell i id = p := by rw [Player.modifyCell, List.modify_id]
  have hstored : (p.modifyCell i id).Agrees (q.store i v) := by
    refine h.modifyCell fun c' d hc' hcd => ?_
    cases hc.symm.trans hc'
    exact ⟨hcv, hcd.listeners⟩
  rwa [hsame] at hstored

end Player

/-- What is told of a value that is missing does not depend on which zero was stored. -/
theorem Player.valueNotices_eq {v w : Value} (hvw : v.Alike w) (b : Binding) (readings : Snapshot) :
    valueNotices b readings v = valueNotices b readings w := by
  have hrel := b.expr.evaluate?_alike (.refl readings) hvw
  unfold valueNotices
  obtain ⟨hx, hy⟩ | ⟨u, u', hx, hy, -⟩ := hrel.none_or_some
  · rw [hx, hy]
  · rw [hx, hy]

/-- The calls of the same listeners. -/
theorem Event.agrees_calls {p q : Player L} {v w : Value} (hpq : p.Agrees q) (hvw : (v == w) = true)
    (a : ActionId) (listeners : List L) :
    List.Forall₂ Event.Agrees (listeners.map fun listener => .call ⟨listener, a, v, p⟩)
      (listeners.map fun listener => .call ⟨listener, a, w, q⟩) := by
  induction listeners with
  | nil => exact .nil
  | cons listener rest ih => exact .cons (.call ⟨rfl, rfl, hvw, hpq⟩) ih

/-- One turn in the two engines.  The new values are `==`, and so are the stored ones.  Hence both
    see a change or neither does; if neither, the second engine stores a value that is `==` to the
    one that the first keeps. -/
theorem Pass.Agrees.turn {x y : Pass L} (h : x.Agrees y) (readings : Snapshot)
    (shared : List (ListenerList L)) (entry : (ActionId × Binding) × Nat) :
    (Player.turn readings shared x entry).Agrees
      (Player.turnOverwriting readings shared y entry) := by
  obtain ⟨⟨action, binding⟩, i⟩ := entry
  obtain ⟨hc, hd⟩ | ⟨c, d, hc, hd, hcd⟩ := (h.player.cells.getElem? i).none_or_some
  · -- no cell at this place in either player
    simp only [Player.turn, Player.turnOverwriting, hc, hd]
    exact h
  · have halike : c.value.Alike d.value := (Value.beq_iff.1 hcd.value).1
    have hvalue : (binding.evaluate readings c.value == binding.evaluate readings d.value) = true :=
      binding.evaluate_alike (.refl readings) halike
    -- one engine sees a change exactly if the other does
    have hchange : (binding.evaluate readings d.value == d.value) =
        (binding.evaluate readings c.value == c.value) := by
      rw [← BEq.congr_left hvalue, ← BEq.congr_right hcd.value]
    have hlisteners : Player.listenersAt c shared i = Player.listenersAt d shared i := by
      rw [Player.listenersAt, Player.listenersAt, hcd.listeners]
    have hnotices := Player.valueNotices_eq halike binding readings
    have hevaluated : List.Forall₂ Event.Agrees
        (x.events ++ (Player.valueNotices binding readings c.value).map .notice)
        (y.events ++ (Player.valueNotices binding readings d.value).map .notice) := by
      rw [hnotices]
      exact List.rel_append h.events (Event.agrees_notices _)
    simp only [Player.turn, Player.turnOverwriting, hc, hd, hchange]
    split
    · -- no change: the stored value is kept on the left, and replaced by an equal one on the right
      rename_i hsame
      have hkept : (c.value == binding.evaluate readings d.value) = true :=
        BEq.trans (BEq.symm hsame) hvalue
      exact ⟨h.player.store_right hc hkept, congrArg (· + 1) h.evaluated, h.changes, h.calls,
        hevaluated⟩
    · -- a change: the value is stored on both sides before the listeners are called
      have hstored := h.player.store (i := i) hvalue
      have hchanged : Event.Agrees (L := L)
          (.notice (.changed x.player.slot (x.player.actions.describe action) c.value
            (binding.evaluate readings c.value)))
          (.notice (.changed y.player.slot (y.player.actions.describe action) d.value
            (binding.evaluate readings d.value))) := by
        rw [h.player.slot, h.player.actions]
        exact .changed _ _ hcd.value hvalue
      refine ⟨hstored, congrArg (· + 1) h.evaluated, congrArg (· + 1) h.changes, ?_, ?_⟩
      · rw [h.calls, hlisteners]
      · rw [hlisteners]
        exact List.rel_append hevaluated
          (.cons hchanged (Event.agrees_calls hstored hvalue action _))

/-! ## A pass and a tick -/

/-- A tick of players that agree: all turns, one after the other. -/
theorem Player.Agrees.update {p q : Player L} (h : p.Agrees q) (readings : Snapshot)
    (shared : List (ListenerList L)) :
    (p.update readings shared).Agrees (q.updateOverwriting readings shared) := by
  unfold Player.update Player.updateOverwriting
  rw [h.table]
  exact List.foldl_rel ⟨h, rfl, rfl, rfl, .nil⟩ fun entry _ x y hxy =>
    hxy.turn readings shared entry

namespace Host

variable {h k : Host σ L}

/-- What passes that agree count adds up to the same. -/
theorem total_eq_of_agrees {count : Pass L → Nat} {xs ys : List (Pass L)}
    (hxs : List.Forall₂ Pass.Agrees xs ys)
    (hcount : ∀ x y : Pass L, x.Agrees y → count x = count y) :
    total count xs = total count ys := by
  induction hxs with
  | nil => rfl
  | cons hxy _ ih => exact congrArg₂ (· + ·) (hcount _ _ hxy) ih

/-- The end of a tick looks at numbers and notices only, and these are the same on both sides. -/
theorem Agrees.conclude {begun : Except Fault Unit} {sweep : Sweep σ} {xs ys : List (Pass L)}
    (hk : h.Agrees k) (hxs : List.Forall₂ Pass.Agrees xs ys) :
    (h.conclude begun sweep xs).host.Agrees (k.conclude begun sweep ys).host ∧
      (h.conclude begun sweep xs).report = (k.conclude begun sweep ys).report ∧
      List.Forall₂ Event.Agrees (h.conclude begun sweep xs).events
        (k.conclude begun sweep ys).events := by
  -- the report is made of sums over the passes, which agree pass by pass
  have hevaluated := total_eq_of_agrees hxs fun _ _ hxy => hxy.evaluated
  have hchanges := total_eq_of_agrees hxs fun _ _ hxy => hxy.changes
  have hcalls := total_eq_of_agrees hxs fun _ _ hxy => hxy.calls
  have hplayers : List.Forall₂ Player.Agrees (xs.map (·.player)) (ys.map (·.player)) := by
    rw [List.forall₂_map_left_iff, List.forall₂_map_right_iff]
    exact hxs.imp fun _ _ hxy => hxy.player
  have hevents : List.Forall₂ Event.Agrees (xs.flatMap (·.events)) (ys.flatMap (·.events)) :=
    List.rel_flatMap hxs fun _ _ hxy => hxy.events
  simp only [Host.conclude, hevaluated, hchanges, hcalls, hk.tick, hk.totals, hk.settings]
  refine ⟨⟨rfl, hk.actions, hk.signals, rfl, hk.shared, rfl, rfl, hplayers⟩, trivial, ?_⟩
  exact List.rel_append (List.rel_append (Event.agrees_notices _) hevents) (Event.agrees_notices _)

variable [Pad σ]

/-- One tick in the two engines. -/
theorem Agrees.update (hk : h.Agrees k) :
    (h.perform .update).Agrees (k.performOverwriting .update) := by
  have hlength : h.players.length = k.players.length := hk.players.length_eq
  have hpasses : ∀ snapshots : List Snapshot, List.Forall₂ Pass.Agrees
      (h.players.zipWith (fun p readings => p.update readings h.shared) snapshots)
      (k.players.zipWith (fun p readings => p.updateOverwriting readings h.shared) snapshots) :=
    hk.players.zipWith fun p q readings hpq => hpq.update readings h.shared
  simp only [Host.perform, Host.performOverwriting, Operation.isUpdate, if_true, Host.update,
    updateOverwriting, ← hk.pad, ← hk.settings, ← hk.signals, ← hk.shared, ← hlength]
  obtain ⟨hhost, hreport, hevents⟩ := hk.conclude (hpasses _)
  exact ⟨hhost, congrArg Outcome.ticked hreport, hevents⟩

/-! ## Sessions -/

/-- Any operation on hosts that agree, with the one overwriting at each tick and the other not. -/
theorem Agrees.performOverwriting (hk : h.Agrees k) (operation : Operation σ L) :
    (h.perform operation).Agrees (k.performOverwriting operation) := by
  cases hupdate : operation.isUpdate with
  | false =>
    rw [Host.performOverwriting, hupdate, if_neg Bool.false_ne_true]
    exact hk.perform hupdate
  | true =>
    cases operation with
    | update => exact hk.update
    | _ => exact nomatch hupdate

/-- So it goes on for a whole session, with everything that is told on the way. -/
theorem Agrees.history (hk : h.Agrees k) (session : List (Operation σ L)) :
    List.Forall₂ Performed.Agrees (Host.history Host.perform h session)
      (Host.history Host.performOverwriting k session) := by
  -- on the session; the hosts agree again after each operation
  induction session generalizing h k with
  | nil => exact .nil
  | cons operation session ih =>
    have hfirst := hk.performOverwriting operation
    exact .cons hfirst (ih hfirst.host)

/-- A new host agrees with itself, since the values at rest are numbers. -/
theorem agrees_create (actions : ActionSet) (pad : σ) (settings : Settings) :
    Agrees (create actions pad settings : Host σ L) (create actions pad settings) := by
  refine ⟨rfl, rfl, rfl, rfl, rfl, rfl, rfl, List.forall₂_same.2 fun p hp => ?_⟩
  obtain ⟨slot, -, rfl⟩ := List.mem_map.1 hp
  refine ⟨rfl, rfl, rfl, rfl, List.forall₂_same.2 fun cell hcell => ?_⟩
  obtain ⟨a, -, rfl⟩ := List.mem_map.1 hcell
  exact ⟨Value.beq_self_of_isFinite (Value.isFinite_neutral _), rfl⟩

/-- A session comes to the same with either engine, operation by operation: the same answers and
    reports, the same events up to `==` of their values, and states that are `==`.  This is so
    because no binding can tell `==` readings or stored values apart. -/
theorem overwriting_agrees (actions : ActionSet) (pad : σ) (settings : Settings)
    (session : List (Operation σ L)) :
    List.Forall₂ (fun x y => x.Agrees y ∧
        ∀ slot p q a, x.host.player? slot = some p → y.host.player? slot = some q →
          Option.Rel (fun v w => (v == w) = true) (p.state? a) (q.state? a))
      (history perform (create actions pad settings : Host σ L) session)
      (history performOverwriting (create actions pad settings) session) ∧
    ∀ (b : Binding) (r r' : Snapshot) (v v' : Value), (∀ s, (r.get s == r'.get s) = true) →
      (v == v') = true → (b.evaluate r v == b.evaluate r' v') = true := by
  constructor
  · have hhistory := (agrees_create (L := L) actions pad settings).history session
    exact hhistory.imp fun x y hxy => ⟨hxy, fun slot p q a hp hq => hxy.host.state?_rel hp hq a⟩
  · intro b r r' v v' hr hv
    exact b.evaluate_beq hr hv

/-- An action that is bound to a trigger times minus one, with the trigger at rest.  The new value
    is the negative zero: one engine keeps the positive one, and the other stores the new one. -/
theorem overwriting_agrees_of_trigger :
    let lift : ActionId := ⟨.analog1, 0, 0⟩
    let h : Host SimulatedPad String :=
      create ⟨0, [], ["lift"], []⟩ (.create 1 .all) .default
    let session : List (Operation SimulatedPad String) :=
      [.bind 0 lift (.multiply (.input (.trigger .left)) (.constant (.scalar (-1.0)))), .update]
    let kept := history perform h session
    let stored := history performOverwriting h session
    List.Forall₂ (fun x y => x.outcome = y.outcome) kept stored ∧
      (kept.flatMap (·.host.players.map (·.state? lift))).getLast? = some (some (.scalar 0.0)) ∧
      (stored.flatMap (·.host.players.map (·.state? lift))).getLast? =
        some (some (.scalar (-0.0))) :=
  ⟨(overwriting_agrees _ _ _ _).1.imp fun _ _ h => h.1.outcome, by rfl, by rfl⟩

end Host

end InputMap
