import InputMap.Proofs.Host.Operation

/-!
# Hosts that agree up to `==`

Two hosts agree if they are the same but for stored values, and those are `==`.  Nothing but a tick
looks at a stored value, so any other operation does the same to both and gives the same answer.

## Key results

- `Host.Agrees.state?_rel`: the players of hosts that agree have `==` states
- `Host.Agrees.perform`: an operation other than a tick
-/

namespace InputMap

variable {σ L : Type}

/-! ## What it is to agree -/

/-- The same listeners, and values that are `==`. -/
structure Cell.Agrees (c d : Cell L) : Prop where
  value : (c.value == d.value) = true
  listeners : c.listeners = d.listeners

/-- The same player but for stored values, which are `==`. -/
structure Player.Agrees (p q : Player L) : Prop where
  slot : p.slot = q.slot
  actions : p.actions = q.actions
  signals : p.signals = q.signals
  table : p.table = q.table
  cells : List.Forall₂ Cell.Agrees p.cells q.cells

/-- A call of the same listener for the same action, with values that are `==`. -/
structure Call.Agrees (c d : Call L) : Prop where
  listener : c.listener = d.listener
  action : c.action = d.action
  value : (c.value == d.value) = true
  player : c.player.Agrees d.player

/-- The same event but for values, which are `==`. -/
inductive Event.Agrees : Event L → Event L → Prop
  | notice (n : Notice) : Agrees (.notice n) (.notice n)
  | changed (slot : Nat) (action : String) {v v' w w' : Value} (hv : (v == v') = true)
    (hw : (w == w') = true) :
    Agrees (.notice (.changed slot action v w)) (.notice (.changed slot action v' w'))
  | call {c d : Call L} (h : c.Agrees d) : Agrees (.call c) (.call d)

/-- The same host but for the stored values of its players, which are `==`. -/
structure Host.Agrees (h k : Host σ L) : Prop where
  pad : h.pad = k.pad
  actions : h.actions = k.actions
  signals : h.signals = k.signals
  settings : h.settings = k.settings
  shared : h.shared = k.shared
  totals : h.totals = k.totals
  tick : h.tick = k.tick
  players : List.Forall₂ Player.Agrees h.players k.players

/-- The same answer, and hosts and events that agree. -/
structure Performed.Agrees (x y : Performed σ L) : Prop where
  host : x.host.Agrees y.host
  outcome : x.outcome = y.outcome
  events : List.Forall₂ Event.Agrees x.events y.events

/-- Notices that are the same agree. -/
theorem Event.agrees_notices (notices : List Notice) :
    List.Forall₂ Agrees (notices.map (Event.notice (L := L))) (notices.map .notice) := by
  induction notices with
  | nil => exact .nil
  | cons n rest ih => exact .cons (.notice n) ih

/-! ## Players -/

namespace Player

variable {p q : Player L} {i : Nat}

/-- Players that agree have cells for the same actions. -/
theorem Agrees.cell?_rel (h : p.Agrees q) (a : ActionId) :
    Option.Rel Cell.Agrees (p.cell? a) (q.cell? a) := by
  unfold cell?
  rw [← h.actions]
  cases p.actions.position? a with
  | none => exact .none
  | some i => exact h.cells.getElem? i

/-- Players that agree have `==` states. -/
theorem Agrees.state?_rel (h : p.Agrees q) (a : ActionId) :
    Option.Rel (fun v w => (v == w) = true) (p.state? a) (q.state? a) := by
  unfold state?
  obtain ⟨hc, hd⟩ | ⟨c, d, hc, hd, hcd⟩ := (h.cell?_rel a).none_or_some
  · rw [hc, hd]
    exact .none
  · rw [hc, hd]
    exact .some hcd.value

/-- They go on agreeing if both change a cell in the same way. -/
theorem Agrees.modifyCell {f g : Cell L → Cell L} (h : p.Agrees q)
    (hfg : ∀ c d, p.cells[i]? = some c → c.Agrees d → (f c).Agrees (g d)) :
    (p.modifyCell i f).Agrees (q.modifyCell i g) :=
  ⟨h.slot, h.actions, h.signals, h.table, h.cells.modify hfg⟩

/-- Changing the listeners of a cell on both sides. -/
theorem Agrees.modifyListeners (h : p.Agrees q) (f : ListenerList L → ListenerList L) :
    (p.modifyCell i fun c => { c with listeners := f c.listeners }).Agrees
      (q.modifyCell i fun c => { c with listeners := f c.listeners }) :=
  h.modifyCell fun _ _ _ hcd => ⟨hcd.value, congrArg f hcd.listeners⟩

/-- A change of the listeners of one action, with an answer; `absent` is the answer if the action is
    not declared. -/
def editListeners {α : Type} (p : Player L) (a : ActionId) (answer : ListenerList L → α)
    (f : ListenerList L → ListenerList L) (absent : α) : α × Player L :=
  match p.actions.position? a, p.cell? a with
  | some i, some cell =>
    (answer cell.listeners, p.modifyCell i fun c => { c with listeners := f c.listeners })
  | _, _ => (absent, p)

theorem listen_eq (p : Player L) (a : ActionId) (listener : L) :
    p.listen a listener = p.editListeners a (some ·.nextId) (·.add listener) none := rfl

theorem unlisten_eq (p : Player L) (a : ActionId) (id : ListenerId) :
    p.unlisten a id = p.editListeners a (·.contains id) (·.remove id) false := rfl

/-- A change of listeners has the same answer on both sides, as the lists are the same. -/
theorem Agrees.editListeners {α : Type} (h : p.Agrees q) (a : ActionId)
    (answer : ListenerList L → α) (f : ListenerList L → ListenerList L) (absent : α) :
    (p.editListeners a answer f absent).1 = (q.editListeners a answer f absent).1 ∧
      (p.editListeners a answer f absent).2.Agrees (q.editListeners a answer f absent).2 := by
  unfold Player.editListeners
  rw [← h.actions]
  cases p.actions.position? a with
  | none => exact ⟨rfl, h⟩
  | some i =>
    -- the cells may differ in their values, but their listeners are the same
    obtain ⟨hc, hd⟩ | ⟨c, d, hc, hd, hcd⟩ := (h.cell?_rel a).none_or_some
    · rw [hc, hd]
      exact ⟨rfl, h⟩
    · rw [hc, hd]
      exact ⟨congrArg answer hcd.listeners, h.modifyListeners f⟩

/-- A change that looks at a player's table only, and changes nothing else. -/
def ChangesTable (f : Player L → Except BindError Unit × Player L) : Prop :=
  ∃ g : ActionSet → SignalSet → BindingTable → Except BindError Unit × BindingTable,
    ∀ p, f p = ((g p.actions p.signals p.table).1,
      { p with table := (g p.actions p.signals p.table).2 })

/-- Binding does nothing to a player but what it does to its table. -/
theorem changesTable_bind (a : ActionId) (e : Expr) :
    ChangesTable fun p : Player L => p.bind a e :=
  ⟨fun _ _ table => table.bind a e, fun _ => rfl⟩

/-- Putting in a table depends on the actions and the signals of the player, but not on its
    cells. -/
theorem changesTable_setTable (t : BindingTable) :
    ChangesTable fun p : Player L => p.setTable t := by
  -- the table that results does not depend on what the player has stored
  refine ⟨fun actions signals table => if t.actions = actions then
    if t.signals = signals then (.ok (), t)
    else settled table (t.rebase signals).1 fun _ => (t.rebase signals).2
    else (.error .foreignActionSet, table), fun p => ?_⟩
  by_cases hactions : t.actions = p.actions
  · by_cases hsignals : t.signals = p.signals
    · simp only [setTable_of_signals_eq hactions hsignals, if_pos hactions, if_pos hsignals]
    · simp only [setTable_of_signals_ne hactions hsignals, if_pos hactions, if_neg hsignals]
      cases (t.rebase p.signals).1 <;> rfl
  · simp only [setTable_of_actions_ne hactions, if_neg hactions]

/-- Both players answer the same, and go on agreeing. -/
theorem ChangesTable.agrees {f : Player L → Except BindError Unit × Player L} (hf : ChangesTable f)
    (h : p.Agrees q) : (f p).1 = (f q).1 ∧ (f p).2.Agrees (f q).2 := by
  obtain ⟨g, hg⟩ := hf
  -- both changes look at the same table
  rw [hg, hg, ← h.actions, ← h.signals, ← h.table]
  exact ⟨rfl, h.slot, rfl, rfl, rfl, h.cells⟩

/-- Both players tell the same about a table. -/
theorem Agrees.setTableNotices_eq (h : p.Agrees q) (t : BindingTable) :
    p.setTableNotices t = q.setTableNotices t := by
  unfold setTableNotices
  rw [← h.actions, ← h.signals, ← h.slot, ((changesTable_setTable t).agrees h).1]

end Player

/-! ## Operations other than a tick -/

namespace Host

variable {h k : Host σ L} {p q : Player L} {slot : Nat}

/-- Hosts that agree have players in the same slots. -/
theorem Agrees.player?_rel (hk : h.Agrees k) (slot : Nat) :
    Option.Rel Player.Agrees (h.player? slot) (k.player? slot) :=
  hk.players.getElem? slot

/-- The players of hosts that agree have `==` states. -/
theorem Agrees.state?_rel (hk : h.Agrees k) (hp : h.player? slot = some p)
    (hq : k.player? slot = some q) (a : ActionId) :
    Option.Rel (fun v w => (v == w) = true) (p.state? a) (q.state? a) := by
  have hplayer := hk.player?_rel slot
  rw [hp, hq] at hplayer
  cases hplayer with
  | some hpq => exact hpq.state?_rel a

/-- They go on agreeing if both get players that agree. -/
theorem Agrees.setPlayer (hk : h.Agrees k) (hpq : p.Agrees q) (slot : Nat) :
    (h.setPlayer slot p).Agrees (k.setPlayer slot q) :=
  { hk with players := hk.players.set hpq slot }

/-- What both hosts do through a player, with the answers that they give. -/
theorem Agrees.modifyPlayer {f : Player L → Except BindError Unit × Player L} (hk : h.Agrees k)
    (hf : Player.ChangesTable f) :
    (h.modifyPlayer slot f).1 = (k.modifyPlayer slot f).1 ∧
      (h.modifyPlayer slot f).2.Agrees (k.modifyPlayer slot f).2 := by
  obtain ⟨hp, hq⟩ | ⟨p, q, hp, hq, hpq⟩ := (hk.player?_rel slot).none_or_some
  · rw [modifyPlayer_of_none hp, modifyPlayer_of_none hq]
    exact ⟨rfl, hk⟩
  · obtain ⟨hanswer, hchanged⟩ := hf.agrees hpq
    rw [modifyPlayer_of_some hp, modifyPlayer_of_some hq, hanswer]
    exact ⟨rfl, hk.setPlayer hchanged slot⟩

/-- Changes with the same answers and hosts that agree are operations that agree. -/
theorem Agrees.changed {x y : Except HostError Unit × Host σ L}
    (hxy : x.1 = y.1 ∧ x.2.Agrees y.2) (notices : List Notice) :
    (Host.changed notices x).Agrees (Host.changed notices y) :=
  ⟨hxy.2, congrArg Outcome.changed hxy.1, Event.agrees_notices notices⟩

/-- The same, if the operation is one of the player itself. -/
theorem Agrees.changePlayer {f : Player L → Except BindError Unit × Player L}
    {notices : Player L → List Notice} (hk : h.Agrees k) (hf : Player.ChangesTable f)
    (hnotices : ∀ p q : Player L, p.Agrees q → notices p = notices q) :
    (h.changePlayer slot notices f).Agrees (k.changePlayer slot notices f) := by
  obtain ⟨hp, hq⟩ | ⟨p, q, hp, hq, hpq⟩ := (hk.player?_rel slot).none_or_some
  · rw [changePlayer_of_none hp, changePlayer_of_none hq]
    exact ⟨hk, rfl, .nil⟩
  · obtain ⟨hanswer, hchanged⟩ := hf.agrees hpq
    rw [changePlayer_of_some hp, changePlayer_of_some hq, hanswer, hnotices p q hpq]
    exact ⟨hk.setPlayer hchanged slot, rfl, Event.agrees_notices _⟩

/-! ### What the operations tell -/

/-- What is told about a binding depends on the table, and this is the same. -/
theorem Agrees.bindNotices_eq (hk : h.Agrees k) (slot : Nat) (a : ActionId) (e : Expr) :
    h.bindNotices slot a e = k.bindNotices slot a e := by
  unfold bindNotices
  obtain ⟨hp, hq⟩ | ⟨p, q, hp, hq, hpq⟩ := (hk.player?_rel slot).none_or_some
  · rw [hp, hq]
  · simp only [hp, hq, hpq.table]

theorem Agrees.configureNotices_eq (hk : h.Agrees k) (slot : Nat) (t : BindingTable) :
    h.configureNotices slot t = k.configureNotices slot t := by
  unfold configureNotices
  obtain ⟨hp, hq⟩ | ⟨p, q, hp, hq, hpq⟩ := (hk.player?_rel slot).none_or_some
  · rw [hp, hq]
  · rw [hp, hq]
    exact hpq.setTableNotices_eq t

/-- Putting a table into one of the players. -/
theorem Agrees.configure (hk : h.Agrees k) (slot : Nat) (t : BindingTable) :
    (h.configure slot t).1 = (k.configure slot t).1 ∧
      (h.configure slot t).2.Agrees (k.configure slot t).2 :=
  hk.modifyPlayer (Player.changesTable_setTable t)

theorem Agrees.neutralTable_eq (hk : h.Agrees k) : h.neutralTable = k.neutralTable := by
  rw [neutralTable, neutralTable, hk.actions, hk.signals]

/-- A profile becomes the same table for both hosts, and then it is a matter of their players. -/
theorem Agrees.applyProfile (hk : h.Agrees k) (slot : Nat) (profile : Profile) :
    (h.applyProfile slot profile).1 = (k.applyProfile slot profile).1 ∧
      (h.applyProfile slot profile).2.Agrees (k.applyProfile slot profile).2 := by
  cases happly : profile.apply h.neutralTable with
  | error error =>
    rw [applyProfile_of_error happly, applyProfile_of_error (hk.neutralTable_eq ▸ happly)]
    exact ⟨rfl, hk⟩
  | ok t =>
    rw [applyProfile_of_ok happly, applyProfile_of_ok (hk.neutralTable_eq ▸ happly)]
    exact hk.configure slot t

/-- What is told about a profile depends on the actions, the signals and the answer of the
    player. -/
theorem Agrees.applyProfileNotices_eq (hk : h.Agrees k) (slot : Nat) (profile : Profile) :
    h.applyProfileNotices slot profile = k.applyProfileNotices slot profile := by
  unfold applyProfileNotices
  rw [← hk.neutralTable_eq]
  cases profile.apply h.neutralTable with
  | error error => rfl
  | ok t => simp only [hk.configureNotices_eq slot t, (hk.configure slot t).1]

/-! ### Listeners for all players -/

/-- The listeners for all players are the same, and so are the ids that come next. -/
theorem Agrees.listen (hk : h.Agrees k) (a : ActionId) (listener : L) :
    (h.listen a listener).1 = (k.listen a listener).1 ∧
      (h.listen a listener).2.Agrees (k.listen a listener).2 := by
  unfold Host.listen
  rw [← hk.actions, ← hk.shared]
  split
  · exact ⟨rfl, hk⟩
  · split
    · exact ⟨rfl, hk⟩
    · exact ⟨rfl, { hk with actions := rfl, shared := rfl }⟩

/-- Removing one of them has the same answer. -/
theorem Agrees.unlisten (hk : h.Agrees k) (a : ActionId) (id : ListenerId) :
    (h.unlisten a id).1 = (k.unlisten a id).1 ∧ (h.unlisten a id).2.Agrees (k.unlisten a id).2 := by
  unfold Host.unlisten
  rw [← hk.actions, ← hk.shared]
  split
  · exact ⟨rfl, hk⟩
  · split
    · exact ⟨rfl, hk⟩
    · exact ⟨rfl, { hk with actions := rfl, shared := rfl }⟩

/-- An operation other than a tick does the same to hosts that agree. -/
theorem Agrees.perform [Pad σ] {operation : Operation σ L} (hk : h.Agrees k)
    (hother : operation.isUpdate = false) :
    (h.perform operation).Agrees (k.perform operation) := by
  cases operation with
  | update => exact nomatch hother
  -- tables are the same on both sides, so that both accept or both refuse
  | bind slot a e =>
    simp only [Host.perform, hk.bindNotices_eq slot a e]
    exact Agrees.changed (hk.modifyPlayer (Player.changesTable_bind a e)) _
  | configure slot t =>
    simp only [Host.perform, hk.configureNotices_eq slot t]
    exact Agrees.changed (hk.configure slot t) _
  | applyProfile slot profile =>
    simp only [Host.perform, hk.applyProfileNotices_eq slot profile]
    exact Agrees.changed (hk.applyProfile slot profile) _
  | bindPlayer slot a e =>
    exact hk.changePlayer (Player.changesTable_bind a e) fun p q hpq => by rw [hpq.table]
  | configurePlayer slot t =>
    exact hk.changePlayer (Player.changesTable_setTable t) fun p q hpq => hpq.setTableNotices_eq t
  -- listeners are the same as well, and with them ids and answers
  | listen slot? a listener =>
    -- a slot that is missing is missing on both sides
    cases slot? with
    | none =>
      obtain ⟨hid, hchanged⟩ := hk.listen a listener
      exact ⟨hchanged, congrArg Outcome.listening hid, .nil⟩
    | some slot =>
      obtain ⟨hp, hq⟩ | ⟨p, q, hp, hq, hpq⟩ := (hk.player?_rel slot).none_or_some
      · simp only [Host.perform, hp, hq]
        exact ⟨hk, rfl, .nil⟩
      · simp only [Host.perform, Player.listen_eq, hp, hq]
        obtain ⟨hid, hchanged⟩ := hpq.editListeners a (some ·.nextId) (·.add listener) none
        exact ⟨hk.setPlayer hchanged slot, congrArg Outcome.listening hid, .nil⟩
  | unlisten slot? a id =>
    cases slot? with
    | none =>
      obtain ⟨hwas, hchanged⟩ := hk.unlisten a id
      exact ⟨hchanged, congrArg (Outcome.removed ∘ some) hwas, .nil⟩
    | some slot =>
      obtain ⟨hp, hq⟩ | ⟨p, q, hp, hq, hpq⟩ := (hk.player?_rel slot).none_or_some
      · simp only [Host.perform, hp, hq]
        exact ⟨hk, rfl, .nil⟩
      · simp only [Host.perform, Player.unlisten_eq, hp, hq]
        obtain ⟨hwas, hchanged⟩ := hpq.editListeners a (·.contains id) (·.remove id) false
        exact ⟨hk.setPlayer hchanged slot, congrArg (Outcome.removed ∘ some) hwas, .nil⟩
  | modifyPad f => exact ⟨{ hk with pad := congrArg f hk.pad }, rfl, .nil⟩

end Host

end InputMap
