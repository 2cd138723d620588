import InputMap.Proofs.Host.Listeners

/-!
# Hosts with other pads

Only a tick calls the pad of a host, and only a change from outside replaces it.  No other operation
looks at the pad: with another one in its place, even one of another kind, it does the same to the
rest of the host, gives the same answer and tells the same.

## Key results

- `Host.perform_withPad`: what does not concern the pad is the same with any pad
- `Host.pad_perform_of_not_concernsPad`: it leaves the pad
-/

namespace InputMap

variable {σ τ L : Type}

/-- The host with another pad. -/
def Host.withPad (h : Host σ L) (pad : τ) : Host τ L where
  pad
  actions := h.actions
  signals := h.signals
  settings := h.settings
  players := h.players
  shared := h.shared
  totals := h.totals
  tick := h.tick

/-- What an operation comes to, with another pad in the host. -/
def Performed.withPad (performed : Performed σ L) (pad : τ) : Performed τ L :=
  ⟨performed.host.withPad pad, performed.outcome, performed.events⟩

namespace Operation

/-- The same operation on hosts with other pads, where `f` says what becomes of a change of the pad
    from outside. -/
def retype (f : (σ → σ) → τ → τ) : Operation σ L → Operation τ L
  | update => update
  | bind slot a e => bind slot a e
  | configure slot t => configure slot t
  | applyProfile slot profile => applyProfile slot profile
  | bindPlayer slot a e => bindPlayer slot a e
  | configurePlayer slot t => configurePlayer slot t
  | listen slot? a listener => listen slot? a listener
  | unlisten slot? a id => unlisten slot? a id
  | modifyPad g => modifyPad (f g)

/-- Whether an operation concerns the pad: a tick does, and so does a change from outside. -/
def concernsPad : Operation σ L → Bool
  | update | modifyPad _ => true
  | _ => false

/-- An operation whose change of the pad is kept is the same operation. -/
theorem retype_self (operation : Operation σ L) : operation.retype id = operation := by
  cases operation <;> rfl

end Operation

namespace Host

variable (h : Host σ L) (pad : τ)

@[simp] theorem player?_withPad (slot : Nat) : (h.withPad pad).player? slot = h.player? slot := rfl

@[simp] theorem neutralTable_withPad : (h.withPad pad).neutralTable = h.neutralTable := rfl

@[simp] theorem actions_withPad : (h.withPad pad).actions = h.actions := rfl

@[simp] theorem shared_withPad : (h.withPad pad).shared = h.shared := rfl

/-- The answer, and what is left of a host whose pad has been exchanged. -/
theorem modifyPlayer_withPad (slot : Nat) (f : Player L → Except BindError Unit × Player L) :
    (h.withPad pad).modifyPlayer slot f = (h.modifyPlayer slot f).map id (·.withPad pad) := by
  cases hp : h.player? slot with
  | none => rw [modifyPlayer_of_none hp, modifyPlayer_of_none (h := h.withPad pad) hp]; rfl
  | some p => rw [modifyPlayer_of_some hp, modifyPlayer_of_some (h := h.withPad pad) hp]; rfl

/-- Binding does not look at the pad. -/
theorem bind_withPad (slot : Nat) (a : ActionId) (e : Expr) :
    (h.withPad pad).bind slot a e = (h.bind slot a e).map id (·.withPad pad) :=
  h.modifyPlayer_withPad pad slot (·.bind a e)

/-- Nor does putting in a table. -/
theorem configure_withPad (slot : Nat) (t : BindingTable) :
    (h.withPad pad).configure slot t = (h.configure slot t).map id (·.withPad pad) :=
  h.modifyPlayer_withPad pad slot (·.setTable t)

/-- A profile is applied to the signals that the pad had, which the host remembers. -/
theorem applyProfile_withPad (slot : Nat) (profile : Profile) :
    (h.withPad pad).applyProfile slot profile =
      (h.applyProfile slot profile).map id (·.withPad pad) := by
  cases happly : profile.apply h.neutralTable with
  | error error =>
    rw [applyProfile_of_error happly, applyProfile_of_error (h := h.withPad pad) happly]
    rfl
  | ok t =>
    rw [applyProfile_of_ok happly, applyProfile_of_ok (h := h.withPad pad) happly]
    exact h.configure_withPad pad slot t

/-- The pad is not mentioned when a profile is applied. -/
theorem applyProfileNotices_withPad (slot : Nat) (profile : Profile) :
    (h.withPad pad).applyProfileNotices slot profile = h.applyProfileNotices slot profile := by
  unfold applyProfileNotices
  rw [neutralTable_withPad]
  cases profile.apply h.neutralTable with
  | error error => rfl
  | ok t =>
    dsimp only
    rw [configure_withPad]
    rfl

/-- A player does not know the pad at all. -/
theorem changePlayer_withPad (slot : Nat) (notices : Player L → List Notice)
    (f : Player L → Except BindError Unit × Player L) :
    (h.withPad pad).changePlayer slot notices f =
      (h.changePlayer slot notices f).withPad pad := by
  cases hp : h.player? slot with
  | none => rw [changePlayer_of_none hp, changePlayer_of_none (h := h.withPad pad) hp]; rfl
  | some p => rw [changePlayer_of_some hp, changePlayer_of_some (h := h.withPad pad) hp]; rfl

/-- The lists of listeners are apart from the pad. -/
theorem editShared_withPad {α : Type} (a : ActionId) (answer : ListenerList L → α)
    (f : ListenerList L → ListenerList L) (absent : α) :
    (h.withPad pad).editShared a answer f absent =
      ((h.editShared a answer f absent).1, (h.editShared a answer f absent).2.withPad pad) := by
  unfold editShared
  rw [actions_withPad, shared_withPad]
  cases h.actions.position? a with
  | none => rfl
  | some i =>
    dsimp only
    cases h.shared[i]? <;> rfl

/-- What does not concern the pad is the same with any pad, and leaves the pad. -/
theorem perform_withPad [Pad σ] [Pad τ] {operation : Operation σ L}
    (hother : operation.concernsPad = false) (f : (σ → σ) → τ → τ) :
    (h.withPad pad).perform (operation.retype f) = (h.perform operation).withPad pad := by
  cases operation with
  | update => cases hother
  | modifyPad g => cases hother
  -- in each case the pad is exchanged in the result instead of in the host
  | bind slot a e =>
    show changed (h.bindNotices slot a e) ((h.withPad pad).bind slot a e) = _
    rw [bind_withPad]
    rfl
  | configure slot t =>
    show changed (h.configureNotices slot t) ((h.withPad pad).configure slot t) = _
    rw [configure_withPad]
    rfl
  | applyProfile slot profile =>
    show changed ((h.withPad pad).applyProfileNotices slot profile)
      ((h.withPad pad).applyProfile slot profile) = _
    rw [applyProfileNotices_withPad, applyProfile_withPad]
    rfl
  | bindPlayer slot a e =>
    exact h.changePlayer_withPad pad slot (·.table.bindNotices a e) (·.bind a e)
  | configurePlayer slot t =>
    exact h.changePlayer_withPad pad slot (·.setTableNotices t) (·.setTable t)
  | listen slot? a listener =>
    cases slot? with
    | none =>
      show (⟨((h.withPad pad).listen a listener).2,
        .listening ((h.withPad pad).listen a listener).1, []⟩ : Performed τ L) = _
      rw [listen_eq, editShared_withPad]
      rfl
    | some slot =>
      -- the slot is looked up, which does not ask the pad
      unfold perform Operation.retype
      dsimp only
      rw [player?_withPad]
      cases h.player? slot <;> rfl
  | unlisten slot? a id =>
    cases slot? with
    | none =>
      show (⟨((h.withPad pad).unlisten a id).2,
        .removed (some ((h.withPad pad).unlisten a id).1), []⟩ : Performed τ L) = _
      rw [unlisten_eq, editShared_withPad]
      rfl
    | some slot =>
      unfold perform Operation.retype
      dsimp only
      rw [player?_withPad]
      cases h.player? slot <;> rfl

/-- Nothing but a tick and a change from outside changes the pad. -/
theorem pad_perform_of_not_concernsPad [Pad σ] {operation : Operation σ L}
    (hother : operation.concernsPad = false) (h : Host σ L) :
    (h.perform operation).host.pad = h.pad := by
  -- putting the pad that is there already in its place shows that the operation leaves it
  have hself := h.perform_withPad h.pad hother id
  rw [Operation.retype_self] at hself
  exact congrArg (·.host.pad) hself

end Host

end InputMap
