import InputMap.Proofs.Host.Answers
import InputMap.Proofs.Host.WellFormed
import InputMap.Proofs.Player.Values

/-!
# Actions do not interfere

Two sessions are compared on one action of one slot.  They may run on different pads, with other
players, other listeners and other bindings around the action, and do different things between
their ticks.  If at each tick the action has the same expression and the same input in both, its
stored value is the same in both after each tick.

Only a tick changes stored values.  So a session is cut into its ticks, with the host as it stands
at the start of each of them, and the ticks of both sessions are run side by side.

## Key results

- `Host.Changed.state?_eq`: no operation but a tick changes a stored value
- `Host.SameInput.state?_update`: one tick in both sessions
- `Host.exists_of_tickStarts`: a session goes on from each of its ticks
-/

namespace InputMap.Host

variable {σ τ L M : Type} {slot : Nat} {a : ActionId}

/-! ## One action of a host -/

/-- The stored value of an action of the player of a slot. -/
def state? (h : Host σ L) (slot : Nat) (a : ActionId) : Option Value :=
  (h.player? slot).bind (·.state? a)

/-- The binding of an action of the player of a slot. -/
def binding? (h : Host σ L) (slot : Nat) (a : ActionId) : Option Binding :=
  (h.player? slot).bind (·.table.binding? a)

/-- No operation but a tick changes a stored value. -/
theorem Changed.state?_eq {h h' : Host σ L} (hchanged : h.Changed h') (slot : Nat) (a : ActionId) :
    h'.state? slot a = h.state? slot a := by
  cases hchanged with
  | refl => rfl
  | @player changed p q hp hq =>
    -- the player in question is the changed one, or not touched at all
    by_cases heq : changed = slot
    · subst heq
      have hlt : changed < h.players.length := (List.getElem?_eq_some_iff.1 hp).1
      have hq' : (h.setPlayer changed q).player? changed = some q := List.getElem?_set_self hlt
      rw [state?, state?, hq', hp]
      exact hq.state?_eq a
    · have hother : (h.setPlayer changed q).player? slot = h.player? slot :=
        List.getElem?_set_ne heq
      rw [state?, state?, hother]
  | shared _ => rfl
  | pad f => rfl

section

variable {h : Host σ L} {b : Binding}

/-- The action of a binding has a stored value. -/
theorem WellFormed.exists_state? (h₀ : h.WellFormed) (hb : h.binding? slot a = some b) :
    ∃ v, h.state? slot a = some v := by
  obtain ⟨p, hp, hbinding⟩ := Option.bind_eq_some_iff.1 hb
  obtain ⟨v, hv⟩ := (h₀.owns slot p hp).wellFormed.exists_state? hbinding
  exact ⟨v, Option.bind_eq_some_iff.2 ⟨p, hp, hv⟩⟩

/-- A binding fits its action, and reads signals of the host only. -/
theorem WellFormed.fits_binding (h₀ : h.WellFormed) (hb : h.binding? slot a = some b) :
    b.Fits a h.signals := by
  obtain ⟨p, hp, hbinding⟩ := Option.bind_eq_some_iff.1 hb
  have howns := h₀.owns slot p hp
  have hfits := howns.wellFormed.table.fits a b hbinding
  rwa [howns.wellFormed.signals_eq, howns.signals_eq] at hfits

/-- A tick stores the next value of each action, on the readings of its slot. -/
theorem WellFormed.state?_update [Pad σ] (h₀ : h.WellFormed) (hb : h.binding? slot a = some b)
    {v : Value} (hv : h.state? slot a = some v) :
    ∃ r, h.readings[slot]? = some r ∧ h.update.host.state? slot a = some (b.next r v) := by
  obtain ⟨p, hp, hbinding⟩ := Option.bind_eq_some_iff.1 hb
  obtain ⟨p', hp', hstate⟩ := Option.bind_eq_some_iff.1 hv
  cases hp.symm.trans hp'
  obtain ⟨r, hr⟩ := exists_readings hp
  have hafter : h.update.host.player? slot = some (p.update r h.shared).player :=
    getElem?_players_update.2 ⟨p, r, hp, hr, rfl⟩
  refine ⟨r, hr, ?_⟩
  rw [Host.state?, hafter, Option.bind_some]
  exact (h₀.owns slot p hp).wellFormed.state?_update_of hbinding hstate

end

/-! ## One tick in two hosts -/

section

variable [Pad σ] [SteadyPad σ] [Pad τ] [SteadyPad τ] {x : Host σ L} {y : Host τ M}

/-- Two hosts in which an action is bound to the same expression, and in which the answers for the
    signals that it reads come to the same once they are cleaned. -/
def SameInput (slot : Nat) (a : ActionId) (x : Host σ L) (y : Host τ M) : Prop :=
  ∃ b c, x.binding? slot a = some b ∧ y.binding? slot a = some c ∧ b.expr = c.expr ∧
    ∀ s ∈ b.expr.signals,
      cleanAnswer x.settings.limit s (SteadyPad.answer x.pad slot s) =
        cleanAnswer y.settings.limit s (SteadyPad.answer y.pad slot s)

/-- Two hosts that do not differ in the stored value of an action that both of them have. -/
def SameState (slot : Nat) (a : ActionId) (x : Host σ L) (y : Host τ M) : Prop :=
  ∀ v w, x.state? slot a = some v → y.state? slot a = some w → v = w

/-- What a steady pad answers for a signal of a binding is what a tick reads of it. -/
theorem WellFormed.get_eq (h₀ : x.WellFormed) {b : Binding} (hb : x.binding? slot a = some b)
    {r : Snapshot} (hr : x.readings[slot]? = some r) {s : Signal} (hs : s ∈ b.expr.signals) :
    r.get s = cleanAnswer x.settings.limit s (SteadyPad.answer x.pad slot s) := by
  have hknown : s ∈ x.signals := (h₀.fits_binding hb).hasCategory.mem_of_mem_signals hs
  rw [get_of_getElem?_readings hr hknown, answer_eq]

/-- One tick in two hosts with the same input and the same stored value. -/
theorem SameInput.state?_update (hx : x.WellFormed) (hy : y.WellFormed)
    (hinput : SameInput slot a x y) (hstate : SameState slot a x y) :
    ∃ v, x.update.host.state? slot a = some v ∧ y.update.host.state? slot a = some v := by
  obtain ⟨b, c, hb, hc, hexpr, hanswers⟩ := hinput
  obtain ⟨v, hv⟩ := hx.exists_state? hb
  obtain ⟨w, hw⟩ := hy.exists_state? hc
  cases hstate v w hv hw
  -- the two bindings have the category of the action, so that they are the same
  have hcategory : b.category = c.category :=
    (hx.fits_binding hb).category_eq.trans (hy.fits_binding hc).category_eq.symm
  have hsame : b = c := by
    cases b
    cases c
    cases hexpr
    cases hcategory
    rfl
  subst hsame
  obtain ⟨r, hr, hxnext⟩ := hx.state?_update hb hv
  obtain ⟨r', hr', hynext⟩ := hy.state?_update hc hw
  have hreadings : ∀ s ∈ b.expr.signals, r.get s = r'.get s := by
    intro s hs
    rw [hx.get_eq hb hr hs, hy.get_eq hc hr' hs, hanswers s hs]
  exact ⟨b.next r v, hxnext, by rw [hynext, Binding.next_congr hreadings]⟩

end

/-! ## Sessions -/

section

variable [Pad σ]

/-- The hosts at the start of each tick of a session. -/
def tickStarts (h : Host σ L) : List (Operation σ L) → List (Host σ L)
  | [] => []
  | operation :: session =>
    let later := (h.perform operation).host.tickStarts session
    if operation.isUpdate then h :: later else later

/-- The stored value of an action after each tick of a session. -/
def valuesAfter (h : Host σ L) (session : List (Operation σ L)) (slot : Nat) (a : ActionId) :
    List (Option Value) :=
  (h.tickStarts session).map fun start => start.update.host.state? slot a

/-- The first tick of a session finds the stored values as they were at the beginning, and the
    session goes on from there. -/
theorem exists_of_tickStarts {h start : Host σ L} {session : List (Operation σ L)}
    {rest : List (Host σ L)} (h₀ : h.WellFormed)
    (hsession : ∀ operation ∈ session, operation.Admissible)
    (hstarts : h.tickStarts session = start :: rest) :
    start.WellFormed ∧ (∀ slot a, start.state? slot a = h.state? slot a) ∧
      ∃ later, (∀ operation ∈ later, operation.Admissible) ∧
        start.update.host.tickStarts later = rest := by
  -- on the session; the operations before the first tick leave the stored values
  induction session generalizing h with
  | nil => exact nomatch hstarts
  | cons operation session ih =>
    have hfirst : operation.Admissible := hsession operation List.mem_cons_self
    have hlater : ∀ later ∈ session, later.Admissible := fun later hmem =>
      hsession later (List.mem_cons_of_mem _ hmem)
    rw [tickStarts] at hstarts
    rcases h.perform_cases hfirst with rfl | ⟨hother, hchanged⟩
    · have htick : (Operation.update : Operation σ L).isUpdate = true := rfl
      rw [if_pos htick, List.cons.injEq] at hstarts
      obtain ⟨rfl, hrest⟩ := hstarts
      exact ⟨h₀, fun _ _ => rfl, session, hlater, hrest⟩
    · rw [hother, if_neg Bool.false_ne_true] at hstarts
      obtain ⟨hstart, hstate, hrest⟩ := ih (h₀.changed hchanged) hlater hstarts
      exact ⟨hstart, fun slot a => (hstate slot a).trans (hchanged.state?_eq slot a), hrest⟩

variable [SteadyPad σ] [Pad τ] [SteadyPad τ]

/-- Two sessions that start with the same stored value and have the same input at each tick. -/
theorem SameState.valuesAfter_eq {x : Host σ L} {y : Host τ M} {first : List (Operation σ L)}
    {second : List (Operation τ M)} (hx : x.WellFormed) (hy : y.WellFormed)
    (hfirst : ∀ operation ∈ first, operation.Admissible)
    (hsecond : ∀ operation ∈ second, operation.Admissible) (hstate : SameState slot a x y)
    (hinput : List.Forall₂ (SameInput slot a) (x.tickStarts first) (y.tickStarts second)) :
    x.valuesAfter first slot a = y.valuesAfter second slot a ∧
      none ∉ x.valuesAfter first slot a := by
  unfold valuesAfter
  generalize hxs : x.tickStarts first = xs at hinput
  generalize hys : y.tickStarts second = ys at hinput
  -- on the ticks; each of them leaves the same stored value in both sessions
  induction hinput generalizing x y first second with
  | nil => exact ⟨rfl, List.not_mem_nil⟩
  | @cons start start' rest rest' hsame _ ih =>
    obtain ⟨hstart, hkept, later, hlater, hrest⟩ := exists_of_tickStarts hx hfirst hxs
    obtain ⟨hstart', hkept', later', hlater', hrest'⟩ := exists_of_tickStarts hy hsecond hys
    -- between the ticks the sessions may do what they like
    have hbefore : SameState slot a start start' := by
      intro v w hv hw
      rw [hkept] at hv
      rw [hkept'] at hw
      exact hstate v w hv hw
    obtain ⟨v, hv, hv'⟩ := hsame.state?_update hstart hstart' hbefore
    have hafter : SameState slot a start.update.host start'.update.host := by
      intro w w' hw hw'
      rw [hv, Option.some.injEq] at hw
      rw [hv', Option.some.injEq] at hw'
      exact hw.symm.trans hw'
    obtain ⟨hequal, hsome⟩ :=
      ih hstart.update hstart'.update hlater hlater' hafter hrest hrest'
    rw [List.map_cons, List.map_cons, hv, hv', hequal]
    refine ⟨rfl, fun hmem => ?_⟩
    rcases List.mem_cons.1 hmem with heq | hmem
    · exact nomatch heq
    · exact hsome (hequal ▸ hmem)

end

/-- Every action of a fresh host is at rest. -/
theorem eq_neutral_of_create [Pad σ] {actions : ActionSet} {pad : σ} {settings : Settings}
    {v : Value} (hv : (create actions pad settings : Host σ L).state? slot a = some v) :
    v = a.category.neutral := by
  obtain ⟨p, hp, hstate⟩ := Option.bind_eq_some_iff.1 hv
  rw [player?, create, List.getElem?_map, Option.map_eq_some_iff] at hp
  obtain ⟨place, -, rfl⟩ := hp
  exact Player.eq_neutral_of_create hstate

/-- Two sessions on two steady pads, seen at one action of one slot.  If at each tick the action is
    bound to the same expression in both, and the cleaned answers for the signals of that expression
    are the same, then the action has the same stored value in both after each tick.  Nothing else
    matters: the other bindings of the player, the other slots and how many there are, the rest of
    the pads and what happens at the start of a tick, the settings, or any listeners. -/
theorem valuesAfter_eq_of_sameInput [Pad σ] [SteadyPad σ] [Pad τ] [SteadyPad τ]
    (actions actions' : ActionSet) (pad : σ) (pad' : τ) (settings settings' : Settings)
    {session : List (Operation σ L)} {session' : List (Operation τ M)}
    (hsession : ∀ operation ∈ session, operation.Admissible)
    (hsession' : ∀ operation ∈ session', operation.Admissible) (slot : Nat) (a : ActionId)
    (hinput : List.Forall₂ (SameInput slot a) ((create actions pad settings).tickStarts session)
      ((create actions' pad' settings').tickStarts session')) :
    (create actions pad settings).valuesAfter session slot a =
        (create actions' pad' settings').valuesAfter session' slot a ∧
      none ∉ (create actions pad settings).valuesAfter session slot a := by
  have hstate : SameState slot a (create actions pad settings : Host σ L)
      (create actions' pad' settings' : Host τ M) := by
    intro v w hv hw
    rw [eq_neutral_of_create hv, eq_neutral_of_create hw]
  exact hstate.valuesAfter_eq (wellFormed_create _ _ _) (wellFormed_create _ _ _) hsession hsession'
    hinput

/-- An action that adds a trigger to its stored value.  It is alone in one session; in the other one
    there are another slot, another action, listeners, and a pad with faults for the other slot and
    at the start of a tick. -/
theorem valuesAfter_eq_of_trigger :
    let rise : ActionId := ⟨.analog1, 0, 0⟩
    let sum := Expr.add .previous (.input (.trigger .left))
    let half : Float32 := 0.5
    let alone : List (Operation SimulatedPad String) :=
      [.bind 0 rise sum, .modifyPad (·.set 0 (.trigger .left) half), .update, .update]
    let crowded : List (Operation (FaultyPad SimulatedPad) Unit) :=
      [.modifyPad (·.modify (·.set 0 (.trigger .left) half)), .listen none rise (),
        .modifyPad (·.setTickFault (some (.readFailed "busy"))), .bindPlayer 0 rise sum, .update,
        .modifyPad (·.setReadFault 1 (.trigger .left) (some (.disconnected 1))),
        .bind 1 rise (.input (.trigger .left)),
        .bind 0 ⟨.digital, 0, 0⟩ (.input (.button .faceDown)),
        .update]
    let h := create ⟨0, [], ["rise"], []⟩ (.create 1 .all) .default
    let h' := create ⟨0, ["jump"], ["rise"], []⟩ (.of (.create 2 .all))
      { Settings.default with statsInterval := 1 }
    (∀ operation ∈ alone, operation.Admissible) ∧ (∀ operation ∈ crowded, operation.Admissible) ∧
      List.Forall₂ (SameInput 0 rise) (h.tickStarts alone) (h'.tickStarts crowded) ∧
      h.valuesAfter alone 0 rise = h'.valuesAfter crowded 0 rise ∧
      h.valuesAfter alone 0 rise = [some (.scalar 0.5), some (.scalar 1.0)] := by
  intro rise sum half alone crowded h h'
  have halone : ∀ operation ∈ alone, operation.Admissible := by simp [alone, Operation.Admissible]
  have hcrowded : ∀ operation ∈ crowded, operation.Admissible := by
    simp [crowded, Operation.Admissible]
  -- what each tick of the two sessions starts from
  have hfirst : ∀ x ∈ h.tickStarts alone, x.binding? 0 rise = some ⟨sum, .analog1⟩ ∧
      cleanAnswer x.settings.limit (.trigger .left) (SteadyPad.answer x.pad 0 (.trigger .left)) =
        .scalar half := by
    decide +kernel
  have hsecond : ∀ y ∈ h'.tickStarts crowded, y.binding? 0 rise = some ⟨sum, .analog1⟩ ∧
      cleanAnswer y.settings.limit (.trigger .left) (SteadyPad.answer y.pad 0 (.trigger .left)) =
        .scalar half := by
    decide +kernel
  have hlength : (h.tickStarts alone).length = (h'.tickStarts crowded).length := by decide +kernel
  have hinput : List.Forall₂ (SameInput 0 rise) (h.tickStarts alone) (h'.tickStarts crowded) := by
    refine List.forall₂_iff_zip.2 ⟨hlength, fun {x y} hmem => ?_⟩
    obtain ⟨hx, hy⟩ := List.of_mem_zip hmem
    obtain ⟨hb, hanswer⟩ := hfirst x hx
    obtain ⟨hc, hanswer'⟩ := hsecond y hy
    refine ⟨_, _, hb, hc, rfl, fun s hs => ?_⟩
    cases List.mem_singleton.1 hs
    rw [hanswer, hanswer']
  exact ⟨halone, hcrowded, hinput,
    (valuesAfter_eq_of_sameInput _ _ _ _ _ _ halone hcrowded 0 rise hinput).1, by decide +kernel⟩

end InputMap.Host
