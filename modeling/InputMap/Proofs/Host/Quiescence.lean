import InputMap.Demo
import InputMap.Proofs.Host.Answers
import InputMap.Proofs.Host.Trace
import InputMap.Proofs.Player.Values

/-!
# Quiescence

If the pad answers the same in two ticks one after the other, the second tick has nothing to do:
every binding comes to what is stored already.  That holds as long as the bindings use their
previous value only to hold it.  A binding that counts, say, may change at every tick.

## Key results

- `Profile.holds_of_apply`: a profile whose expressions hold their previous value leads to such
  bindings
- `Host.WellFormed.passes_update`: the passes of the second tick
-/

namespace InputMap

variable {σ L : Type}

/-! ## Which tables hold -/

/-- Each binding of a table belongs to an action. -/
theorem BindingTable.WellFormed.exists_action {t : BindingTable} {b : Binding} (h : t.WellFormed)
    (hb : b ∈ t.bindings) : ∃ a ∈ t.actions.order, t.binding? a = some b := by
  obtain ⟨i, hi⟩ := List.getElem?_of_mem hb
  have hlt : i < t.actions.order.length := by
    rw [ActionSet.length_order, ← h.length_bindings]
    exact (List.getElem?_eq_some_iff.1 hi).1
  have horder : t.actions.order[i]? = some t.actions.order[i] := List.getElem?_eq_getElem hlt
  exact ⟨_, List.getElem_mem hlt, binding?_eq_some_iff.2 ⟨i, ActionSet.getElem?_order.1 horder, hi⟩⟩

namespace Profile

variable {profile : Profile} {t u : BindingTable}

/-- If all expressions of a profile hold, so do the bindings of a table that it is applied to, since
    actions at rest hold as well. -/
theorem holds_of_apply (hprofile : ∀ entry ∈ profile.bindings, entry.expr.Holds)
    (hu : profile.apply t = .ok u) : ∀ b ∈ u.bindings, b.expr.Holds := by
  intro b hb
  obtain ⟨-, -, hfills⟩ := fills_of_apply hu
  obtain ⟨a, ha, hbinding⟩ := (wellFormed_of_apply hu).exists_action hb
  by_cases hnamed : ∃ entry ∈ profile.bindings,
      u.actions.find? entry.category entry.action = some a
  · obtain ⟨entry, hentry, hfind⟩ := hnamed
    obtain ⟨a', hfind', hlisted⟩ := hfills.listed entry hentry
    cases hfind.symm.trans hfind'
    cases hbinding.symm.trans hlisted
    exact hprofile entry hentry
  · -- what is not named is at rest, and a constant does not look at the previous value
    have hrest := hfills.unlisted a ha fun entry hentry hfind => hnamed ⟨entry, hentry, hfind⟩
    cases hbinding.symm.trans hrest
    exact .fresh rfl

/-- The demo's own profile holds the last direction of the directional pad. -/
theorem holds_defaultProfile : ∀ entry ∈ Demo.defaultProfile.bindings, entry.expr.Holds := by
  intro entry hentry
  rcases List.mem_cons.1 hentry with rfl | hentry
  · exact .fresh rfl
  · cases List.mem_singleton.1 hentry
    exact .join (.fresh rfl) (.branch rfl (.fresh rfl) .held)

end Profile

/-! ## The second tick -/

namespace Host

variable [Pad σ] {h : Host σ L}

/-- The passes of a tick that gets the same answers as the one before: nobody has anything to do. -/
theorem WellFormed.passes_update (h₀ : h.WellFormed)
    (hbindings : ∀ p ∈ h.players, ∀ b ∈ p.table.bindings, b.expr.Holds)
    (hsame : ∀ slot < h.players.length, ∀ s ∈ h.signals,
      h.update.host.answer slot s = h.answer slot s)
    {slot : Nat} {pass : Pass L} (hpass : h.update.host.passes[slot]? = some pass) :
    h.update.host.players[slot]? = some pass.player ∧ pass.changes = 0 ∧ pass.calls = 0 := by
  have hreadings : h.update.host.readings = h.readings :=
    readings_congr rfl rfl (length_players_update h) hsame
  obtain ⟨q, r, hq, hr, rfl⟩ := getElem?_passes.1 hpass
  -- the player is what the first tick has made of one that was there before it
  obtain ⟨p, r', hp, hr', rfl⟩ := getElem?_players_update.1 hq
  rw [hreadings, hr', Option.some.injEq] at hr
  subst hr
  have hplayer : p.WellFormed := (h₀.owns slot p hp).wellFormed
  have hfits : r'.Fits := fits_of_mem_readings (List.mem_of_getElem? hr')
  obtain ⟨hkept, hchanges, hcalls⟩ :=
    hplayer.update_update hfits (hbindings p (List.mem_of_getElem? hp)) h.update.host.shared
  exact ⟨by rw [hkept, hq], hchanges, hcalls⟩

/-- If nothing is counted in any pass, the total is zero. -/
theorem total_eq_zero {count : Pass L → Nat} {passes : List (Pass L)}
    (hcount : ∀ pass ∈ passes, count pass = 0) : total count passes = 0 := by
  induction passes with
  | nil => rfl
  | cons pass rest ih =>
    have hfirst : count pass = 0 := hcount pass List.mem_cons_self
    have hrest : total count rest = 0 := ih fun later hlater =>
      hcount later (List.mem_cons_of_mem _ hlater)
    show count pass + total count rest = 0
    omega

/-- Two ticks with nothing in between, on the same answers, of a host whose bindings use their
    previous value only to hold it.  The second tick reports no change and no call, calls nobody,
    and leaves every player as it is.  The condition on the bindings admits all expressions without
    `previous`, and each table that the demo's own profile leads to. -/
theorem Reachable.quiet_update (hreach : h.Reachable)
    (hbindings : ∀ p ∈ h.players, ∀ b ∈ p.table.bindings, b.expr.Holds)
    (hsame : ∀ slot < h.players.length, ∀ s ∈ h.signals,
      h.update.host.answer slot s = h.answer slot s) :
    let first := h.update
    let second := first.host.update
    (second.report.changes = 0 ∧ second.report.calls = 0 ∧
      second.events.filterMap Event.call? = [] ∧ second.host.players = first.host.players) ∧
    (∀ e : Expr, e.readsPrevious = false → e.Holds) ∧
    ∀ t u, Demo.defaultProfile.apply t = .ok u → ∀ b ∈ u.bindings, b.expr.Holds := by
  intro first second
  have h₀ : h.WellFormed := hreach.wellFormed
  have hpasses : ∀ pass ∈ first.host.passes, pass.changes = 0 ∧ pass.calls = 0 := by
    intro pass hpass
    obtain ⟨slot, hslot⟩ := List.getElem?_of_mem hpass
    exact (h₀.passes_update hbindings hsame hslot).2
  have hchanges : second.report.changes = 0 :=
    total_eq_zero fun pass hpass => (hpasses pass hpass).1
  have hcalls : second.report.calls = 0 :=
    total_eq_zero fun pass hpass => (hpasses pass hpass).2
  have hnone : second.events.filterMap Event.call? = [] := by
    rw [h₀.update.report_calls] at hcalls
    exact List.length_eq_zero_iff.1 hcalls
  -- slot by slot: the pass of a player ends with the player that it has begun with
  have hplayers : second.host.players = first.host.players := by
    refine List.ext_getElem? fun slot => ?_
    rw [players_update, List.getElem?_map]
    cases hpass : first.host.passes[slot]? with
    | none =>
      rw [List.getElem?_eq_none_iff, length_passes] at hpass
      rw [Option.map_none, List.getElem?_eq_none hpass]
    | some pass => rw [Option.map_some, (h₀.passes_update hbindings hsame hpass).1]
  exact ⟨⟨hchanges, hcalls, hnone, hplayers⟩, fun e he => .fresh he,
    fun t u => Profile.holds_of_apply Profile.holds_defaultProfile⟩

/-- A pair of a sum that overflows and of a trigger's last reading while a button was down.  The
    button is up, and the trigger reads something that is no number. -/
theorem quiet_update_of_overflow :
    let aim : ActionId := ⟨.analog2, 0, 0⟩
    let sum := Expr.add (.constant (.scalar largest)) (.constant (.scalar largest))
    let held :=
      Expr.branch (.input (.button .faceDown)) (.input (.trigger .left)) (.split .previous .y)
    let session : List (Operation SimulatedPad String) :=
      [.bind 0 aim (.join sum held), .modifyPad (·.set 0 (.button .faceDown) true),
        .modifyPad (·.set 0 (.trigger .left) (0.5 : Float32)), .update,
        .modifyPad (·.set 0 (.button .faceDown) false),
        .modifyPad (·.set 0 (.trigger .left) (0.0 / 0.0 : Float32))]
    let h := (create ⟨0, [], [], ["aim"]⟩ (.create 1 .all) .default).run session
    h.Reachable ∧ (∀ p ∈ h.players, ∀ b ∈ p.table.bindings, b.expr.Holds) ∧
      (∀ slot < h.players.length, ∀ s ∈ h.signals,
        h.update.host.answer slot s = h.answer slot s) ∧
      h.update.host.update.report.changes = 0 ∧
      h.update.host.players.map (·.state? aim) = [some (.vec2 largest 0.5)] := by
  intro aim sum held session h
  have hreach : h.Reachable :=
    (Reachable.create _ _ _).run (by simp [session, Operation.Admissible])
  -- the sum is infinite and cut to the largest number, the second part keeps its last value
  have hheld : (Expr.join sum held).Holds := .join (.fresh rfl) (.branch rfl (.fresh rfl) .held)
  have htables : h.players.map (·.table.bindings) = [[⟨.join sum held, .analog2⟩]] := by rfl
  have hbindings : ∀ p ∈ h.players, ∀ b ∈ p.table.bindings, b.expr.Holds := by
    intro p hp b hb
    have htable : p.table.bindings ∈ h.players.map (·.table.bindings) := List.mem_map_of_mem hp
    rw [htables, List.mem_singleton] at htable
    rw [htable, List.mem_singleton] at hb
    exact hb ▸ hheld
  have hsame : ∀ slot < h.players.length, ∀ s ∈ h.signals,
      h.update.host.answer slot s = h.answer slot s := fun slot _ s _ => answer_update h slot s
  exact ⟨hreach, hbindings, hsame, (hreach.quiet_update hbindings hsame).1.1, by decide +kernel⟩

end Host

end InputMap
