import InputMap.Pad.Simulated
import InputMap.Proofs.BindingTable.Rechecking
import InputMap.Proofs.Host.WellFormed

/-!
# Tables that were made for other signals

A table may be given to a player whose pad has other signals than the ones that the table was made
for.  It is moved then, and whether this can be done is what a check of all its bindings with the
signals of the player would say.

## Key results

- `BindingTable.WellFormed.exists_rebase`: which tables can be moved
- `BindingTable.WellFormed.of_rebase_eq_error`: why a table cannot be moved
- `BindingTable.WellFormed.setTable_eq`: a player takes a table whose bindings it could check
-/

namespace InputMap

variable {σ L : Type} {t u : BindingTable} {signals : SignalSet}

namespace BindingTable

/-- A table can be moved if the binding of every action passes the check again. -/
theorem WellFormed.exists_rebase (h : t.WellFormed) (signals : SignalSet) :
    (∃ u, t.rebase signals = (.ok (), u)) ↔
      ∀ a ∈ t.actions.order, ∃ b c, t.binding? a = some b ∧
        Binding.check (t.actions.describe a) a.category b.expr signals = .ok c := by
  have hrecheck : (∃ u, t.rebase signals = (.ok (), u)) ↔
      ∃ bindings, t.recheck signals = .ok bindings := by
    simp only [h.rebase_eq, settled_eq_ok]
    exact ⟨fun ⟨_, bindings, hbindings, _⟩ => ⟨bindings, hbindings⟩,
      fun ⟨bindings, hbindings⟩ => ⟨_, bindings, hbindings, rfl⟩⟩
  rw [hrecheck, recheck, Except.exists_mapM_eq_ok]
  -- checking the entries is checking the bindings of all actions
  constructor
  · intro hall a ha
    obtain ⟨b, hb⟩ := h.exists_binding? ha
    obtain ⟨c, hc⟩ := hall (a, b) (mem_entries_iff.2 hb)
    exact ⟨b, c, hb, hc⟩
  · rintro hall ⟨a, b⟩ hentry
    have hb := mem_entries_iff.1 hentry
    obtain ⟨b', c, hb', hc⟩ := hall a (ActionSet.mem_order_iff.2 (contains_of_binding? hb))
    cases hb.symm.trans hb'
    exact ⟨c, hc⟩

/-- If a table cannot be moved, the error is that of the first binding that does not pass the check
    again, and names the first signal that is missing; and the table stays as it is. -/
theorem WellFormed.of_rebase_eq_error (h : t.WellFormed) {error : BindError}
    (herror : t.rebase signals = (.error error, u)) :
    (∃ s front a b back, error = .unknownSignal s ∧ t.entries = front ++ (a, b) :: back ∧
      (∀ entry ∈ front, ∃ c, t.recheckEntry signals entry = .ok c) ∧
      t.recheckEntry signals (a, b) = .error error ∧
      (b.expr.signals.find? fun s => decide (s ∉ signals)) = some s) ∧ u = t := by
  rw [h.rebase_eq, settled_eq_error] at herror
  obtain ⟨herror, hu⟩ := herror
  refine ⟨?_, hu⟩
  obtain ⟨front, ⟨a, b⟩, back, hentries, hfront, hentry⟩ := Except.mapM_eq_error.1 herror
  have hb : t.binding? a = some b := mem_entries_iff.1 (by rw [hentries]; simp)
  -- the check of a binding that fits can only miss a signal
  have hrequire : requireSignals signals b.expr.signals = .error error := by
    have hcheck := hentry
    rw [recheckEntry, (h.fits a b hb).check_eq_require, Except.bind_eq_error] at hcheck
    rcases hcheck with hcheck | ⟨_, _, hcheck⟩
    · exact hcheck
    · exact nomatch hcheck
  obtain ⟨s, hs, rfl⟩ := requireSignals_eq_error.1 hrequire
  exact ⟨s, front, a, b, back, rfl, hentries, hfront, hentry, hs⟩

/-- A player takes a table for its own actions if all bindings pass the check with its signals. -/
theorem WellFormed.setTable_eq (h : t.WellFormed) {p : Player L}
    (hactions : t.actions = p.actions) :
    p.setTable t = settled p (t.recheck p.signals) fun bindings =>
      { p with table := { t with signals := p.signals, bindings } } := by
  by_cases hsignals : t.signals = p.signals
  · -- the bindings have passed the check with these signals already
    rw [Player.setTable_of_signals_eq hactions hsignals, ← hsignals, h.recheck_self]
    rfl
  · rw [Player.setTable_of_signals_ne hactions hsignals, h.rebase_eq]
    cases t.recheck p.signals <;> rfl

/-- A host gives such a table to one of its players, and answers what the player does. -/
theorem WellFormed.configure_eq (ht : t.WellFormed) {h : Host σ L} {slot : Nat} {p : Player L}
    (hp : h.player? slot = some p) (hactions : t.actions = p.actions) :
    h.configure slot t = settled h ((t.recheck p.signals).mapError .bind) fun bindings =>
      h.setPlayer slot { p with table := { t with signals := p.signals, bindings } } := by
  rw [Host.configure, Host.modifyPlayer_of_some hp, ht.setTable_eq hactions]
  cases t.recheck p.signals with
  | ok bindings => rfl
  | error error => exact Prod.ext rfl (Host.setPlayer_self hp)

/-- Moving a table is checking its bindings again.  It is refused exactly if one of them does not
    pass, with the error that the first of these gives, and that is always a signal that is missing;
    if it takes place, the table has its own bindings and the new signals, and if it is refused, the
    table is the old one.  So it is with a player, and with a host, that is given a table for its
    actions, whatever signals it was made for: they take it or stay as they are. -/
theorem Reachable.rebase_recheck (hreach : t.Reachable) (signals : SignalSet) :
    t.rebase signals =
      settled t (t.recheck signals) (fun bindings => { t with signals, bindings }) ∧
    ((∃ u, t.rebase signals = (.ok (), u)) ↔
      ∀ a ∈ t.actions.order, ∃ b c, t.binding? a = some b ∧
        Binding.check (t.actions.describe a) a.category b.expr signals = .ok c) ∧
    (∀ u, t.rebase signals = (.ok (), u) → u = { t with signals }) ∧
    (∀ error u, t.rebase signals = (.error error, u) →
      (∃ s front a b back, error = .unknownSignal s ∧ t.entries = front ++ (a, b) :: back ∧
        (∀ entry ∈ front, ∃ c, t.recheckEntry signals entry = .ok c) ∧
        t.recheckEntry signals (a, b) = .error error ∧
        (b.expr.signals.find? fun s => decide (s ∉ signals)) = some s) ∧ u = t) ∧
    (∀ p : Player L, t.actions = p.actions →
      p.setTable t = settled p (t.recheck p.signals) fun bindings =>
        { p with table := { t with signals := p.signals, bindings } }) ∧
    ∀ (h : Host σ L) slot p, h.player? slot = some p → t.actions = p.actions →
      h.configure slot t = settled h ((t.recheck p.signals).mapError .bind) fun bindings =>
        h.setPlayer slot { p with table := { t with signals := p.signals, bindings } } := by
  have hwf : t.WellFormed := hreach.wellFormed
  exact ⟨hwf.rebase_eq signals, hwf.exists_rebase signals, fun u hu => (rebase_eq_ok.1 hu).2,
    fun _ _ => hwf.of_rebase_eq_error, fun _ => hwf.setTable_eq, fun _ _ _ => hwf.configure_eq⟩

/-- A jump that is made with one of two buttons, as a third one says.  A pad that has all of them
    but not the triggers is enough.  On a pad that has neither of the two, the one that is met first
    is missed, though the third one, which the pad has, stands in front of it. -/
theorem rebase_recheck_of_branch :
    let actions : ActionSet := ⟨0, ["jump"], [], ["aim"]⟩
    let jump : Binding :=
      ⟨.branch (.input (.button .start)) (.input (.button .faceDown)) (.input (.button .faceUp)),
        .digital⟩
    let aim : Binding := ⟨.input (.stick .left), .analog2⟩
    let t : BindingTable := ⟨actions, .all, [jump, aim]⟩
    let enough : SignalSet :=
      .ofList [.stick .left, .button .faceUp, .button .faceDown, .button .start]
    let few : SignalSet := .ofList [.button .start]
    let host (signals : SignalSet) : Host SimulatedPad String :=
      .create actions (.create 1 signals) .default
    t.Reachable ∧ t.rebase enough = (.ok (), { t with signals := enough }) ∧
      t.rebase few = (.error (.unknownSignal (.button .faceDown)), t) ∧
      (∃ h, (host enough).configure 0 t = (.ok (), h) ∧
        h.players.map (·.table) = [{ t with signals := enough }]) ∧
      (host few).configure 0 t =
        (.error (.bind (.unknownSignal (.button .faceDown))), host few) := by
  intro actions jump aim t enough few host
  have hreach : t.Reachable := .bind ⟨.analog2, 0, 0⟩ aim.expr
    (.bind ⟨.digital, 0, 0⟩ jump.expr (.neutral actions .all))
  -- what is checked again is all that decides
  have henough : t.recheck enough = .ok [jump, aim] := rfl
  have hfew : t.recheck few = .error (.unknownSignal (.button .faceDown)) := rfl
  obtain ⟨hmoved, -, -, -, -, hhost⟩ :=
    @Reachable.rebase_recheck SimulatedPad String t hreach enough
  obtain ⟨hrefused, -⟩ := @Reachable.rebase_recheck SimulatedPad String t hreach few
  rw [henough] at hmoved
  rw [hfew] at hrefused
  have hconfigure := hhost (host enough) 0 (.create 0 (.neutral actions enough)) rfl rfl
  have hconfigure' := hhost (host few) 0 (.create 0 (.neutral actions few)) rfl rfl
  exact ⟨hreach, hmoved, hrefused, ⟨_, hconfigure, rfl⟩, hconfigure'⟩

end BindingTable

end InputMap
