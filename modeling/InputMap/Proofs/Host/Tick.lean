import InputMap.Host
import InputMap.Proofs.Expr.Strict
import InputMap.Proofs.Player.Turns

/-!
# One tick of a host

`Host.update` polls the slots one after the other, with the pad threaded through, and then lets each
player have its pass.  Here the readings and the passes of a tick get names, so that the tick can be
described slot by slot.

## Key results

- `Host.length_readings`, `Host.fits_of_mem_readings`: each slot has readings, and they fit
- `Host.getElem?_passes`, `Host.getElem?_players_update`: the pass of a slot is that of its player
  on its readings
- `Host.noValue_mem_update`: only a pass can tell that a binding had no value
-/

namespace InputMap

variable {σ L : Type} [Pad σ]

/-! ## The readings of one slot -/

/-- A reading of the right kind can be entered. -/
theorem Snapshot.Fits.insert {readings : Snapshot} {s : Signal} {v : Value} (h : readings.Fits)
    (hv : v.category = s.category) : (readings.insert s v).Fits := by
  intro t w hw
  rw [Snapshot.reading?_insert] at hw
  split at hw
  · rename_i heq
    cases hw
    rw [hv, heq]
  · exact h t w hw

/-- A poll enters readings of the right kind only. -/
theorem Poll.fits_run (settings : Settings) (signals : SignalSet) (slot : Nat) (pad : σ) :
    (Poll.run settings signals slot pad).snapshot.Fits := by
  -- the readings so far fit, whatever the pad has answered
  refine List.foldlRecOn (motive := fun poll : Poll σ => poll.snapshot.Fits) _ _
    Snapshot.fits_empty fun poll hpoll s _ => ?_
  rw [Poll.readSignal_snapshot]
  exact hpoll.insert (category_cleanAnswer _ _ _)

/-- Cleaning does not tell that a binding has no value. -/
private theorem noValue_notMem_componentNotices (limit v : Float32) (c : Category) :
    Notice.noValue c ∉ componentNotices limit v := by
  unfold componentNotices
  split
  · simp
  · split <;> simp

/-- Cleaning a reading never tells that a binding has no value. -/
private theorem noValue_notMem_readingNotices (limit : Float32) (c d : Category) (r : d.Reading) :
    Notice.noValue c ∉ readingNotices limit d r := by
  cases d with
  | digital => exact List.not_mem_nil
  | analog1 => exact noValue_notMem_componentNotices limit r c
  | analog2 =>
    obtain ⟨x, y⟩ := r
    intro h
    rcases List.mem_append.1 h with h | h
    · exact noValue_notMem_componentNotices limit x c h
    · exact noValue_notMem_componentNotices limit y c h

/-- Nor does asking a pad, whatever it answers. -/
private theorem noValue_notMem_answerNotices (limit : Float32) (slot : Nat) (s : Signal)
    (answer : Answer s) (c : Category) : Notice.noValue c ∉ answerNotices limit slot s answer := by
  cases answer with
  | ok r => exact noValue_notMem_readingNotices limit c s.category r
  | error fault => simp [answerNotices]

/-- Polling tells nothing of values. -/
theorem Poll.noValue_notMem_run (settings : Settings) (signals : SignalSet) (slot : Nat) (pad : σ)
    (c : Category) : Notice.noValue c ∉ (Poll.run settings signals slot pad).notices := by
  -- the notices in front of the last one are gathered signal by signal
  have hfold : Notice.noValue c ∉ (signals.toList.foldl (readSignal settings.limit slot)
      ⟨pad, .empty, limitNotices settings⟩).notices := by
    refine
      List.foldlRecOn (motive := fun poll : Poll σ => Notice.noValue c ∉ poll.notices) _ _ ?_ ?_
    · show Notice.noValue c ∉ limitNotices settings
      unfold limitNotices
      split <;> simp
    · intro poll hpoll s _ h
      rcases List.mem_append.1 h with h | h
      · exact hpoll h
      · exact noValue_notMem_answerNotices _ _ _ _ c h
  intro h
  rcases List.mem_append.1 h with h | h
  · exact hfold h
  · simp at h

namespace Host

variable {h : Host σ L} {settings : Settings} {signals : SignalSet} {slots slot : Nat} {pad : σ}

/-! ## The sweep over the slots -/

/-- One slot more is polled after all those before it. -/
theorem sweep_succ (settings : Settings) (signals : SignalSet) (slots : Nat) (pad : σ) :
    sweep settings signals (slots + 1) pad =
      sweepSlot settings signals (sweep settings signals slots pad) slots := by
  rw [sweep, sweep, List.range_succ, List.foldl_append, List.foldl_cons, List.foldl_nil]

/-- There is one snapshot for each slot. -/
theorem length_snapshots_sweep (settings : Settings) (signals : SignalSet) (slots : Nat) (pad : σ) :
    (sweep settings signals slots pad).snapshots.length = slots := by
  induction slots with
  | zero => rfl
  | succ slots ih =>
    rw [sweep_succ, sweepSlot, List.length_append, ih, List.length_singleton]

/-- All snapshots of a sweep fit, whatever the pad answers. -/
theorem fits_of_mem_sweep {readings : Snapshot}
    (h : readings ∈ (sweep settings signals slots pad).snapshots) : readings.Fits := by
  induction slots with
  | zero => exact nomatch h
  | succ slots ih =>
    rw [sweep_succ, sweepSlot] at h
    cases List.mem_append.1 h with
    | inl hbefore => exact ih hbefore
    | inr hlast =>
      rw [List.mem_singleton.1 hlast]
      exact Poll.fits_run _ _ _ _

/-- Nothing that a sweep tells is about a value that is missing. -/
theorem noValue_notMem_sweep (settings : Settings) (signals : SignalSet) (slots : Nat) (pad : σ)
    (c : Category) : Notice.noValue c ∉ (sweep settings signals slots pad).notices := by
  induction slots with
  | zero => exact List.not_mem_nil
  | succ slots ih =>
    rw [sweep_succ, sweepSlot]
    intro h
    rcases List.mem_append.1 h with h | h
    · exact ih h
    · exact Poll.noValue_notMem_run _ _ _ _ _ h

/-! ## The tick -/

/-- What is read of the slots in the next tick, in the order of the slots. -/
def readings (h : Host σ L) : List Snapshot :=
  (sweep h.settings h.signals h.players.length (Pad.beginTick h.pad).2).snapshots

/-- The players' parts of the next tick, in the order of the slots. -/
def passes (h : Host σ L) : List (Pass L) :=
  h.players.zipWith (fun p readings => p.update readings h.shared) h.readings

/-- The readings of a tick are those of the players. -/
theorem length_readings (h : Host σ L) : h.readings.length = h.players.length :=
  length_snapshots_sweep _ _ _ _

/-- Each player has its part in a tick. -/
theorem length_passes (h : Host σ L) : h.passes.length = h.players.length := by
  rw [passes, List.length_zipWith, length_readings, Nat.min_self]

/-- Every player has readings. -/
theorem exists_readings {p : Player L} (hp : h.players[slot]? = some p) :
    ∃ readings, h.readings[slot]? = some readings := by
  obtain ⟨hlt, -⟩ := List.getElem?_eq_some_iff.1 hp
  exact ⟨_, List.getElem?_eq_getElem (by rwa [length_readings])⟩

/-- What is polled fits the categories of the signals, slot by slot. -/
theorem fits_of_mem_readings {readings : Snapshot} (hr : readings ∈ h.readings) : readings.Fits :=
  fits_of_mem_sweep hr

/-- The part of a player is what it does with the readings of its slot. -/
theorem getElem?_passes {pass : Pass L} :
    h.passes[slot]? = some pass ↔
      ∃ p readings, h.players[slot]? = some p ∧ h.readings[slot]? = some readings ∧
        p.update readings h.shared = pass :=
  List.getElem?_zipWith_eq_some

theorem players_update (h : Host σ L) : h.update.host.players = h.passes.map (·.player) := rfl

/-- A tick keeps the number of players. -/
theorem length_players_update (h : Host σ L) : h.update.host.players.length = h.players.length := by
  rw [players_update, List.length_map, length_passes]

/-- The player of a slot after a tick is what its pass has made of the one before. -/
theorem getElem?_players_update {q : Player L} :
    h.update.host.players[slot]? = some q ↔
      ∃ p readings, h.players[slot]? = some p ∧ h.readings[slot]? = some readings ∧
        (p.update readings h.shared).player = q := by
  rw [players_update, List.getElem?_map, Option.map_eq_some_iff]
  constructor
  · rintro ⟨pass, hpass, rfl⟩
    obtain ⟨p, readings, hp, hreadings, rfl⟩ := getElem?_passes.1 hpass
    exact ⟨p, readings, hp, hreadings, rfl⟩
  · rintro ⟨p, readings, hp, hreadings, rfl⟩
    exact ⟨_, getElem?_passes.2 ⟨p, readings, hp, hreadings, rfl⟩, rfl⟩

/-- A slot has a player after a tick if it had one before; it is what the pass has made of it. -/
theorem player?_update (h : Host σ L) (slot : Nat) :
    h.player? slot = none ∧ h.update.host.player? slot = none ∨
      ∃ p readings, h.player? slot = some p ∧ h.readings[slot]? = some readings ∧
        h.update.host.player? slot = some (p.update readings h.shared).player := by
  cases hp : h.player? slot with
  | none =>
    refine .inl ⟨rfl, ?_⟩
    rw [player?, List.getElem?_eq_none_iff] at hp ⊢
    rwa [length_players_update]
  | some p =>
    obtain ⟨readings, hreadings⟩ := exists_readings hp
    exact .inr ⟨p, readings, rfl, hreadings,
      getElem?_players_update.2 ⟨p, readings, hp, hreadings, rfl⟩⟩

/-- The events of a tick are those of the players, between notices that are not about bindings. -/
theorem events_update (h : Host σ L) :
    ∃ before after : List Notice,
      h.update.events = before.map .notice ++ h.passes.flatMap (·.events) ++ after.map .notice ∧
        ∀ c, Notice.noValue c ∉ before ∧ Notice.noValue c ∉ after := by
  refine ⟨_, _, rfl, fun c => ⟨fun hmem => ?_, fun hmem => ?_⟩⟩
  · -- what is told in front of the passes comes from reading
    rcases List.mem_append.1 hmem with hbegin | hsweep
    · unfold beginNotices at hbegin
      split at hbegin <;> simp at hbegin
    · exact noValue_notMem_sweep _ _ _ _ c hsweep
  · -- and what is told behind them counts
    rcases List.mem_append.1 hmem with hchange | hsummary
    · unfold changeNotices at hchange
      split at hchange <;> simp at hchange
    · unfold summaryNotices at hsummary
      split at hsummary <;> simp at hsummary

/-- If a tick tells that a binding had no value, one of its passes does. -/
theorem noValue_mem_update {c : Category} (hmem : .notice (.noValue c) ∈ h.update.events) :
    ∃ pass ∈ h.passes, .notice (.noValue c) ∈ pass.events := by
  obtain ⟨before, after, hevents, hnotices⟩ := h.events_update
  rw [hevents, List.mem_append, List.mem_append, List.mem_map, List.mem_map,
    List.mem_flatMap] at hmem
  rcases hmem with (⟨n, hn, heq⟩ | hpass) | ⟨n, hn, heq⟩
  · cases heq
    exact absurd hn (hnotices c).1
  · exact hpass
  · cases heq
    exact absurd hn (hnotices c).2

/-- The calls of a tick are those of its passes. -/
theorem calls_update (h : Host σ L) :
    h.update.events.filterMap Event.call? = h.passes.flatMap (·.events.filterMap Event.call?) := by
  obtain ⟨before, after, hevents, -⟩ := h.events_update
  rw [hevents, List.filterMap_append, List.filterMap_append, Event.filterMap_call?_notices,
    Event.filterMap_call?_notices, List.nil_append, List.append_nil, List.filterMap_flatMap]

end Host

end InputMap
