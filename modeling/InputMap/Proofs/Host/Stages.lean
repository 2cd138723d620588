import InputMap.Proofs.Host.Answers
import InputMap.Proofs.Host.Delivery

/-!
# The stages of a tick

A tick has three stages.  First all slots are read, then the players have their passes, and then the
tick is counted.  What a tick does can be told apart by its stage, and comes in this order.

## Key results

- `Poll.notices_run`: what a poll tells, signal by signal
- `Host.events_update_eq`: what a tick does, stage by stage
- `Host.pairwise_update`: nothing is read once an evaluation has told something
- `Host.SameFrame.run`: what a host keeps over a session
-/

namespace InputMap

variable {σ L : Type}

/-! ## Stages -/

namespace Notice

/-- Whether a notice comes from reading the slots, or from the start of the tick. -/
@[simp] def isReading : Notice → Bool
  | tickFault .. | limitIgnored .. | readFault .. | readingNaN | readingClamped .. | polled .. => true
  | _ => false

/-- Whether a notice comes from evaluating a binding and storing its value. -/
@[simp] def isEvaluation : Notice → Bool
  | noValue _ | changed .. => true
  | _ => false

end Notice

namespace Event

/-- Whether an event is from the stage in which the slots are read. -/
@[simp] def isReading : Event L → Bool
  | notice n => n.isReading
  | call _ => false

/-- Whether an event is from the stage in which bindings are evaluated and listeners are called. -/
@[simp] def isEvaluation : Event L → Bool
  | notice n => n.isEvaluation
  | call _ => true

/-- The totals of a summary. -/
def summary? : Event L → Option TickTotals
  | notice (.summary totals) => some totals
  | _ => none

variable {e : Event L}

/-- An event of an evaluation is not one of a reading. -/
theorem isReading_eq_false (h : e.isEvaluation = true) : e.isReading = false := by
  cases e with
  | call c => rfl
  | notice n => cases n <;> simp_all

/-- What evaluation tells is no summary. -/
theorem summary?_eq_none (h : e.isEvaluation = true) : e.summary? = none := by
  cases e with
  | call c => rfl
  | notice n => cases n <;> simp_all [summary?]

end Event

/-! ## What is told when a slot is read -/

section

variable {n : Notice}

/-- Cleaning belongs to reading. -/
theorem isReading_of_mem_componentNotices {limit v : Float32} (h : n ∈ componentNotices limit v) :
    n.isReading = true := by
  unfold componentNotices at h
  split at h
  · simp_all
  · split at h <;> simp_all

/-- Cleaning a reading tells only what belongs to reading. -/
theorem isReading_of_mem_readingNotices {limit : Float32} {c : Category} {r : c.Reading}
    (h : n ∈ readingNotices limit c r) : n.isReading = true := by
  cases c with
  | digital => exact absurd h List.not_mem_nil
  | analog1 => exact isReading_of_mem_componentNotices h
  | analog2 =>
    obtain ⟨x, y⟩ := r
    exact (List.mem_append.1 h).elim isReading_of_mem_componentNotices
      isReading_of_mem_componentNotices

/-- What is told of an answer of the pad belongs to reading, be it a fault or a value. -/
theorem isReading_of_mem_answerNotices {limit : Float32} {slot : Nat} {s : Signal}
    {answer : Answer s} (h : n ∈ answerNotices limit slot s answer) : n.isReading = true := by
  cases answer with
  | ok r => exact isReading_of_mem_readingNotices h
  | error fault => simp_all [answerNotices]

/-- A limit that cannot be used is found out when a poll begins. -/
theorem isReading_of_mem_limitNotices {settings : Settings} (h : n ∈ Poll.limitNotices settings) :
    n.isReading = true := by
  unfold Poll.limitNotices at h
  split at h <;> simp_all

end

namespace Poll

variable [Pad σ]

/-- Reading a list of signals, each of them once, tells what the answers tell, in order. -/
theorem notices_foldl_readSignal (limit : Float32) (slot : Nat) {list : List Signal}
    (hnodup : list.Nodup) (poll : Poll σ) :
    (list.foldl (readSignal limit slot) poll).notices =
      poll.notices ++ list.flatMap fun s => answerNotices limit slot s
        (Pad.read (Pad.afterReads poll.pad slot (list.takeWhile fun t => t != s)) slot s).1 := by
  -- on the list; the first signal is read now, and comes before all the others
  induction list generalizing poll with
  | nil => exact (List.append_nil _).symm
  | cons t rest ih =>
    obtain ⟨hfresh, hrest⟩ := List.nodup_cons.1 hnodup
    have hlater : ∀ s ∈ rest, (t :: rest).takeWhile (fun u => u != s) =
        t :: rest.takeWhile (fun u => u != s) := by
      intro s hs
      have hne : t ≠ s := fun heq => hfresh (heq ▸ hs)
      exact List.takeWhile_cons_of_pos (by simpa using hne)
    rw [List.foldl_cons, ih hrest, List.flatMap_cons, List.takeWhile_cons_of_neg (by simp),
      ← List.append_assoc]
    refine congrArg₂ (· ++ ·) rfl (List.flatMap_congr fun s hs => ?_)
    rw [hlater s hs]
    rfl

variable (settings : Settings) (signals : SignalSet) (slot : Nat) (pad : σ)

/-- A poll has an entry for each signal, also for those that could not be read. -/
theorem size_snapshot_run : (run settings signals slot pad).snapshot.size = signals.size := by
  -- a signal is read exactly if it is there, so both counts run over the same signals
  have hmem (s : Signal) :
      ((run settings signals slot pad).snapshot.reading? s).isSome = signals.contains s := by
    rw [reading?_run]
    by_cases hs : s ∈ signals
    · rw [if_pos hs]
      exact hs.symm
    · rw [if_neg hs]
      exact (Bool.eq_false_iff.2 hs).symm
  rw [Snapshot.size, SignalSet.size, SignalSet.toList, ← List.countP_eq_length_filter]
  exact List.countP_congr fun s _ => by rw [hmem s]

/-- What a poll tells: what the settings tell, then what the answer for each signal tells, and then
    that the slot has been polled. -/
theorem notices_run :
    (run settings signals slot pad).notices =
      limitNotices settings ++
        signals.toList.flatMap
          (fun s => answerNotices settings.limit slot s (answer signals slot pad s)) ++
        [.polled signals.size slot] := by
  rw [← size_snapshot_run settings signals slot pad]
  exact congrArg (· ++ _) (notices_foldl_readSignal _ _ signals.nodup_toList _)

end Poll

/-! ## What is told when a player has its pass -/

namespace Player

/-- A missing value is told when the binding is evaluated. -/
theorem isEvaluation_of_mem_valueNotices {n : Notice} {b : Binding} {r : Snapshot} {v : Value}
    (h : n ∈ valueNotices b r v) : n.isEvaluation = true := by
  unfold valueNotices at h
  split at h <;> simp_all

/-- A turn adds to the events of a pass, and what it adds is from its own stage. -/
theorem isEvaluation_turn {r : Snapshot} {shared : List (ListenerList L)} {pass : Pass L}
    (hpass : ∀ e ∈ pass.events, e.isEvaluation = true) (x : (ActionId × Binding) × Nat) :
    ∀ e ∈ (turn r shared pass x).events, e.isEvaluation = true := by
  obtain ⟨⟨a, b⟩, i⟩ := x
  unfold turn
  dsimp only
  split
  · exact hpass
  · rename_i cell _
    -- the evaluation comes first, then the notice of a change, then the calls
    have hevaluated : ∀ e ∈ pass.events ++ (valueNotices b r cell.value).map Event.notice,
        e.isEvaluation = true := by
      intro e he
      rcases List.mem_append.1 he with he | he
      · exact hpass e he
      · obtain ⟨n, hn, rfl⟩ := List.mem_map.1 he
        exact isEvaluation_of_mem_valueNotices hn
    split
    · exact hevaluated
    · intro e he
      rcases List.mem_append.1 he with he | he
      · exact hevaluated e he
      · rcases List.mem_cons.1 he with rfl | he
        · rfl
        · obtain ⟨listener, -, rfl⟩ := List.mem_map.1 he
          rfl

/-- All that a player does in a tick belongs to evaluating. -/
theorem isEvaluation_of_mem_update {p : Player L} {r : Snapshot} {shared : List (ListenerList L)}
    {e : Event L} (h : e ∈ (p.update r shared).events) : e.isEvaluation = true := by
  have hfold : ∀ e ∈ (p.update r shared).events, e.isEvaluation = true :=
    List.foldlRecOn (motive := fun pass : Pass L => ∀ e ∈ pass.events, e.isEvaluation = true) _ _
      (fun _ he => absurd he List.not_mem_nil) fun _ hpass x _ => isEvaluation_turn hpass x
  exact hfold e h

end Player

namespace Host

section

variable [Pad σ] {h : Host σ L}

/-! ## The tick, stage by stage -/

/-- What reading the slots in the next tick tells. -/
def pollNotices (h : Host σ L) : List Notice :=
  beginNotices (h.tick + 1) (Pad.beginTick h.pad).1 ++
    (List.range h.players.length).flatMap fun slot =>
      Poll.limitNotices h.settings ++
        h.signals.toList.flatMap
          (fun s => answerNotices h.settings.limit slot s (h.answer slot s)) ++
        [.polled h.signals.size slot]

/-- The totals that the next tick is counted in. -/
def nextTotals (h : Host σ L) : TickTotals :=
  h.totals.add (total (·.evaluated) h.passes) h.update.report.changes h.update.report.calls

/-- A sweep tells what its polls tell, slot by slot. -/
theorem notices_sweep (settings : Settings) (signals : SignalSet) (slots : Nat) (pad : σ) :
    (sweep settings signals slots pad).notices =
      (List.range slots).flatMap fun slot =>
        (Poll.run settings signals slot (sweep settings signals slot pad).pad).notices := by
  induction slots with
  | zero => rfl
  | succ slots ih =>
    rw [sweep_succ, sweepSlot, List.range_succ, List.flatMap_append, List.flatMap_singleton, ih]

/-- What a tick does: all slots are read, then the players have their passes in the order of their
    slots, each on the readings of its slot, and then the tick is counted. -/
theorem events_update_eq (h : Host σ L) :
    h.update.events =
      h.pollNotices.map .notice ++ h.passes.flatMap (·.events) ++
        (changeNotices h.update.report ++
          summaryNotices (summaryDue h.settings h.nextTotals) h.nextTotals).map .notice := by
  have hpoll : h.pollNotices = beginNotices (h.tick + 1) (Pad.beginTick h.pad).1 ++
      (sweep h.settings h.signals h.players.length (Pad.beginTick h.pad).2).notices := by
    simp only [notices_sweep, Poll.notices_run]
    rfl
  rw [hpoll]
  rfl

/-- All that the polls of a tick tell belongs to reading. -/
theorem isReading_of_mem_pollNotices {n : Notice} (hn : n ∈ h.pollNotices) : n.isReading = true := by
  rcases List.mem_append.1 hn with hn | hn
  · -- the beginning of the tick, and then what each slot tells
    unfold beginNotices at hn
    split at hn <;> simp_all
  · obtain ⟨slot, -, hn⟩ := List.mem_flatMap.1 hn
    rcases List.mem_append.1 hn with hn | hn
    · rcases List.mem_append.1 hn with hn | hn
      · exact isReading_of_mem_limitNotices hn
      · obtain ⟨s, -, hn⟩ := List.mem_flatMap.1 hn
        exact isReading_of_mem_answerNotices hn
    · simp_all

/-- All that the players of a host do in a tick belongs to evaluating. -/
theorem isEvaluation_of_mem_passes {e : Event L} (he : e ∈ h.passes.flatMap (·.events)) :
    e.isEvaluation = true := by
  obtain ⟨pass, hpass, he⟩ := List.mem_flatMap.1 he
  obtain ⟨slot, hslot⟩ := List.getElem?_of_mem hpass
  obtain ⟨p, readings, -, -, rfl⟩ := getElem?_passes.1 hslot
  exact Player.isEvaluation_of_mem_update he

omit [Pad σ] in
/-- The end of a tick tells nothing of readings. -/
theorem isReading_eq_false_of_mem_closing {report : TickReport} {due : Bool} {totals : TickTotals}
    {n : Notice} (hn : n ∈ changeNotices report ++ summaryNotices due totals) :
    n.isReading = false := by
  rcases List.mem_append.1 hn with hn | hn
  · unfold changeNotices at hn
    split at hn <;> simp_all
  · unfold summaryNotices at hn
    split at hn <;> simp_all

/-- Nothing is read once an evaluation has told something or a listener has been called. -/
theorem pairwise_update (h : Host σ L) :
    h.update.events.Pairwise fun e f => e.isEvaluation = true → f.isReading = false := by
  have hpoll : ∀ e ∈ h.pollNotices.map (Event.notice (L := L)), e.isEvaluation = false := by
    intro e he
    obtain ⟨n, hn, rfl⟩ := List.mem_map.1 he
    refine Bool.eq_false_iff.2 fun heval => ?_
    have hreading : (Event.notice (L := L) n).isReading = true := isReading_of_mem_pollNotices hn
    exact absurd ((Event.isReading_eq_false heval).symm.trans hreading) Bool.false_ne_true
  rw [events_update_eq, List.append_assoc, List.pairwise_append]
  refine ⟨List.pairwise_of_forall_mem_list fun e he f _ heval => ?_,
    List.pairwise_of_forall_mem_list fun e _ f hf _ => ?_, fun e he f _ heval => ?_⟩
  -- in the first stage nothing is evaluated, and in the later ones nothing is read
  · exact absurd ((hpoll e he).symm.trans heval) Bool.false_ne_true
  · rcases List.mem_append.1 hf with hf | hf
    · exact Event.isReading_eq_false (isEvaluation_of_mem_passes hf)
    · obtain ⟨n, hn, rfl⟩ := List.mem_map.1 hf
      exact isReading_eq_false_of_mem_closing hn
  · exact absurd ((hpoll e he).symm.trans heval) Bool.false_ne_true

end

/-! ## What a host keeps -/

/-- What two hosts share if operations lead from one to the other. -/
structure SameFrame (h h' : Host σ L) : Prop where
  actions_eq : h'.actions = h.actions
  signals_eq : h'.signals = h.signals
  settings_eq : h'.settings = h.settings
  length_players : h'.players.length = h.players.length

variable {h h' : Host σ L}

/-- A change other than a tick leaves what the host was made with. -/
theorem Changed.sameFrame (hchanged : h.Changed h') : h.SameFrame h' := by
  have hlength := hchanged.length_players
  cases hchanged <;> exact ⟨rfl, rfl, rfl, hlength⟩

/-- So does every operation. -/
theorem SameFrame.perform [Pad σ] {operation : Operation σ L} (hadmissible : operation.Admissible)
    (h : Host σ L) : h.SameFrame (h.perform operation).host := by
  rcases h.perform_cases hadmissible with rfl | ⟨-, hchanged⟩
  · exact ⟨rfl, rfl, rfl, h.length_players_update⟩
  · exact hchanged.sameFrame

/-- And so does a session. -/
theorem SameFrame.run [Pad σ] {session : List (Operation σ L)}
    (hsession : ∀ operation ∈ session, operation.Admissible) (h : Host σ L) :
    h.SameFrame (h.run session) := by
  induction session generalizing h with
  | nil => exact ⟨rfl, rfl, rfl, rfl⟩
  | cons operation session ih =>
    obtain ⟨hfirst, hlater⟩ := List.forall_mem_cons.1 hsession
    have hstep := SameFrame.perform hfirst h
    have hrest := ih hlater (h.perform operation).host
    exact ⟨hrest.actions_eq.trans hstep.actions_eq, hrest.signals_eq.trans hstep.signals_eq,
      hrest.settings_eq.trans hstep.settings_eq,
      hrest.length_players.trans hstep.length_players⟩

end Host

end InputMap
