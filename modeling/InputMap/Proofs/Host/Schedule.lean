import InputMap.Proofs.Host.OtherPad
import InputMap.Proofs.Host.Stages
import InputMap.Proofs.Pad.Calls

/-!
# The calls that a host makes

A host calls its pad at a tick and at no other time, and a tick makes the same calls whatever the
pad answers, whatever is bound, and whatever has become of the pad since the last one.  To see this,
a recorder is put in front of the pad.  The host does with it what it does without, so the record
shows the calls that the pad itself gets.

## Key results

- `Host.pad_update`, `Host.pad_run`: what a tick and a session make of the pad
- `Host.update_recorded`, `Host.run_recorded`: the record of a tick and of a session
- `Host.repeats_schedule`: the schedule of a session, and the order within each tick
-/

namespace InputMap

open PadCall

variable {σ L : Type}

namespace Host

/-- What a sweep makes of the pad. -/
theorem pad_sweep [Pad σ] (settings : Settings) (signals : SignalSet) (slots : Nat) (pad : σ) :
    (sweep settings signals slots pad).pad =
      Pad.afterCalls pad ((List.range slots).flatMap (readsOf signals)) := by
  induction slots with
  | zero => rfl
  | succ slots ih =>
    rw [sweep_succ, sweepSlot, Poll.pad_run, ih, Pad.afterReads_eq, List.range_succ,
      List.flatMap_append, List.flatMap_singleton, Pad.afterCalls_append, readsOf]

/-- What a tick makes of the pad. -/
theorem pad_update [Pad σ] (h : Host σ L) :
    h.update.host.pad = Pad.afterCalls h.pad (schedule h.players.length h.signals) :=
  pad_sweep _ _ _ _

end Host

/-! ## What becomes of the pad -/

namespace Operation

/-- What an operation makes of the pad, if a tick makes the given calls. -/
def onPad [Pad σ] (tick : List PadCall) : Operation σ L → σ → σ
  | update => (Pad.afterCalls · tick)
  | modifyPad f => f
  | _ => id

/-- Whether an operation leaves the counters of a simulated pad, unless it is a tick. -/
def KeepsCounts : Operation SimulatedPad L → Prop
  | modifyPad f => SimulatedPad.KeepsCounts f
  | _ => True

end Operation

namespace Host

variable [Pad σ]

/-- Nothing but a tick and a change from outside concerns the pad. -/
theorem pad_perform (h : Host σ L) (operation : Operation σ L) :
    (h.perform operation).host.pad =
      operation.onPad (schedule h.players.length h.signals) h.pad := by
  cases operation with
  | update => exact h.pad_update
  | modifyPad f => rfl
  | _ => exact pad_perform_of_not_concernsPad rfl h

/-- What a session does to the pad: one schedule for each tick, and the changes from outside
    between. -/
theorem pad_run {session : List (Operation σ L)}
    (hsession : ∀ operation ∈ session, operation.Admissible) (h : Host σ L) :
    (h.run session).pad =
      session.foldl
        (fun pad operation => operation.onPad (schedule h.players.length h.signals) pad) h.pad := by
  induction session generalizing h with
  | nil => rfl
  | cons operation session ih =>
    obtain ⟨hfirst, hlater⟩ := List.forall_mem_cons.1 hsession
    have hframe := SameFrame.perform hfirst h
    rw [run_cons, ih hlater, hframe.length_players, hframe.signals_eq, pad_perform,
      List.foldl_cons]

end Host

/-! ## With a recorder -/

/-- A poll with a recorder in front of its pad. -/
def Poll.recorded (poll : Poll σ) (calls : List PadCall) : Poll (Recording σ) :=
  ⟨⟨poll.pad, calls⟩, poll.snapshot, poll.notices⟩

/-- A sweep with a recorder in front of its pad. -/
def Sweep.recorded (sweep : Sweep σ) (calls : List PadCall) : Sweep (Recording σ) :=
  ⟨⟨sweep.pad, calls⟩, sweep.snapshots, sweep.notices⟩

/-- A host with a recorder in front of its pad. -/
def Host.recorded (h : Host σ L) (calls : List PadCall) : Host (Recording σ) L :=
  h.withPad ⟨h.pad, calls⟩

/-- A tick with a recorder in front of the host's pad. -/
def Tick.recorded (tick : Tick σ L) (calls : List PadCall) : Tick (Recording σ) L :=
  ⟨tick.host.recorded calls, tick.report, tick.events⟩

/-- What an operation comes to, with a recorder in front of the host's pad. -/
def Performed.recorded (performed : Performed σ L) (calls : List PadCall) :
    Performed (Recording σ) L :=
  performed.withPad ⟨performed.host.pad, calls⟩

/-- An operation on a host with a recorder.  What is done to the pad from outside is done behind the
    recorder, so that the record stays. -/
def Operation.recorded : Operation σ L → Operation (Recording σ) L :=
  retype fun f r => ⟨f r.pad, r.calls⟩

section

variable [Pad σ]

/-- The recorder writes down each reading, and answers as its pad does. -/
theorem Poll.foldl_readSignal_recorded (limit : Float32) (slot : Nat) (list : List Signal)
    (poll : Poll σ) (calls : List PadCall) :
    list.foldl (readSignal limit slot) (poll.recorded calls) =
      (list.foldl (readSignal limit slot) poll).recorded (calls ++ list.map (.read slot)) := by
  -- on the list; a recorded poll that reads one more signal is a recorded poll
  induction list generalizing poll calls with
  | nil => rw [List.map_nil, List.append_nil]; rfl
  | cons s rest ih =>
    have hread : (poll.recorded calls).readSignal limit slot s =
        (poll.readSignal limit slot s).recorded (calls ++ [.read slot s]) := rfl
    rw [List.foldl_cons, hread, ih, List.foldl_cons, List.map_cons, List.append_assoc,
      List.singleton_append]

/-- A poll through the recorder. -/
theorem Poll.run_recorded (settings : Settings) (signals : SignalSet) (slot : Nat) (pad : σ)
    (calls : List PadCall) :
    run settings signals slot (⟨pad, calls⟩ : Recording σ) =
      (run settings signals slot pad).recorded (calls ++ readsOf signals slot) := by
  have hfold := foldl_readSignal_recorded settings.limit slot signals.toList
    ⟨pad, .empty, limitNotices settings⟩ calls
  rw [recorded] at hfold
  rw [run, hfold]
  rfl

namespace Host

/-- A sweep through the recorder, slot by slot. -/
theorem sweep_recorded (settings : Settings) (signals : SignalSet) (slots : Nat) (pad : σ)
    (calls : List PadCall) :
    sweep settings signals slots (⟨pad, calls⟩ : Recording σ) =
      (sweep settings signals slots pad).recorded
        (calls ++ (List.range slots).flatMap (readsOf signals)) := by
  induction slots with
  | zero => rw [List.range_zero, List.flatMap_nil, List.append_nil]; rfl
  | succ slots ih =>
    rw [sweep_succ, sweepSlot, ih, Sweep.recorded, Poll.run_recorded, sweep_succ, List.range_succ,
      List.flatMap_append, List.flatMap_singleton, ← List.append_assoc]
    rfl

/-- A tick makes the calls of the schedule, and is otherwise as without the recorder. -/
theorem update_recorded (h : Host σ L) (calls : List PadCall) :
    (h.recorded calls).update =
      h.update.recorded (calls ++ schedule h.players.length h.signals) := by
  let begun : Recording σ := ⟨(Pad.beginTick h.pad).2, calls ++ [.beginTick]⟩
  have hsweep := sweep_recorded h.settings h.signals h.players.length (Pad.beginTick h.pad).2
    (calls ++ [.beginTick])
  have hcalls : calls ++ schedule h.players.length h.signals =
      calls ++ [.beginTick] ++ (List.range h.players.length).flatMap (readsOf h.signals) :=
    List.append_cons _ _ _
  rw [hcalls]
  -- the sweep occurs twice: for the pad and the notices, and for the readings of the passes
  show (h.recorded calls).conclude (Pad.beginTick h.pad).1
    (sweep h.settings h.signals h.players.length begun)
    (h.players.zipWith (fun p readings => p.update readings h.shared)
      (sweep h.settings h.signals h.players.length begun).snapshots) = _
  rw [hsweep]
  rfl

/-- An operation other than a tick makes no calls. -/
theorem perform_recorded_of_not_update {operation : Operation σ L}
    (hother : operation.isUpdate = false) (h : Host σ L) (calls : List PadCall) :
    (h.recorded calls).perform operation.recorded = (h.perform operation).recorded calls := by
  cases hpad : operation.concernsPad with
  | true =>
    cases operation with
    | modifyPad f => rfl
    | update => cases hother
    | _ => cases hpad
  | false =>
    rw [Performed.recorded, pad_perform_of_not_concernsPad hpad]
    exact h.perform_withPad _ hpad _

/-- A session makes the calls of the schedule once for each of its ticks, and is otherwise as
    without the recorder. -/
theorem run_recorded {session : List (Operation σ L)}
    (hsession : ∀ operation ∈ session, operation.Admissible) (h : Host σ L)
    (calls : List PadCall) :
    (h.recorded calls).run (session.map (·.recorded)) =
      (h.run session).recorded
        (calls ++ (List.replicate (session.countP (·.isUpdate))
          (schedule h.players.length h.signals)).flatten) := by
  -- on the session; a tick adds one schedule to the record, and other operations add nothing
  induction session generalizing h calls with
  | nil =>
    rw [List.countP_nil, List.replicate_zero, List.flatten_nil, List.append_nil]
    rfl
  | cons operation session ih =>
    obtain ⟨hfirst, hlater⟩ := List.forall_mem_cons.1 hsession
    have hframe := SameFrame.perform hfirst h
    rw [List.map_cons, run_cons, run_cons]
    cases hupdate : operation.isUpdate with
    | true =>
      obtain rfl := operation.eq_update hupdate
      have hstep : ((h.recorded calls).perform Operation.update.recorded).host =
          h.update.host.recorded (calls ++ schedule h.players.length h.signals) :=
        congrArg Tick.host (h.update_recorded calls)
      rw [hstep, ih hlater]
      rw [show (h.perform .update).host = h.update.host from rfl] at hframe ⊢
      rw [hframe.length_players, hframe.signals_eq, List.countP_cons_of_pos hupdate,
        List.replicate_succ, List.flatten_cons, List.append_assoc]
    | false =>
      have hcount : ¬ operation.isUpdate = true := by simp [hupdate]
      have hstep : ((h.recorded calls).perform operation.recorded).host =
          (h.perform operation).host.recorded calls :=
        congrArg Performed.host (perform_recorded_of_not_update hupdate h calls)
      rw [hstep, ih hlater, hframe.length_players, hframe.signals_eq,
        List.countP_cons_of_neg hcount]

end Host

end

/-! ## Counters -/

/-- The counters of a simulated pad after a session, if a tick makes the given calls. -/
theorem SimulatedPad.counts_foldl (tick : List PadCall) {session : List (Operation SimulatedPad L)}
    (hkeeps : ∀ operation ∈ session, operation.KeepsCounts) (pad : SimulatedPad) :
    let after := session.foldl (fun pad operation => operation.onPad tick pad) pad
    let n := session.countP (·.isUpdate)
    after.ticks = pad.ticks + n * tick.count .beginTick ∧
      after.polls = pad.polls + n * tick.countP isRead := by
  induction session generalizing pad with
  | nil => simp
  | cons operation session ih =>
    obtain ⟨hfirst, hlater⟩ := List.forall_mem_cons.1 hkeeps
    obtain ⟨hticks, hpolls⟩ := ih hlater (operation.onPad tick pad)
    dsimp only at hticks hpolls ⊢
    rw [List.foldl_cons, hticks, hpolls]
    -- a tick adds one schedule to the counts, and nothing else adds to them
    cases operation with
    | update =>
      rw [List.countP_cons_of_pos rfl, Nat.succ_mul, Nat.succ_mul]
      simp only [Operation.onPad, ticks_afterCalls, polls_afterCalls]
      omega
    | modifyPad f =>
      rw [List.countP_cons_of_neg Bool.false_ne_true]
      simp only [Operation.onPad, (hfirst pad).1, (hfirst pad).2, and_self]
    | _ =>
      rw [List.countP_cons_of_neg Bool.false_ne_true]
      exact ⟨rfl, rfl⟩

namespace Host

variable [Pad σ]

/-- The slots and the signals of the schedule are those that the pad had when the host was created.
    -/
theorem schedule_run_create {actions : ActionSet} {pad : σ} {settings : Settings}
    {session : List (Operation σ L)} (hsession : ∀ operation ∈ session, operation.Admissible) :
    let h : Host σ L := (create actions pad settings).run session
    schedule h.players.length h.signals = schedule (Pad.slotCount pad) (Pad.signals pad) := by
  intro h
  have hframe := SameFrame.run hsession (create actions pad settings)
  rw [hframe.length_players, hframe.signals_eq, create, List.length_map, List.length_range]

/-- The calls of a session.  Whatever the pad answers, whatever is bound, and whatever is done to
    the pad between the ticks, each tick makes the same calls and nothing else makes any: the tick
    begins once, and then each signal of each slot is read once, in the order of the slots and of
    the signals, with the slots and the signals that the pad had when the host was created.  A
    recorder in front of the pad has these calls on its record, and the session goes on as without
    it.  Within a tick all slots are read before a binding is evaluated or a listener is called.  A
    simulated pad counts its ticks and the signals that were read. -/
theorem repeats_schedule (actions : ActionSet) (pad : σ) (settings : Settings)
    {before session : List (Operation σ L)} (hbefore : ∀ operation ∈ before, operation.Admissible)
    (hsession : ∀ operation ∈ session, operation.Admissible) :
    let tick := schedule (Pad.slotCount pad) (Pad.signals pad)
    let h : Host σ L := (create actions pad settings).run before
    let after := h.run session
    ((∀ call, call ∈ tick ↔
        call = .beginTick ∨
          ∃ slot s, slot < Pad.slotCount pad ∧ s ∈ Pad.signals pad ∧ call = .read slot s) ∧
      tick.Pairwise fun x y => compare x y = .lt) ∧
    ((h.recorded []).run (session.map (·.recorded)) =
        after.recorded (List.replicate (session.countP (·.isUpdate)) tick).flatten ∧
      after.pad = session.foldl (fun pad operation => operation.onPad tick pad) h.pad) ∧
    (after.update.events =
        after.pollNotices.map .notice ++ after.passes.flatMap (·.events) ++
          (changeNotices after.update.report ++
            summaryNotices (summaryDue after.settings after.nextTotals)
              after.nextTotals).map .notice ∧
      after.update.events.Pairwise fun e f => e.isEvaluation = true → f.isReading = false) ∧
    ∀ (simulated : SimulatedPad) {before session : List (Operation SimulatedPad L)},
      (∀ operation ∈ before, operation.Admissible) →
      (∀ operation ∈ session, operation.Admissible ∧ operation.KeepsCounts) →
        let h : Host SimulatedPad L := (create actions simulated settings).run before
        let n := session.countP (·.isUpdate)
        (h.run session).pad.ticks = h.pad.ticks + n ∧
          (h.run session).pad.polls =
            h.pad.polls + n * (simulated.slots.length * simulated.available.size) := by
  intro tick h after
  -- the schedule is that of the pad at the creation, whatever the pad has become since
  have htick : schedule h.players.length h.signals = tick := schedule_run_create hbefore
  refine ⟨⟨fun _ => mem_schedule, pairwise_schedule _ _⟩, ⟨?_, ?_⟩,
    ⟨after.events_update_eq, after.pairwise_update⟩, ?_⟩
  · rw [run_recorded hsession, htick, List.nil_append]
  · rw [← htick]
    exact pad_run hsession h
  · intro simulated before session hbefore hsession h n
    have hadmissible : ∀ operation ∈ session, operation.Admissible :=
      fun operation ho => (hsession operation ho).1
    obtain ⟨hticks, hpolls⟩ := SimulatedPad.counts_foldl (schedule h.players.length h.signals)
      (fun operation ho => (hsession operation ho).2) h.pad
    rw [← pad_run hadmissible h, schedule_run_create hbefore] at hticks hpolls
    rw [hticks, hpolls, count_schedule, countP_isRead_schedule, Nat.mul_one]
    exact ⟨rfl, rfl⟩

/-- A pad with two slots and two signals is disconnected in one slot, and then replaced by one with
    other slots and signals.  The last tick makes the calls that the first one made. -/
theorem repeats_schedule_of_replacement :
    let few := SignalSet.ofList [.trigger .left, .button .faceDown]
    let before : List (Operation SimulatedPad String) :=
      [.bind 1 ⟨.digital, 0, 0⟩ (.input (.button .faceDown))]
    let session : List (Operation SimulatedPad String) :=
      [.update, .modifyPad (·.setConnected 0 false), .update]
    let replaced := session ++ [.modifyPad fun _ => .create 5 .all, .update]
    let h : Host SimulatedPad String :=
      (create ⟨0, ["jump"], [], []⟩ (.create 2 few) .default).run before
    (∀ operation ∈ before, operation.Admissible) ∧
      (∀ operation ∈ session, operation.Admissible ∧ operation.KeepsCounts) ∧
      (∀ operation ∈ replaced, operation.Admissible) ∧
      (h.run session).pad.ticks = 2 ∧ (h.run session).pad.polls = 8 ∧
      ((h.recorded []).run (replaced.map (·.recorded))).pad.calls =
        (List.replicate 3
          [.beginTick, .read 0 (.button .faceDown), .read 0 (.trigger .left),
            .read 1 (.button .faceDown), .read 1 (.trigger .left)]).flatten := by
  intro few before session replaced h
  have hbefore : ∀ operation ∈ before, operation.Admissible := by
    simp [before, Operation.Admissible]
  have hsession : ∀ operation ∈ session, operation.Admissible ∧ operation.KeepsCounts := by
    simp only [session, List.forall_mem_cons]
    exact ⟨⟨trivial, trivial⟩, ⟨trivial, SimulatedPad.keepsCounts_modifySlot _ _⟩,
      ⟨trivial, trivial⟩, fun _ ho => absurd ho List.not_mem_nil⟩
  have hreplaced : ∀ operation ∈ replaced, operation.Admissible := by
    simp [replaced, session, Operation.Admissible]
  -- a pad with more slots and signals is put in, but the schedule remains the old one
  have hcreated : h.pad.ticks = 0 ∧ h.pad.polls = 0 := ⟨rfl, rfl⟩
  have hticked : session.countP (·.isUpdate) = 2 := rfl
  have hsize : (SimulatedPad.create 2 few).available.size = 2 := by decide
  have htick : schedule 2 few = [.beginTick, .read 0 (.button .faceDown), .read 0 (.trigger .left),
      .read 1 (.button .faceDown), .read 1 (.trigger .left)] := by decide
  obtain ⟨-, ⟨hrecord, -⟩, -, hcounts⟩ := repeats_schedule ⟨0, ["jump"], [], []⟩
    (SimulatedPad.create 2 few) .default hbefore hreplaced
  obtain ⟨hticks, hpolls⟩ := hcounts (.create 2 few) hbefore hsession
  refine ⟨hbefore, hsession, hreplaced, ?_, ?_, ?_⟩
  · rw [hticks, hcreated.1, hticked]
  · rw [hpolls, hcreated.2, hticked, hsize]
    rfl
  · rw [hrecord, ← htick]
    rfl

end Host

end InputMap
