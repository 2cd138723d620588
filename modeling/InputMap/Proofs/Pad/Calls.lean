import InputMap.Pad.Simulated
import InputMap.Proofs.Poll.Answers

/-!
# The calls of a pad

What becomes of a pad depends on the calls that it gets and on their order.  The calls of one tick
have an order of their own, in which the tick begins before anything is read, and readings are
ordered by their slots and then by their signals.

Which calls a pad gets can be seen with a recorder in front of it: it lets the pad answer, and
writes each call down.

## Key results

- `PadCall.mem_schedule`, `PadCall.pairwise_schedule`: the calls of one tick, in order
- `Recording`: a pad with a record of the calls that it got
- `SimulatedPad.ticks_afterCalls`, `SimulatedPad.polls_afterCalls`: the counters of a simulated pad
- `PadCall.count_schedule`, `PadCall.countP_isRead_schedule`: how many calls one tick makes
-/

namespace InputMap

variable {σ : Type}

/-! ## Calls and their order -/

-- signals are ordered as they are declared: buttons, triggers, sticks
deriving instance Ord for Button, Trigger, Stick, Signal

/-- The signals of a set are listed in their order. -/
theorem SignalSet.pairwise_toList (set : SignalSet) :
    set.toList.Pairwise fun s t => compare s t = .lt :=
  List.Pairwise.filter _ (by decide)

/-- A call of a pad that can change it.  The start of a tick comes first, and readings are ordered
    by their slots and then by their signals. -/
inductive PadCall where
  | beginTick
  | read (slot : Nat) (s : Signal)
deriving DecidableEq, Repr, Ord

namespace PadCall

/-- Whether a call asks for a reading. -/
def isRead : PadCall → Bool
  | beginTick => false
  | read .. => true

/-- The readings of one slot, in the order of the signals. -/
def readsOf (signals : SignalSet) (slot : Nat) : List PadCall := signals.toList.map (read slot)

/-- The calls of one tick: it begins once, and then the slots are read in their order. -/
def schedule (slots : Nat) (signals : SignalSet) : List PadCall :=
  beginTick :: (List.range slots).flatMap (readsOf signals)

/-- Readings are compared by slot, then by signal. -/
theorem compare_read (slot slot' : Nat) (s t : Signal) :
    compare (read slot s) (read slot' t) = (compare slot slot').then (compare s t) := by
  show instOrdPadCall.ord _ _ = _
  rw [instOrdPadCall.ord, Ordering.then_eq]

/-- A tick begins, and reads each signal of each slot. -/
theorem mem_schedule {slots : Nat} {signals : SignalSet} {call : PadCall} :
    call ∈ schedule slots signals ↔
      call = beginTick ∨ ∃ slot s, slot < slots ∧ s ∈ signals ∧ call = read slot s := by
  simp only [schedule, readsOf, List.mem_cons, List.mem_flatMap, List.mem_range, List.mem_map,
    SignalSet.mem_toList]
  refine or_congr_right ⟨?_, ?_⟩
  · rintro ⟨slot, hslot, s, hs, rfl⟩
    exact ⟨slot, s, hslot, hs, rfl⟩
  · rintro ⟨slot, s, hslot, hs, rfl⟩
    exact ⟨slot, hslot, s, hs, rfl⟩

/-- The calls of a tick are made in their order, each of them once. -/
theorem pairwise_schedule (slots : Nat) (signals : SignalSet) :
    (schedule slots signals).Pairwise fun x y => compare x y = .lt := by
  refine List.pairwise_cons.2 ⟨fun call hcall => ?_, List.pairwise_flatMap.2 ⟨fun slot _ => ?_, ?_⟩⟩
  · obtain ⟨slot, -, hcall⟩ := List.mem_flatMap.1 hcall
    obtain ⟨s, -, rfl⟩ := List.mem_map.1 hcall
    rfl
  · -- within a slot the signals decide
    refine List.pairwise_map.2 (signals.pairwise_toList.imp fun hst => ?_)
    rw [compare_read, Std.ReflOrd.compare_self, hst]
    rfl
  · -- and before that the slots do
    refine List.pairwise_lt_range.imp fun hlt x hx y hy => ?_
    obtain ⟨s, -, rfl⟩ := List.mem_map.1 hx
    obtain ⟨t, -, rfl⟩ := List.mem_map.1 hy
    rw [compare_read, Nat.compare_eq_lt.2 hlt]
    rfl

end PadCall

namespace Pad

variable [Pad σ]

/-- The pad after one call. -/
def afterCall (pad : σ) : PadCall → σ
  | .beginTick => (beginTick pad).2
  | .read slot s => (read pad slot s).2

/-- The pad after several calls. -/
def afterCalls (pad : σ) (calls : List PadCall) : σ := calls.foldl afterCall pad

/-- Calls that are made one after the other. -/
theorem afterCalls_append (pad : σ) (first second : List PadCall) :
    afterCalls pad (first ++ second) = afterCalls (afterCalls pad first) second :=
  List.foldl_append

/-- Reading signals is a list of calls. -/
theorem afterReads_eq (pad : σ) (slot : Nat) (list : List Signal) :
    afterReads pad slot list = afterCalls pad (list.map (.read slot)) := by
  rw [afterCalls, List.foldl_map]
  rfl

end Pad

/-! ## Recorders -/

/-- A pad with a record of the calls that it got. -/
structure Recording (σ : Type) where
  pad : σ
  calls : List PadCall

/-- A recorder knows neither the number of slots nor the signals: a host that asks for them once it
    has been created is not told the right ones. -/
instance [Pad σ] : Pad (Recording σ) where
  slotCount _ := 0
  signals _ := .ofList []
  beginTick r := ((Pad.beginTick r.pad).1, ⟨(Pad.beginTick r.pad).2, r.calls ++ [.beginTick]⟩)
  read r slot s :=
    ((Pad.read r.pad slot s).1, ⟨(Pad.read r.pad slot s).2, r.calls ++ [.read slot s]⟩)

/-! ## Counts -/

namespace PadCall

/-- There is one reading for each signal. -/
theorem countP_isRead_readsOf (signals : SignalSet) (slot : Nat) :
    (readsOf signals slot).countP isRead = signals.size := by
  rw [readsOf, List.countP_map]
  exact List.countP_eq_length.2 fun _ _ => rfl

/-- Reading the signals of a slot does not begin a tick. -/
theorem beginTick_notMem_readsOf (signals : SignalSet) (slot : Nat) :
    beginTick ∉ readsOf signals slot := by
  intro hmem
  obtain ⟨s, -, heq⟩ := List.mem_map.1 hmem
  cases heq

/-- A tick begins once. -/
theorem count_schedule (slots : Nat) (signals : SignalSet) :
    (schedule slots signals).count .beginTick = 1 := by
  have hreads : (((List.range slots).flatMap (readsOf signals)).count .beginTick) = 0 := by
    refine List.count_eq_zero.2 fun hmem => ?_
    obtain ⟨slot, -, hmem⟩ := List.mem_flatMap.1 hmem
    exact beginTick_notMem_readsOf signals slot hmem
  rw [schedule, List.count_cons_self, hreads]

/-- A tick asks for each signal of each slot. -/
theorem countP_isRead_schedule (slots : Nat) (signals : SignalSet) :
    (schedule slots signals).countP isRead = slots * signals.size := by
  rw [schedule, List.countP_cons_of_neg Bool.false_ne_true, List.countP_flatMap]
  simp only [Function.comp_def, countP_isRead_readsOf, List.map_const', List.length_range,
    List.sum_replicate_nat]

end PadCall

namespace SimulatedPad

/-- A simulated pad counts the ticks that it is told of. -/
theorem ticks_afterCalls (pad : SimulatedPad) (calls : List PadCall) :
    (Pad.afterCalls pad calls).ticks = pad.ticks + calls.count .beginTick := by
  -- on the calls; only the beginning of a tick counts
  induction calls generalizing pad with
  | nil => rfl
  | cons call rest ih =>
    rw [Pad.afterCalls, List.foldl_cons, ← Pad.afterCalls, ih]
    cases call with
    | beginTick =>
      show pad.ticks + 1 + _ = _
      rw [List.count_cons_self]
      omega
    | read slot s => rw [List.count_cons_of_ne (by simp)]; rfl

/-- It counts the readings that are asked of it. -/
theorem polls_afterCalls (pad : SimulatedPad) (calls : List PadCall) :
    (Pad.afterCalls pad calls).polls = pad.polls + calls.countP PadCall.isRead := by
  -- on the calls; only a read counts
  induction calls generalizing pad with
  | nil => rfl
  | cons call rest ih =>
    rw [Pad.afterCalls, List.foldl_cons, ← Pad.afterCalls, ih]
    cases call with
    | beginTick => rw [List.countP_cons_of_neg Bool.false_ne_true]; rfl
    | read slot s =>
      show pad.polls + 1 + _ = _
      rw [List.countP_cons_of_pos rfl]
      omega

/-- A change of a simulated pad that leaves its counters. -/
def KeepsCounts (f : SimulatedPad → SimulatedPad) : Prop :=
  ∀ pad, (f pad).ticks = pad.ticks ∧ (f pad).polls = pad.polls

/-- What is done to a slot from outside leaves the counters: readings can be set, and slots can be
    connected and disconnected. -/
theorem keepsCounts_modifySlot (slot : Nat) (f : SimulatedSlot → SimulatedSlot) :
    KeepsCounts (·.modifySlot slot f) :=
  fun _ => ⟨rfl, rfl⟩

end SimulatedPad

end InputMap
