import InputMap.Pad.Simulated
import InputMap.Proofs.BindingTable.WellFormed
import InputMap.Proofs.Player.Values
import InputMap.Proofs.Poll.Answers

/-!
# What a binding reads of a poll

A binding is checked against the signals of a pad, and the same signals are polled.  The check asks
for every signal that the expression names, so a poll has an entry for each signal that can be read
when the binding is evaluated.  The resting value that stands in for a missing entry is never used:
whatever stood there instead, the binding would come to the same.

## Key results

- `Snapshot.Includes.get_eq`: more readings do not change those that are there
- `Poll.exists_reading?_of_check`: a poll has an entry for each signal of a checked binding
- `Expr.depends_on_reads`: signals and the previous value are all that is read
-/

namespace InputMap

namespace Snapshot

variable {r r' : Snapshot} {s : Signal} {v : Value}

/-- Readings among which are all of `r`; where `r` has no entry, anything may stand. -/
def Includes (r' r : Snapshot) : Prop := ∀ s v, r.reading? s = some v → r'.reading? s = some v

/-- A reading that has been entered is the one that is read. -/
theorem get_of_reading? (h : r.reading? s = some v) : r.get s = v := by
  rw [get, h, Option.getD_some]

/-- More readings do not change those that are there. -/
theorem Includes.get_eq (hr : r'.Includes r) (h : r.reading? s = some v) : r'.get s = r.get s := by
  rw [get_of_reading? h, get_of_reading? (hr s v h)]

end Snapshot

variable {σ : Type} [Pad σ] {name : String} {c : Category} {e : Expr} {available : SignalSet}
  {b : Binding}

/-- If a binding is accepted with the signals that are polled, then each signal of it is read. -/
theorem Poll.exists_reading?_of_check (h : Binding.check name c e available = .ok b)
    (settings : Settings) (slot : Nat) (pad : σ) :
    ∀ s ∈ b.expr.signals, ∃ v, (run settings available slot pad).snapshot.reading? s = some v := by
  intro s hs
  obtain ⟨hcategory, rfl⟩ := Binding.check_eq_ok.1 h
  have hmem : s ∈ available := hcategory.mem_of_mem_signals hs
  exact ⟨_, by rw [reading?_run, if_pos hmem]⟩

/-- Signals and the previous value are all that an expression reads.  It has the same value, or none
    in both cases, on readings that are the same for each signal that it names; and it has the same
    category, or the same error, under sets of signals that have the same of those.  The previous
    value and its category matter only if `previous` stands in the expression.  So a binding that is
    checked against the signals of a poll finds an entry for each signal that it reads, and never
    sees the resting value that stands in for a missing one: with anything else in the places of
    missing entries it comes to the same. -/
theorem Expr.depends_on_reads (e : Expr) :
    (∀ (r r' : Snapshot) (v v' : Value), (∀ s ∈ e.signals, r.get s = r'.get s) →
      (e.readsPrevious = true → v = v') → e.evaluate? r v = e.evaluate? r' v') ∧
    (∀ (available available' : SignalSet) (own own' : Category),
      (∀ s ∈ e.signals, (s ∈ available ↔ s ∈ available')) →
      (e.readsPrevious = true → own = own') → e.infer own available = e.infer own' available') ∧
    ∀ (name : String) (c : Category) (available : SignalSet) (b : Binding),
      Binding.check name c e available = .ok b →
        ∀ (settings : Settings) (slot : Nat) (pad : σ),
          let r := (Poll.run settings available slot pad).snapshot
          (∀ s ∈ e.signals, ∃ v, r.reading? s = some v ∧ r.get s = v) ∧
            ∀ (r' : Snapshot) (v : Value), r'.Includes r →
              b.expr.evaluate? r' v = b.expr.evaluate? r v ∧ b.evaluate r' v = b.evaluate r v := by
  refine ⟨fun r r' v v' => evaluate?_congr, fun available available' own own' => infer_congr, ?_⟩
  intro name c available b hcheck settings slot pad r
  have hentry := Poll.exists_reading?_of_check hcheck settings slot pad
  have hexpr : b.expr = e := by rw [(Binding.check_eq_ok.1 hcheck).2]
  refine ⟨fun s hs => ?_, fun r' v hr' => ?_⟩
  · obtain ⟨w, hw⟩ := hentry s (hexpr ▸ hs)
    exact ⟨w, hw, Snapshot.get_of_reading? hw⟩
  · -- the two agree on the signals of the binding, since the poll has an entry for each of them
    have hget : ∀ s ∈ b.expr.signals, r'.get s = r.get s := by
      intro s hs
      obtain ⟨w, hw⟩ := hentry s hs
      exact hr'.get_eq hw
    exact ⟨evaluate?_congr hget fun _ => rfl, Binding.evaluate_congr hget v⟩

/-- A trigger that counts while a button is held.  Another snapshot has an odd entry for a stick and
    another previous value; another set of signals has no stick at all. -/
theorem Expr.depends_on_reads_of_trigger :
    let held : Expr :=
      .branch (.input (.button .faceDown)) (.input (.trigger .left)) (.constant (.scalar 0.25))
    let r := (Snapshot.empty.insert (.button .faceDown) (.bool true)).insert (.trigger .left)
      (.scalar 0.5)
    let few := SignalSet.ofList [.trigger .left, .button .faceDown]
    let polled := (Poll.run .default few 0 (SimulatedPad.create 1 .all)).snapshot
    held.readsPrevious = false ∧
      held.evaluate? (r.insert (.stick .left) (.bool true)) (.bool true) =
        held.evaluate? r (.scalar 1.0) ∧
      held.infer .digital few = held.infer .analog1 .all ∧
      ∃ b, Binding.check "throttle" .analog1 held few = .ok b ∧ polled.reading? (.stick .left) = none ∧
        b.evaluate (polled.insert (.stick .left) (.bool true)) (.scalar 1.0) =
          b.evaluate polled (.scalar 1.0) := by
  intro held r few polled
  have hfresh : held.readsPrevious = false := rfl
  have hcheck : Binding.check "throttle" .analog1 held few = .ok ⟨held, .analog1⟩ := by rfl
  have hfew : ∀ s ∈ held.signals, s ∈ few := by decide
  have hnone : polled.reading? (.stick .left) = none := by decide +kernel
  obtain ⟨hvalue, hcategory, hpoll⟩ := depends_on_reads (σ := SimulatedPad) held
  -- the stick was not polled, so that an entry for it takes nothing away
  have hincludes : (polled.insert (.stick .left) (.bool true)).Includes polled := by
    intro s v hv
    rw [Snapshot.reading?_insert]
    split
    · rename_i hs
      rw [hs, hnone] at hv
      cases hv
    · exact hv
  -- neither the stick nor the previous value is read
  refine ⟨hfresh, hvalue _ _ _ _ ?_ ?_, hcategory _ _ _ _ ?_ ?_, _, hcheck, hnone, ?_⟩
  · intro s hs
    have hne : s ≠ .stick .left := by
      rintro rfl
      exact absurd hs (by decide)
    exact Snapshot.get_insert_of_ne r _ hne
  · exact fun h => absurd (hfresh.symm.trans h) Bool.false_ne_true
  · exact fun s hs => ⟨fun _ => SignalSet.mem_all s, fun _ => hfew s hs⟩
  · exact fun h => absurd (hfresh.symm.trans h) Bool.false_ne_true
  · exact ((hpoll _ _ _ _ hcheck .default 0 (SimulatedPad.create 1 .all)).2 _ _ hincludes).2

end InputMap
